import Dockermock.Pf.Removal

/-!
stop_jail on anchors that start_network and add_rdr_ports have built. Each
translation was appended after a redirect for the same container, so clearing
an anchor whose redirects are all of one container takes nothing of another.
-/

namespace Dockermock.Pf

open Library Database

/-- The rules of the container are gone, and all others are there in their order. -/
def TakesOwn (before after : Anchor) (id : Nat) : Prop :=
  after.rdr = before.rdr.filter (fun rule => rule.owner ≠ .container id) ∧
    after.nat = before.nat.filter (fun rule => rule.owner ≠ .container id)

/-- Port and protocol tell the rules of the container from those of all other owners. The
translations need not be told apart where every redirect is the container's. -/
structure Separate (anchor : Anchor) (id : Nat) (ports : List Port) : Prop where
  rdr : ∀ rule ∈ anchor.rdr, (∃ port ∈ ports, rdrHit port rule = true) ↔ rule.owner = .container id
  nat : (∀ rule ∈ anchor.rdr, rule.owner = .container id) ∨
    ∀ rule ∈ anchor.nat, (∃ port ∈ ports, natHit port rule = true) ↔ rule.owner = .container id

def Unowned (anchor : Anchor) (id : Nat) : Prop :=
  ∀ rule ∈ anchor.rdr ++ anchor.nat, rule.owner ≠ .container id

/-- stop_jail either raises before it comes to the rules of a container that has none, or
comes to them with room for all positions and finds them separate. -/
def Spared (site : Site) (anchors : Anchors) (id : Nat) (jail : Jail) (network : String) : Prop :=
  if jail.reached then
    (∀ other ∈ site.networks id, Fits (anchors other) (site.ports id)) ∧
      Separate (anchors network) id (site.ports id)
  else Unowned (anchors network) id

section Networks

def portsOf (network : String) (calls : List (Port × String)) : List Port :=
  (calls.filter fun call => call.2 = network).map Prod.fst

theorem removePorts_eq_some_iff (calls : List (Port × String)) (anchors after : Anchors) :
    removePorts calls anchors = some after ↔
      ∀ network, (portsOf network calls).foldlM removePort (anchors network) =
          some (after network) := by
  induction calls generalizing anchors with
  | nil => simp [removePorts, portsOf, funext_iff]
  | cons call rest ih =>
      rcases call with ⟨port, own⟩
      have others (network : String) (other : network ≠ own) :
          portsOf network ((port, own) :: rest) = portsOf network rest := by
        simp [portsOf, Ne.symm other]
      have first : portsOf own ((port, own) :: rest) = port :: portsOf own rest := by simp [portsOf]
      rw [removePorts]
      cases removed : removePort (anchors own) port with
      | none =>
          refine iff_of_false nofun fun every => ?_
          have failed := every own
          rw [first, List.foldlM_cons, removed] at failed
          cases failed
      | some anchor =>
          rw [Option.bind_some, ih]
          refine forall_congr' fun network => ?_
          by_cases same : network = own
          · rw [same, first, List.foldlM_cons, removed, Function.update_self]
            rfl
          · rw [others network same, Function.update_of_ne same]

theorem portsOf_removalCalls (network : String) (ports : List Port) (networks : List String)
    (distinct : networks.Nodup) :
    portsOf network (removalCalls ports networks) = if network ∈ networks then ports else [] := by
  have once : (networks.filter fun other => other = network) =
      if network ∈ networks then [network] else [] := by
    by_cases member : network ∈ networks
    · rw [if_pos member, List.filter_eq, List.count_eq_one_of_mem distinct member]
      rfl
    · rw [if_neg member, List.filter_eq, List.count_eq_zero_of_not_mem member]
      rfl
  induction ports with
  | nil => simp [removalCalls, portsOf]
  | cons port rest ih =>
      have calls : portsOf network (removalCalls (port :: rest) networks) =
          (networks.filter fun other => other = network).map (fun _ => port) ++
            portsOf network (removalCalls rest networks) := by
        simp [removalCalls, portsOf, List.filter_map, Function.comp_def]
      rw [calls, ih, once]
      by_cases member : network ∈ networks <;> simp [member]

end Networks

section Building

variable {inetPton : String → Bool}

/-- Every translation stands beside a redirect for the same owner. -/
def Backed (anchor : Anchor) : Prop :=
  ∀ rule ∈ anchor.nat, ∃ other ∈ anchor.rdr, other.owner = rule.owner

theorem Backed.rooted {anchor : Anchor} (backed : Backed anchor) : Rooted anchor := by
  intro bare
  refine List.eq_nil_iff_forall_not_mem.mpr fun rule member => ?_
  rcases backed rule member with ⟨other, listed, _⟩
  rw [bare] at listed
  cases listed

theorem Backed.appendRdrRule {anchor after : Anchor} {rule : Rule} (backed : Backed anchor)
    (appended : appendRdrRule inetPton anchor rule = some after) :
    Backed after ∧ rule ∈ after.rdr := by
  rcases Option.ite_none_right_eq_some.mp appended with ⟨_, made⟩
  cases made
  refine ⟨fun translation member => ?_, by simp⟩
  rcases backed translation member with ⟨other, listed, same⟩
  exact ⟨other, List.mem_append_left _ listed, same⟩

theorem Backed.appendNatRule {anchor after : Anchor} {rule redirect : Rule} (backed : Backed anchor)
    (beside : redirect ∈ anchor.rdr) (same : redirect.owner = rule.owner)
    (appended : appendNatRule inetPton anchor rule = some after) : Backed after := by
  rcases Option.ite_none_right_eq_some.mp appended with ⟨_, made⟩
  cases made
  intro translation member
  rcases List.mem_append.mp member with old | new
  · exact backed translation old
  · rw [List.mem_singleton.mp new]
    exact ⟨redirect, beside, same⟩

theorem Backed.startNetwork {anchor : Anchor} (backed : Backed anchor)
    (name subnet gateway : String) : Backed (startNetwork inetPton anchor name subnet gateway) := by
  unfold Pf.startNetwork
  split
  · exact backed
  · cases appended : Pf.appendRdrRule inetPton anchor (dnsRule name subnet gateway) with
    | none => exact backed
    | some after => exact (backed.appendRdrRule appended).1

theorem Backed.appendPorts {anchor : Anchor} (backed : Backed anchor) (id : Nat) (network : String)
    (rdr : List String) (ports : List Port) :
    Backed (appendPorts inetPton id network rdr ports anchor) := by
  induction ports generalizing anchor with
  | nil => exact backed
  | cons port rest ih =>
      rw [Pf.appendPorts]
      split
      · exact backed
      · rename_i redirected appended
        rcases backed.appendRdrRule appended with ⟨kept, beside⟩
        apply ih
        cases translated : rdr.head?.bind fun address =>
            Pf.appendNatRule inetPton redirected (natRule id network address port) with
        | none => exact kept
        | some after =>
            rcases Option.bind_eq_some_iff.mp translated with ⟨address, _, appended⟩
            have same : (rdrRule id network rdr port).owner =
              (natRule id network address port).owner := rfl
            exact kept.appendNatRule beside same appended

theorem backed_step (site : Site) (anchors after : Anchors) (action : Action)
    (backed : ∀ network, Backed (anchors network)) (taken : step site anchors action = some after) :
    ∀ network, Backed (after network) := by
  have update (own : String) (anchor : Anchor) (kept : Backed anchor) (network : String) :
      Backed (Function.update anchors own anchor network) := by
    by_cases same : network = own
    · rw [same, Function.update_self]
      exact kept
    · rw [Function.update_of_ne same]
      exact backed network
  cases action with
  | startNetwork name subnet gateway =>
      cases taken
      exact update _ _ ((backed name).startNetwork name subnet gateway)
  | addRdrPorts id network rdr =>
      cases taken
      unfold addRdrPorts
      split
      · exact backed
      · exact update _ _ ((backed network).appendPorts id network rdr _)

end Building

section Stopping

theorem missed_iff_other (hit : Port → Rule → Bool) (ports : List Port) (rule : Rule) (id : Nat) :
    ((!ports.any fun port => hit port rule) = true ↔ decide (rule.owner ≠ .container id) = true) ↔
      ((∃ port ∈ ports, hit port rule = true) ↔ rule.owner = .container id) := by
  rw [decide_eq_true_iff, Bool.not_eq_true', ← Bool.not_eq_true, not_iff_not, List.any_eq_true]

theorem left_takesOwn_iff (anchor : Anchor) (id : Nat) (ports : List Port)
    (backed : Backed anchor) :
    TakesOwn anchor (left anchor ports) id ↔ Separate anchor id ports := by
  have redirects : (left anchor ports).rdr =
    anchor.rdr.filter (fun rule => rule.owner ≠ .container id) ↔
      ∀ rule ∈ anchor.rdr, (∃ port ∈ ports, rdrHit port rule = true) ↔ rule.owner = .container id :=
    (filter_eq_filter_iff _ _ _).trans
      (forall₂_congr fun rule _ => missed_iff_other rdrHit ports rule id)
  constructor
  · rintro ⟨rdr, nat⟩
    have told := redirects.mp rdr
    refine ⟨told, or_iff_not_imp_left.mpr fun shared => ?_⟩
    -- A redirect of somebody else is left, so the translations were filtered and not cleared.
    have uncleared : leftRdr anchor ports ≠ [] := by
      intro cleared
      apply shared
      intro rule member
      have hit := List.filter_eq_nil_iff.mp cleared rule member
      exact (told rule member).mp (by simpa using hit)
    rw [left, if_neg uncleared] at nat
    intro rule member
    exact (missed_iff_other natHit ports rule id).mp
      ((filter_eq_filter_iff _ _ _).mp nat rule member)
  · rintro ⟨told, nat⟩
    refine ⟨redirects.mpr told, ?_⟩
    by_cases cleared : leftRdr anchor ports = []
    · -- Every redirect has been hit, so each is the container's, and so is what it backs.
      have own : ∀ rule ∈ anchor.nat, rule.owner = .container id := by
        intro rule member
        rcases backed rule member with ⟨other, listed, same⟩
        have hit := List.filter_eq_nil_iff.mp cleared other listed
        exact same ▸ (told other listed).mp (by simpa using hit)
      rw [left, if_pos cleared]
      exact (List.filter_eq_nil_iff.mpr fun rule member => by simp [own rule member]).symm
    · rcases (leftRdr_ne_nil_iff _ _).mp cleared with ⟨rule, member, missed⟩
      have apart := nat.resolve_left fun every => by
        rcases (told rule member).mpr (every rule member) with ⟨port, listed, hit⟩
        rw [missed port listed] at hit
        cases hit
      rw [left, if_neg cleared]
      refine (filter_eq_filter_iff _ _ _).mpr fun translation listed => ?_
      exact (missed_iff_other natHit ports translation id).mpr (apart translation listed)

theorem takesOwn_self_iff (anchor : Anchor) (id : Nat) :
    TakesOwn anchor anchor id ↔ Unowned anchor id := by
  rw [TakesOwn, eq_comm, List.filter_eq_self, @eq_comm _ anchor.nat, List.filter_eq_self, Unowned,
    List.forall_mem_append]
  simp only [decide_eq_true_eq]

/-- In every state that start_network and add_rdr_ports can build, stop_jail takes exactly
the rules of its container out of an anchor if and only if they are separate. -/
theorem stop_jail_takes_own (site : Site) (actions : List Action) (anchors : Anchors)
    (built : Run (step site) anyAction noRules actions anchors) (id : Nat) (jail : Jail)
    (network : String) (member : network ∈ site.networks id) :
    (∃ after, stopJail site anchors id jail = some after ∧
      TakesOwn (anchors network) (after network) id) ↔ Spared site anchors id jail network := by
  have backed : ∀ network, Backed (anchors network) := by
    apply run_invariant (fun anchors => ∀ network, Backed (anchors network)) _ built nofun
    intro before action after kept _ taken
    exact backed_step site before after action kept taken
  unfold stopJail Spared
  by_cases reached : jail.reached = true
  · rw [if_pos reached, if_pos reached]
    simp only [removePorts_eq_some_iff, portsOf_removalCalls _ _ _ (site.distinct id)]
    constructor
    · rintro ⟨after, every, own⟩
      have results (other : String) (listed : other ∈ site.networks id) :
          Fits (anchors other) (site.ports id) ∧
              after other = left (anchors other) (site.ports id) := by
        have result := every other
        rw [if_pos listed] at result
        exact (removePort_foldlM _ _ _ (backed other).rooted).mp result
      rw [(results network member).2] at own
      exact ⟨fun other listed => (results other listed).1,
        (left_takesOwn_iff _ _ _ (backed network)).mp own⟩
    -- the call returns if every array has room, those of the other networks too
    · rintro ⟨fits, separate⟩
      refine ⟨fun other => if other ∈ site.networks id then left (anchors other) (site.ports id)
        else anchors other, fun other => ?_, ?_⟩
      · dsimp only
        by_cases listed : other ∈ site.networks id
        · rw [if_pos listed, if_pos listed]
          exact (removePort_foldlM _ _ _ (backed other).rooted).mpr ⟨fits other listed, rfl⟩
        · rw [if_neg listed, if_neg listed]
          rfl
      · dsimp only
        rw [if_pos member]
        exact (left_takesOwn_iff _ _ _ (backed network)).mpr separate
  -- stop_jail raises before it comes to the rules
  · rw [if_neg reached, if_neg reached, ← takesOwn_self_iff]
    constructor
    · rintro ⟨_, same, own⟩
      cases same
      exact own
    · exact fun own => ⟨anchors, rfl, own⟩

end Stopping

section Example

def pairSite (first second : Port) : Site where
  ports := fun id => if id = 1 then [first] else if id = 2 then [second] else []
  networks := fun _ => ["app"]
  distinct := fun _ => List.nodup_singleton _
  inetPton :=
    fun text => text ∈ ["127.0.0.11", "10.9.0.0", "10.9.0.1", "10.9.0.2", "10.9.0.3", "0.0.0.0"]

def publishBoth : List Action :=
  [.startNetwork "app" "10.9.0.0/24" "10.9.0.1", .addRdrPorts 1 "app" ["10.9.0.2"],
    .addRdrPorts 2 "app" ["10.9.0.3"]]

def runningJail : Jail := ⟨.running, .pid 100, fun pid => pid = 100⟩

def stopFirst (site : Site) (anchors : Anchors) : Anchor × Option Anchor :=
  (anchors "app", (stopJail site anchors 1 runningJail).map fun after => after "app")

def webPort : Port := ⟨8080, 80, none⟩

def dbPort : Port := ⟨5432, 5432, none⟩

theorem stop_jail_takes_own_beside_db :
    ∃ anchors, Run (step (pairSite webPort dbPort)) anyAction noRules publishBoth anchors ∧
      (∃ after, stopJail (pairSite webPort dbPort) anchors 1 runningJail = some after ∧
        TakesOwn (anchors "app") (after "app") 1) ∧
      Spared (pairSite webPort dbPort) anchors 1 runningJail "app" := by
  let site := pairSite webPort dbPort
  let dns := dnsRule "app" "10.9.0.0/24" "10.9.0.1"
  let web := rdrRule 1 "app" ["10.9.0.2"] webPort
  let db := rdrRule 2 "app" ["10.9.0.3"] dbPort
  let webNat := natRule 1 "app" "10.9.0.2" webPort
  let dbNat := natRule 2 "app" "10.9.0.3" dbPort
  rcases run_of_replay (step site) anyAction (stopFirst site) noRules publishBoth
    (⟨[dns, web, db], [webNat, dbNat]⟩, some ⟨[dns, db], [dbNat]⟩) (by decide) with
      ⟨anchors, built, read⟩
  have before : anchors "app" = ⟨[dns, web, db], [webNat, dbNat]⟩ := congrArg Prod.fst read
  rcases Option.map_eq_some_iff.mp (congrArg Prod.snd read) with ⟨after, stopped, remaining⟩
  have own : ∃ after, stopJail site anchors 1 runningJail = some after ∧
      TakesOwn (anchors "app") (after "app") 1 := by
    refine ⟨after, stopped, ?_⟩
    rw [before, remaining]
    exact ⟨by decide, by decide⟩
  exact ⟨anchors, built, own,
    (stop_jail_takes_own site publishBoth anchors built 1 runningJail "app" List.mem_cons_self).mp
      own⟩

/-- No two containers publish the same port of the host. -/
def PublishApart (site : Site) : Prop :=
  ∀ left right, left ≠ right → ∀ port ∈ site.ports left, ∀ other ∈ site.ports right,
    port.host = other.host → ipProto port ≠ ipProto other

/-- Both containers listen on 80: stopping the first takes the translation of the second. -/
theorem stop_jail_takes_other :
    ¬ ∀ site, PublishApart site → ∀ actions anchors,
      Run (step site) anyAction noRules actions anchors →
      ∀ id jail network, network ∈ site.networks id → jail.status = .running →
        ∃ after, stopJail site anchors id jail = some after ∧
          TakesOwn (anchors network) (after network) id := by
  intro claimed
  let apiPort : Port := ⟨8081, 80, none⟩
  let site := pairSite webPort apiPort
  have apart : PublishApart site := by
    intro left right different port member other listed same
    simp only [site, pairSite] at member listed
    split_ifs at member listed <;> simp_all [webPort, apiPort]
  let dns := dnsRule "app" "10.9.0.0/24" "10.9.0.1"
  let web := rdrRule 1 "app" ["10.9.0.2"] webPort
  let api := rdrRule 2 "app" ["10.9.0.3"] apiPort
  let webNat := natRule 1 "app" "10.9.0.2" webPort
  let apiNat := natRule 2 "app" "10.9.0.3" apiPort
  rcases run_of_replay (step site) anyAction (stopFirst site) noRules publishBoth
    (⟨[dns, web, api], [webNat, apiNat]⟩, some ⟨[dns, api], []⟩) (by decide) with
      ⟨anchors, built, read⟩
  rcases claimed site apart publishBoth anchors built 1 runningJail "app"
      List.mem_cons_self rfl with
    ⟨after, stopped, _, translations⟩
  have before : anchors "app" = ⟨[dns, web, api], [webNat, apiNat]⟩ := congrArg Prod.fst read
  have remaining : (some after).map (fun after => after "app") = some ⟨[dns, api], []⟩ :=
    stopped ▸ congrArg Prod.snd read
  have left : after "app" = ⟨[dns, api], []⟩ := Option.some.inj remaining
  rw [before, left] at translations
  exact absurd translations (by decide)

end Example

end Dockermock.Pf
