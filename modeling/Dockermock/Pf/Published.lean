import Dockermock.Pf.Ownership

/-!
The redirects of an anchor against the status of the containers. start_network
and add_rdr_ports append; stop_jail alone takes redirects away, and neither an
exit that is reported by update_exit_code nor a start that fails comes through
it. A start is in progress from the change of the status until the worker has
posted the ports for every network, a stop until the exit is reported.
-/

namespace Dockermock.Pf

open Library Database

structure Deployment extends Site where
  address : Nat → String → String

inductive Progress where
  | starting (left : List String)
  | stopping
  deriving DecidableEq, Repr

structure Published where
  anchors : Anchors
  status : Nat → Lifecycle.Status
  progress : Dict Nat Progress

inductive Event where
  | startNetwork (name subnet gateway : String)
  | start (id : Nat)
  | registers (id : Nat)
  | registerLost (id : Nat)
  | started (id : Nat)
  | stop (id : Nat) (pidFile : Lifecycle.PidFile) (kill : Int → Bool)
  | exit (id : Nat)

def stopped : Option Progress → Progress
  | some (.starting left) => .starting left
  | some .stopping | none => .stopping

def isStarting : Option Progress → Bool
  | some (.starting _) => true
  | some .stopping | none => false

theorem stopped_of_settled {progress : Option Progress} (settled : isStarting progress = false) :
    stopped progress = .stopping := by
  cases progress with
  | none => rfl
  | some phase =>
      cases phase with
      | stopping => rfl
      | starting left => cases settled

namespace Published

def initial : Published := ⟨noRules, fun _ => .created, .empty⟩

def jail (state : Published) (id : Nat) (pidFile : Lifecycle.PidFile) (kill : Int → Bool) : Jail :=
  ⟨state.status id, pidFile, kill⟩

def setStatus (state : Published) (id : Nat) (status : Lifecycle.Status) : Published :=
  { state with status := Function.update state.status id status }

def setProgress (state : Published) (id : Nat) (progress : Progress) : Published :=
  { state with progress := state.progress.set id progress }

def settle (state : Published) (id : Nat) : Published :=
  { state with progress := state.progress.pop id }

@[simp] theorem setStatus_status (state : Published) (id other : Nat) (status : Lifecycle.Status) :
    (state.setStatus id status).status other = if other = id then status else state.status other :=
  Function.update_apply state.status id status other

@[simp] theorem setStatus_progress (state : Published) (id : Nat) (status : Lifecycle.Status) :
    (state.setStatus id status).progress = state.progress := rfl

@[simp] theorem setStatus_anchors (state : Published) (id : Nat) (status : Lifecycle.Status) :
    (state.setStatus id status).anchors = state.anchors := rfl

@[simp] theorem setProgress_get (state : Published) (id other : Nat) (progress : Progress) :
    (state.setProgress id progress).progress.get other =
      if other = id then some progress else state.progress.get other :=
  Dict.get_set state.progress id other progress

@[simp] theorem setProgress_status (state : Published) (id : Nat) (progress : Progress) :
    (state.setProgress id progress).status = state.status := rfl

@[simp] theorem setProgress_anchors (state : Published) (id : Nat) (progress : Progress) :
    (state.setProgress id progress).anchors = state.anchors := rfl

@[simp] theorem settle_get (state : Published) (id other : Nat) :
    (state.settle id).progress.get other = if other = id then none else state.progress.get other :=
  Dict.get_pop state.progress id other

@[simp] theorem settle_status (state : Published) (id : Nat) :
    (state.settle id).status = state.status := rfl

@[simp] theorem settle_anchors (state : Published) (id : Nat) :
    (state.settle id).anchors = state.anchors := rfl

def step (site : Deployment) (state : Published) : Event → Option Published
  | .startNetwork name subnet gateway =>
      some { state with
        anchors := Function.update state.anchors name
          (startNetwork site.inetPton (state.anchors name) name subnet gateway) }
  | .start id =>
      if state.status id = .running then some state
      else some ((state.setStatus id .running).setProgress id (.starting (site.networks id)))
  | .registers id =>
      match state.progress.get id with
      | some (.starting (network :: left)) =>
          some ({ state with
            anchors := addRdrPorts site.toSite state.anchors id network [site.address id network]
              }.setProgress id (.starting left))
      | _ => none
  | .registerLost id =>
      match state.progress.get id with
      | some (.starting (_ :: left)) => some (state.setProgress id (.starting left))
      | _ => none
  | .started id =>
      if state.progress.get id = some (.starting []) then some (state.settle id) else none
  | .stop id pidFile kill =>
      (stopJail site.toSite state.anchors id (state.jail id pidFile kill)).map fun anchors =>
        if (state.jail id pidFile kill).reached then
          { state with anchors := anchors }.setProgress id (stopped (state.progress.get id))
        else state
  | .exit id =>
      if state.status id = .running then some ((state.setStatus id .exited).settle id) else none

end Published

section Property

def rulesOf (anchor : Anchor) (id : Nat) : List Rule :=
  anchor.rdr.filter fun rule => rule.owner = .container id

def dnsCount (anchor : Anchor) : Nat := anchor.rdr.countP fun rule => rule.owner = .dns

def portRules (site : Deployment) (id : Nat) (network : String) : List Rule :=
  (site.ports id).map (rdrRule id network [site.address id network])

/-- At most one rule for DNS, and one for each port of the running containers alone. -/
structure InStep (site : Deployment) (state : Published) : Prop where
  dns : ∀ network, dnsCount (state.anchors network) ≤ 1
  ports : ∀ id network, rulesOf (state.anchors network) id =
    if state.status id = .running ∧ network ∈ site.networks id then
      portRules site id network
    else []

/-- A network is started while it has no rule for DNS; the ports of a starting container are all
appended; a stop meets no other start or rule; and a container exits without rules. -/
def steady (site : Deployment) (state : Published) : Event → Prop
  | .startNetwork name _ _ => name = "host" ∨ dnsCount (state.anchors name) = 0
  | .registers id =>
      match state.progress.get id with
      | some (.starting (network :: _)) => ∀ rule ∈ portRules site id network,
          network ≠ "" ∧ (appendRdrRule site.inetPton (state.anchors network) rule).isSome
      | _ => True
  | .registerLost id => site.ports id = []
  | .stop id pidFile kill => (state.jail id pidFile kill).reached = true →
      isStarting (state.progress.get id) = false ∧ ∀ network ∈ site.networks id,
        ∀ rule ∈ (state.anchors network).rdr,
        (∃ port ∈ site.ports id, rdrHit port rule = true) ↔ rule.owner = .container id
  | .exit id => ∀ network ∈ site.networks id, rulesOf (state.anchors network) id = []
  | .start _ | .started _ => True

instance (site : Deployment) (state : Published) (event : Event) :
    Decidable (steady site state event) := by
  unfold steady
  split
  · infer_instance
  · split <;> infer_instance
  all_goals infer_instance

end Property

section Appended

variable {inetPton : String → Bool}

theorem appendRdrRule_rdr {anchor after : Anchor} {rule : Rule}
    (appended : appendRdrRule inetPton anchor rule = some after) :
    after.rdr = anchor.rdr ++ [rule] := by
  rcases Option.ite_none_right_eq_some.mp appended with ⟨_, made⟩
  cases made
  rfl

theorem appendRdrRule_isSome (anchor other : Anchor) (rule : Rule) :
    (appendRdrRule inetPton anchor rule).isSome = (appendRdrRule inetPton other rule).isSome := by
  unfold appendRdrRule
  split <;> rfl

theorem appendNatRule_rdr {anchor after : Anchor} {rule : Rule}
    (appended : appendNatRule inetPton anchor rule = some after) : after.rdr = anchor.rdr := by
  rcases Option.ite_none_right_eq_some.mp appended with ⟨_, made⟩
  cases made
  rfl

theorem appendPorts_rdr (id : Nat) (network : String) (rdr : List String) (ports : List Port)
    (anchor : Anchor) (accepted : ∀ rule ∈ ports.map (rdrRule id network rdr),
      (appendRdrRule inetPton anchor rule).isSome) :
    (appendPorts inetPton id network rdr ports anchor).rdr =
        anchor.rdr ++ ports.map (rdrRule id network rdr) := by
  induction ports generalizing anchor with
  | nil => simp [appendPorts]
  | cons port rest ih =>
      rw [List.map_cons, List.forall_mem_cons] at accepted
      rcases Option.isSome_iff_exists.mp accepted.1 with ⟨redirected, appended⟩
      rw [appendPorts, appended]
      dsimp only
      generalize translation : (rdr.head?.bind fun address =>
        appendNatRule inetPton redirected (natRule id network address port)) = translated
      have same : (translated.getD redirected).rdr =
          anchor.rdr ++ [rdrRule id network rdr port] := by
        cases translated with
        | none => exact appendRdrRule_rdr appended
        | some after =>
            rcases Option.bind_eq_some_iff.mp translation with ⟨address, _, added⟩
            exact (appendNatRule_rdr added).trans (appendRdrRule_rdr appended)
      rw [ih _ fun rule member => by
        rw [appendRdrRule_isSome _ anchor]; exact accepted.2 rule member, same,
        List.map_cons, List.append_assoc, List.singleton_append]

theorem Rooted.of_rdr {anchor : Anchor} {rule : Rule} (member : rule ∈ anchor.rdr) :
    Rooted anchor := by
  intro bare
  rw [bare] at member
  cases member

theorem Rooted.appendPorts {anchor : Anchor} (rooted : Rooted anchor) (id : Nat) (network : String)
    (rdr : List String) (ports : List Port) :
    Rooted (appendPorts inetPton id network rdr ports anchor) := by
  induction ports generalizing anchor with
  | nil => exact rooted
  | cons port rest ih =>
      rw [Pf.appendPorts]
      split
      · exact rooted
      · rename_i redirected appended
        have member : rdrRule id network rdr port ∈ redirected.rdr := by
          rw [appendRdrRule_rdr appended]
          simp
        apply ih
        cases translated : rdr.head?.bind fun address =>
            appendNatRule inetPton redirected (natRule id network address port) with
        | none => exact .of_rdr member
        | some after =>
            rcases Option.bind_eq_some_iff.mp translated with ⟨address, _, added⟩
            exact .of_rdr ((appendNatRule_rdr added).symm ▸ member)

end Appended

section Counted

theorem portRules_filter (site : Deployment) (id other : Nat) (network : String) :
    ((portRules site id network).filter fun rule => rule.owner = .container other) =
      if other = id then portRules site id network else [] := by
  by_cases same : other = id
  · rw [if_pos same, List.filter_eq_self]
    intro rule member
    rcases List.mem_map.mp member with ⟨port, _, rfl⟩
    simp [rdrRule, same]
  · rw [if_neg same, List.filter_eq_nil_iff]
    intro rule member
    rcases List.mem_map.mp member with ⟨port, _, rfl⟩
    simp [rdrRule, Ne.symm same]

theorem portRules_dns (site : Deployment) (id : Nat) (network : String) :
    (portRules site id network).countP (fun rule => rule.owner = .dns) = 0 := by
  rw [List.countP_eq_zero]
  intro rule member
  rcases List.mem_map.mp member with ⟨port, _, rfl⟩
  simp [rdrRule]

theorem startNetwork_update (inetPton : String → Bool) (anchors : Anchors)
    (name subnet gateway network : String) : Function.update anchors name
      (startNetwork inetPton (anchors name) name subnet gateway) network =
        anchors network ∨
      network = name ∧ name ≠ "host" ∧
        (Function.update anchors name (startNetwork inetPton (anchors name) name subnet gateway)
          network).rdr = (anchors network).rdr ++ [dnsRule name subnet gateway] := by
  by_cases same : network = name
  · subst same
    rw [Function.update_self, startNetwork]
    split
    · exact .inl rfl
    · rename_i other
      cases appended :
          appendRdrRule inetPton (anchors network) (dnsRule network subnet gateway) with
      | none => exact .inl rfl
      | some after => exact .inr ⟨rfl, other, appendRdrRule_rdr appended⟩
  · exact .inl (Function.update_of_ne same _ _)

theorem addRdrPorts_rooted (site : Deployment) (anchors : Anchors) (id : Nat) (network : String)
    (rooted : ∀ network, Rooted (anchors network)) (probe : String) :
    Rooted (addRdrPorts site.toSite anchors id network [site.address id network] probe) := by
  rw [addRdrPorts]
  split
  · exact rooted probe
  · by_cases same : probe = network
    · subst same
      rw [Function.update_self]
      exact (rooted probe).appendPorts id probe _ _
    · rw [Function.update_of_ne same]
      exact rooted probe

theorem addRdrPorts_rdr (site : Deployment) (anchors : Anchors) (id : Nat) (network : String)
    (accepted : ∀ rule ∈ portRules site id network,
      network ≠ "" ∧ (appendRdrRule site.inetPton (anchors network) rule).isSome) (probe : String) :
    (addRdrPorts site.toSite anchors id network [site.address id network] probe).rdr =
      (anchors probe).rdr ++ if probe = network then portRules site id network else [] := by
  rw [addRdrPorts]
  by_cases unnamed : network = ""
  · have bare : portRules site id network = [] :=
      List.eq_nil_iff_forall_not_mem.mpr fun rule member => (accepted rule member).1 unnamed
    rw [if_pos unnamed, bare, ite_self, List.append_nil]
  · rw [if_neg unnamed]
    by_cases same : probe = network
    · subst same
      rw [Function.update_self, if_pos rfl]
      exact appendPorts_rdr id probe _ _ _ fun rule member => (accepted rule member).2
    · rw [Function.update_of_ne same, if_neg same, List.append_nil]

end Counted

section Invariant

open Published

variable {site : Deployment}

/-- The networks that have the rules of a container at the moment. -/
def publishing (networks : List String) (status : Lifecycle.Status) (progress : Option Progress)
    (network : String) : Prop :=
  network ∈ networks ∧
    match progress with
    | some (.starting left) => network ∉ left
    | some .stopping => False
    | none => status = .running

instance (networks : List String) (status : Lifecycle.Status) (progress : Option Progress)
    (network : String) : Decidable (publishing networks status progress network) := by
  unfold publishing
  split <;> infer_instance

structure Consistent (site : Deployment) (state : Published) : Prop where
  rooted : ∀ network, Rooted (state.anchors network)
  dns : ∀ network, dnsCount (state.anchors network) ≤ 1
  rules : ∀ id network, rulesOf (state.anchors network) id =
    if publishing (site.networks id) (state.status id) (state.progress.get id) network then
      portRules site id network
    else []
  running : ∀ id, state.progress.get id ≠ none → state.status id = .running
  left : ∀ id left, state.progress.get id = some (.starting left) → ∃ done,
    site.networks id = done ++ left

variable {state : Published}

theorem Consistent.inStep (consistent : Consistent site state)
    (idle : state.progress.entries = []) : InStep site state := by
  refine ⟨consistent.dns, fun id network => ?_⟩
  have settled : state.progress.get id = none := by simp [Dict.get, idle]
  rw [consistent.rules id network, settled]
  simp [publishing, and_comm]

theorem Consistent.absent (consistent : Consistent site state) {id : Nat} {network : String}
    (quiet : ¬ publishing (site.networks id) (state.status id) (state.progress.get id) network) :
    rulesOf (state.anchors network) id = [] := by
  rw [consistent.rules id network, if_neg quiet]

theorem Consistent.left_next (consistent : Consistent site state) {id : Nat} {network : String}
    {left : List String} (progress : state.progress.get id = some (.starting (network :: left))) :
    ∃ done, site.networks id = done ++ left := by
  rcases consistent.left id _ progress with ⟨done, networks⟩
  exact ⟨done ++ [network], by rw [networks, List.append_assoc, List.singleton_append]⟩

/-- A step of one container leaves the rules of the others as they are. -/
theorem Consistent.change (consistent : Consistent site state) {after : Published} (id : Nat)
    (status : ∀ other, other ≠ id → after.status other = state.status other)
    (progress : ∀ other, other ≠ id → after.progress.get other = state.progress.get other)
    (rooted : ∀ network, Rooted (after.anchors network))
    (dns : ∀ network, dnsCount (after.anchors network) ≤ 1)
    (others : ∀ other, other ≠ id → ∀ network,
      rulesOf (after.anchors network) other = rulesOf (state.anchors network) other)
    (own : ∀ network, rulesOf (after.anchors network) id = if publishing (site.networks id)
      (after.status id) (after.progress.get id) network then portRules site id network else [])
    (running : after.progress.get id ≠ none → after.status id = .running)
    (left : ∀ left, after.progress.get id = some (.starting left) → ∃ done,
      site.networks id = done ++ left) :
    Consistent site after := by
  refine ⟨rooted, dns, fun other network => ?_, fun other => ?_, fun other => ?_⟩
  · by_cases same : other = id
    · exact same ▸ own network
    · rw [others other same network, status other same, progress other same]
      exact consistent.rules other network
  · by_cases same : other = id
    · exact same ▸ running
    · rw [status other same, progress other same]
      exact consistent.running other
  · by_cases same : other = id
    · exact same ▸ left
    · rw [progress other same]
      exact consistent.left other

theorem Consistent.relabel (consistent : Consistent site state) {after : Published} (id : Nat)
    (anchors : after.anchors = state.anchors)
    (status : ∀ other, other ≠ id → after.status other = state.status other)
    (progress : ∀ other, other ≠ id → after.progress.get other = state.progress.get other)
    (own : ∀ network, rulesOf (state.anchors network) id = if publishing (site.networks id)
      (after.status id) (after.progress.get id) network then portRules site id network else [])
    (running : after.progress.get id ≠ none → after.status id = .running)
    (left : ∀ left, after.progress.get id = some (.starting left) → ∃ done,
      site.networks id = done ++ left) :
    Consistent site after := by
  refine consistent.change id status progress ?_ ?_ ?_ ?_ running left
  · exact anchors ▸ consistent.rooted
  · exact anchors ▸ consistent.dns
  · exact fun _ _ _ => by rw [anchors]
  · exact anchors ▸ own

theorem Consistent.startNetwork (consistent : Consistent site state) (name subnet gateway : String)
    (condition : name = "host" ∨ dnsCount (state.anchors name) = 0) :
    Consistent site { state with
      anchors := Function.update state.anchors name
        (startNetwork site.inetPton (state.anchors name) name subnet gateway) } := by
  have outcome := startNetwork_update site.inetPton state.anchors name subnet gateway
  refine ⟨fun network => ?_, fun network => ?_, fun id network => ?_, consistent.running,
    consistent.left⟩
  · rcases outcome network with unchanged | ⟨_, _, added⟩
    · exact (congrArg Rooted unchanged).mpr (consistent.rooted network)
    · exact .of_rdr (added ▸ List.mem_append_right _ (List.mem_singleton_self _))
  · rcases outcome network with unchanged | ⟨rfl, other, added⟩
    · exact Nat.le_trans (Nat.le_of_eq (congrArg dnsCount unchanged)) (consistent.dns network)
    · have first := condition.resolve_left other
      rw [dnsCount, added, List.countP_append, ← dnsCount, first]
      simp [dnsRule]
  · rw [← consistent.rules id network]
    rcases outcome network with unchanged | ⟨_, _, added⟩
    · exact congrArg (fun anchor => rulesOf anchor id) unchanged
    · rw [rulesOf, added, List.filter_append]
      simp [dnsRule, rulesOf]

theorem Consistent.start (consistent : Consistent site state) (id : Nat)
    (waiting : state.status id ≠ .running) : Consistent site
        ((state.setStatus id .running).setProgress id (.starting (site.networks id))) := by
  have idle : state.progress.get id = none := by
    by_contra busy
    exact waiting (consistent.running id busy)
  refine consistent.relabel id rfl (fun other different => by simp [different])
    (fun other different => by simp [different]) (fun network => ?_) (fun _ => by simp)
      fun left same => ⟨[], ?_⟩
  · have before : ¬ publishing (site.networks id) (state.status id)
        (state.progress.get id) network := by
      rw [idle]
      exact fun published => waiting published.2
    rw [consistent.absent before]
    simp [publishing]
  · simp only [setProgress_get, if_true, Option.some.injEq, Progress.starting.injEq] at same
    exact same

theorem Consistent.exit (consistent : Consistent site state) (id : Nat)
    (condition : ∀ network ∈ site.networks id, rulesOf (state.anchors network) id = []) :
    Consistent site ((state.setStatus id .exited).settle id) := by
  refine consistent.relabel id rfl (fun other different => by simp [different])
    (fun other different => by simp [different]) (fun network => ?_)
      (fun busy => absurd (by simp) busy)
    (fun left same => by simp at same)
  have gone : rulesOf (state.anchors network) id = [] := by
    by_cases member : network ∈ site.networks id
    · exact condition network member
    · exact consistent.absent fun published => member published.1
  rw [gone]
  simp [publishing]

theorem Consistent.registers (consistent : Consistent site state) (id : Nat) (network : String)
    (left : List String) (progress : state.progress.get id = some (.starting (network :: left)))
    (condition : ∀ rule ∈ portRules site id network,
      network ≠ "" ∧ (appendRdrRule site.inetPton (state.anchors network) rule).isSome) :
    Consistent site ({ state with
      anchors := addRdrPorts site.toSite state.anchors id network [site.address id network]
        }.setProgress id (.starting left)) := by
  have added := addRdrPorts_rdr site state.anchors id network condition
  rcases consistent.left id _ progress with ⟨done, networks⟩
  have distinct := site.distinct id
  rw [networks, List.nodup_append] at distinct
  have running := consistent.running id (by rw [progress]; nofun)
  -- the rules of the network are the old ones with those of the container behind them
  refine consistent.change id (fun _ _ => rfl) (fun other different => by simp [different])
    (fun other => ?_)
    (fun other => ?_) (fun other different probe => ?_) (fun probe => ?_) (fun _ => running)
      fun rest same => ?_
  · exact addRdrPorts_rooted site state.anchors id network consistent.rooted other
  · rw [dnsCount, setProgress_anchors, added, List.countP_append, ← dnsCount]
    split
    · rw [portRules_dns, Nat.add_zero]
      exact consistent.dns other
    · exact consistent.dns other
  · rw [rulesOf, setProgress_anchors, added, List.filter_append, ← rulesOf]
    split
    · rw [portRules_filter, if_neg different, List.append_nil]
    · exact List.append_nil _
  · rw [rulesOf, setProgress_anchors, added, List.filter_append, ← rulesOf]
    by_cases same : probe = network
    · -- Its turn has come: it had no rules of the container, and is no longer among those left.
      subst same
      have before : ¬ publishing (site.networks id) (state.status id)
          (state.progress.get id) probe := by
        rw [progress]
        exact fun published => published.2 List.mem_cons_self
      have after : publishing (site.networks id) (state.status id) (some (.starting left)) probe :=
        ⟨by simp [networks], (List.nodup_cons.mp distinct.2.1).1⟩
      rw [consistent.absent before, if_pos rfl, portRules_filter, if_pos rfl, List.nil_append,
        setProgress_status, setProgress_get, if_pos rfl, if_pos after]
    · have unchanged : publishing (site.networks id) (state.status id)
        (some (.starting left)) probe ↔
          publishing (site.networks id) (state.status id) (state.progress.get id) probe := by
        rw [progress]
        simp [publishing, same]
      rw [if_neg same, List.filter_nil, List.append_nil, consistent.rules id probe,
        setProgress_status, setProgress_get, if_pos rfl]
      simp only [unchanged]
  · simp only [setProgress_get, if_true, Option.some.injEq, Progress.starting.injEq] at same
    exact same ▸ consistent.left_next progress

theorem stopJail_rdr {anchors after : Anchors} {id : Nat} {jail : Jail}
    (rooted : ∀ network, Rooted (anchors network)) (reached : jail.reached = true)
    (stopping : stopJail site.toSite anchors id jail = some after)
    (separate : ∀ network ∈ site.networks id, ∀ rule ∈ (anchors network).rdr,
      (∃ port ∈ site.ports id, rdrHit port rule = true) ↔ rule.owner = .container id)
    (network : String) :
    Rooted (after network) ∧
      ((after network).rdr = (anchors network).rdr.filter (fun rule => rule.owner ≠ .container id) ∨
        network ∉ site.networks id ∧ after network = anchors network) := by
  rw [stopJail, if_pos reached, removePorts_eq_some_iff] at stopping
  have result := stopping network
  -- A network of the container gets its ports once, any other none.
  rw [portsOf_removalCalls _ _ _ (site.distinct id)] at result
  by_cases member : network ∈ site.networks id
  · rw [if_pos member] at result
    rcases (removePort_foldlM _ _ _ (rooted network)).mp result with ⟨_, left⟩
    rw [left]
    refine ⟨left_rooted _ _, .inl ((filter_eq_filter_iff _ _ _).mpr fun rule listed => ?_)⟩
    exact (missed_iff_other rdrHit (site.ports id) rule id).mpr
      (separate network member rule listed)
  · rw [if_neg member] at result
    have same : anchors network = after network := Option.some.inj result
    exact ⟨same ▸ rooted network, .inr ⟨member, same.symm⟩⟩

theorem Consistent.stop (consistent : Consistent site state) {anchors : Anchors} {id : Nat}
    {jail : Jail} (reached : jail.reached = true) (running : state.status id = .running)
    (stopping : stopJail site.toSite state.anchors id jail = some anchors)
    (separate : ∀ network ∈ site.networks id, ∀ rule ∈ (state.anchors network).rdr,
      (∃ port ∈ site.ports id, rdrHit port rule = true) ↔ rule.owner = .container id) :
    Consistent site ({ state with anchors := anchors }.setProgress id .stopping) := by
  have outcome := stopJail_rdr consistent.rooted reached stopping separate
  refine consistent.change id (fun _ _ => rfl) (fun other different => by simp [different])
    (fun network => (outcome network).1) (fun network => ?_) (fun other different network => ?_)
      (fun network => ?_)
    (fun _ => running) (fun left same => by simp at same)
  -- each network of the container has lost its rules and no others, whatever becomes of the rest
  · rw [setProgress_anchors]
    rcases (outcome network).2 with taken | ⟨_, same⟩
    · rw [dnsCount, taken, List.countP_filter]
      refine Nat.le_trans (List.countP_mono_left fun rule _ both => ?_) (consistent.dns network)
      exact (Bool.and_eq_true_iff.mp both).1
    · exact Nat.le_trans (Nat.le_of_eq (congrArg dnsCount same)) (consistent.dns network)
  · rw [setProgress_anchors]
    rcases (outcome network).2 with taken | ⟨_, same⟩
    · rw [rulesOf, taken, List.filter_filter]
      refine List.filter_congr fun rule _ => ?_
      by_cases mine : rule.owner = .container other
      · simp [mine, different]
      · simp [mine]
    · exact congrArg (fun anchor => rulesOf anchor other) same
  · have none' : rulesOf (anchors network) id = [] := by
      rcases (outcome network).2 with taken | ⟨member, same⟩
      · rw [rulesOf, taken, List.filter_filter, List.filter_eq_nil_iff]
        simp
      · rw [same]
        exact consistent.absent fun published => member published.1
    rw [setProgress_anchors, none']
    simp [publishing]

theorem Consistent.registerLost (consistent : Consistent site state) (id : Nat) (network : String)
    (left : List String) (progress : state.progress.get id = some (.starting (network :: left)))
    (bare : site.ports id = []) :
    Consistent site (state.setProgress id (.starting left)) := by
  have running := consistent.running id (by rw [progress]; nofun)
  refine consistent.relabel id rfl (fun _ _ => rfl) (fun other different => by simp [different])
    (fun probe => ?_) (fun _ => running) fun rest same => ?_
  · rw [consistent.rules id probe]
    simp [portRules, bare]
  · simp only [setProgress_get, if_true, Option.some.injEq, Progress.starting.injEq] at same
    exact same ▸ consistent.left_next progress

theorem Consistent.started (consistent : Consistent site state) (id : Nat)
    (progress : state.progress.get id = some (.starting [])) :
    Consistent site (state.settle id) := by
  have running := consistent.running id (by rw [progress]; nofun)
  refine consistent.relabel id rfl (fun _ _ => rfl) (fun other different => by simp [different])
    (fun network => ?_) (fun _ => running) (fun left same => by simp at same)
  rw [consistent.rules id network, progress]
  simp [publishing, running]

theorem step_consistent (site : Deployment) (state : Published) (event : Event) (after : Published)
    (consistent : Consistent site state) (condition : steady site state event)
    (taken : Published.step site state event = some after) : Consistent site after := by
  cases event with
  | startNetwork name subnet gateway =>
      cases taken
      exact consistent.startNetwork name subnet gateway condition
  | start id =>
      simp only [Published.step] at taken
      split at taken <;> cases taken
      · exact consistent
      · exact consistent.start id ‹_›
  | registers id =>
      simp only [Published.step] at taken
      simp only [steady] at condition
      split at taken
      · rename_i network left progress
        cases taken
        rw [progress] at condition
        exact consistent.registers id network left progress condition
      · cases taken
  | registerLost id =>
      simp only [Published.step] at taken
      split at taken
      · rename_i network left progress
        cases taken
        exact consistent.registerLost id network left progress condition
      · cases taken
  | started id =>
      simp only [Published.step, Option.ite_none_right_eq_some, Option.some.injEq] at taken
      exact taken.2 ▸ consistent.started id taken.1
  | stop id pidFile kill =>
      rcases Option.map_eq_some_iff.mp taken with ⟨anchors, stopping, made⟩
      -- a stop that does not get to the rules leaves them and the progress alone
      by_cases reached : (state.jail id pidFile kill).reached = true
      · rw [if_pos reached] at made
        cases made
        rcases condition reached with ⟨settled, separate⟩
        have running : state.status id = .running := by
          simp only [Jail.reached, Bool.and_eq_true, decide_eq_true_eq] at reached
          exact reached.1
        rw [stopped_of_settled settled]
        exact consistent.stop reached running stopping separate
      · rw [if_neg reached] at made
        cases made
        exact consistent
  | exit id =>
      simp only [Published.step, Option.ite_none_right_eq_some, Option.some.injEq] at taken
      exact taken.2 ▸ consistent.exit id condition

end Invariant

/-- As long as no network is started twice, all ports of a start are appended, a stop comes after
the start and tells its rules from others, and no container exits with rules, every anchor is in
step with the containers whenever nothing is in progress. -/
theorem anchors_in_step (site : Deployment) (events : List Event) (after : Published)
    (run : Run (Published.step site) (steady site) .initial events after)
    (idle : after.progress.entries = []) : InStep site after := by
  have start : Consistent site .initial := by
    refine ⟨fun _ _ => rfl, fun _ => Nat.zero_le _, fun id network => ?_,
      fun _ busy => absurd rfl busy, nofun⟩
    have quiet : ¬ publishing (site.networks id) .created none network :=
      fun published => nomatch published.2
    exact (if_neg quiet).symm
  exact (run_invariant (Consistent site) (step_consistent site) run start).inStep idle

section Example

def appSite : Deployment where
  toSite := pairSite webPort dbPort
  address := fun id _ => if id = 1 then "10.9.0.2" else "10.9.0.3"

def startApp : Event := .startNetwork "app" "10.9.0.0/24" "10.9.0.1"

def restarts : List Event :=
  [startApp, .start 1, .registers 1, .start 2, .started 1, .registers 2, .started 2,
    .stop 1 (.pid 100) (fun pid => pid = 100), .exit 1, .start 1, .registers 1, .started 1]

def ruleCounts (state : Published) : (Nat × Nat × Nat) × List (Nat × Progress) :=
  ((dnsCount (state.anchors "app"), (rulesOf (state.anchors "app") 1).length,
    (rulesOf (state.anchors "app") 2).length), state.progress.entries)

theorem anchors_in_step_restarted :
    ∃ after, Run (Published.step appSite) (steady appSite) .initial restarts after ∧
      ruleCounts after = ((1, 1, 1), []) ∧ InStep appSite after :=
  (run_of_replay (Published.step appSite) (steady appSite) ruleCounts .initial restarts
    _ (by decide)).imp fun after reached => ⟨reached.1, reached.2,
      anchors_in_step appSite restarts after reached.1 (congrArg Prod.snd reached.2)⟩

/-- start_network of a network that is there already appends its rule again. -/
theorem network_started_twice :
    ¬ ∀ site events after, Run (Published.step site) anyAction .initial events after →
      after.progress.entries = [] → InStep site after := by
  intro claimed
  rcases run_of_replay (Published.step appSite) anyAction ruleCounts .initial [startApp, startApp]
    ((2, 0, 0), []) (by decide) with ⟨after, run, read⟩
  have inStep := claimed appSite _ after run (congrArg Prod.snd read)
  have twice : dnsCount (after.anchors "app") = 2 := congrArg (fun read => read.1.1) read
  exact absurd (inStep.dns "app") (by rw [twice]; decide)

end Example

end Dockermock.Pf
