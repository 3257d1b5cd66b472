import Dockermock.Jail.Setup

/-!
What a failed start leaves behind. Whatever create_jail acquires is within reach
of destroy_jail at every point where it can raise, so the handler of the `try`
gives everything back. The two other ways to return -1, a jail that jail_set has
refused and an rfork that fails, do not go through it.
-/

namespace Dockermock.Jail

open Library

section Handing

/-- What destroy_jail would release now. -/
def Covered (config : Config) (jail : State) : Resource → Prop
  | .jail => True
  | .epair name => name ∈ jail.epair
  | .devfs => jail.devfsMounted = true
  | .tmpfs => True
  | .mount dest => .mount dest ∈ handleUnmount config.path config.mounts

theorem handleUnmount_mounts (path : String) (mounts : List UserMount) (resource : Resource)
    (member : resource ∈ handleUnmount path mounts) : ∃ dest, resource = .mount dest := by
  induction mounts with
  | nil => cases member
  | cons mount rest ih =>
      rw [handleUnmount] at member
      cases source : mount.source with
      | none => simp [source] at member
      | some source' =>
          simp only [source, List.mem_cons] at member
          exact member.elim (fun same => ⟨_, same⟩) ih

theorem mem_handed_iff (config : Config) (jail : State) (resource : Resource) :
    resource ∈ handed config jail ↔ Covered config jail resource := by
  have fs : handleFsUmounts jail fsMounts = (if jail.devfsMounted then [.devfs] else []) ++
      [.tmpfs] := by
    simp [fsMounts, handleFsUmounts]
  have notMount : (∀ dest, resource ≠ .mount dest) →
      resource ∉ handleUnmount config.path config.mounts := by
    intro other member
    rcases handleUnmount_mounts _ _ _ member with ⟨dest, same⟩
    exact other dest same
  simp only [handed, stopJail, config.named, and_false, if_false, destroyEpair, fs, List.mem_append]
  cases resource with
  | mount dest => cases jail.devfsMounted <;> simp [Covered]
  | jail | epair | devfs | tmpfs => cases mounted : jail.devfsMounted <;>
      simp [Covered, notMount, mounted]

/-- Everything acquired so far is within reach of destroy_jail. -/
def Held (config : Config) (jail : State) : Prop :=
  ∀ resource ∈ jail.acquired, Covered config jail resource

theorem destroyJail_releases (config : Config) (jail : State) (held : Held config jail) :
    ∀ resource ∈ (destroyJail config jail).acquired,
        resource ∈ (destroyJail config jail).released := by
  intro resource member
  have given := (mem_handed_iff config jail resource).mpr (held resource member)
  exact List.mem_append_right _ given

end Handing

section Holding

variable {config : Config} {jail : State}

theorem andThen_held {done : State × Bool} {next : State → State × Bool}
    (first : Held config done.1) (second : ∀ jail, Held config jail → Held config (next jail).1) :
    Held config (andThen done next).1 := by
  unfold andThen
  split
  · exact second _ first
  · exact first

theorem Held.acquire (held : Held config jail) {resource : Resource}
    (covered : Covered config jail resource) : Held config (jail.acquire resource) := by
  intro other member
  have among : other ∈ jail.acquired ∨ other = resource := by simpa [State.acquire] using member
  have same : Covered config (jail.acquire resource) other = Covered config jail other := by
    cases other <;> rfl
  rw [same]
  rcases among with before | rfl
  · exact held other before
  · exact covered

theorem startJailFromJson_held (host : Host) : Held config (startJailFromJson host .fresh).1 := by
  unfold startJailFromJson
  cases host.jailSet with
  | none => simp [Held, State.fresh]
  | some jid =>
      by_cases refused : jid < 0
      · simp [refused, Held, State.fresh]
      · simp [refused, Held, State.fresh, State.acquire, Covered]

theorem createEpairUp_held (network : Network) (held : Held config jail) :
    Held config (createEpairUp network jail).1 := by
  unfold createEpairUp
  cases network.epair with
  | none => exact held
  | some epair =>
      by_cases empty : epair = ""
      · simpa [empty] using held
      · simp only [empty, if_false]
        have grown : Held config { jail with epair := jail.epair ++ [epair] } := by
          intro other member
          have before := held other member
          cases other with
          | epair name => exact List.mem_append_left _ before
          | jail | devfs | tmpfs | mount => exact before
        exact grown.acquire (List.mem_append_right _ List.mem_cons_self)

theorem createEpairs_held (networks : List Network) (held : Held config jail) :
    Held config (createEpairs networks jail).1 := by
  induction networks generalizing jail with
  | nil => exact held
  | cons network rest ih =>
      unfold createEpairs
      split
      · exact andThen_held (createEpairUp_held network held) fun _ => ih
      · exact ih held

theorem createNetworking_held (host : Host) (held : Held config jail) :
    Held config (createNetworking host config jail).1 := by
  unfold createNetworking
  cases config.networks with
  | nil => exact held
  | cons first rest =>
      refine andThen_held ?_ fun _ kept => ?_
      · split
        · exact held
        · exact createEpairs_held _ held
      · unfold attachIntefaceUp
        split <;> exact kept

theorem mountDevfs_held (host : Host) (held : Held config jail) :
    Held config (mountDevfs host jail).1 := by
  have marked : Held config { jail with devfsMounted := true } := by
    intro other member
    have before := held other member
    cases other with
    | devfs => rfl
    | jail | epair | tmpfs | mount => exact before
  unfold mountDevfs
  split
  · exact held
  · cases host.devfs with
    | raised => exact held
    | failed => exact marked
    | mounted => exact marked.acquire rfl

theorem mountTmpfs_held (host : Host) (held : Held config jail) :
    Held config (mountTmpfs host jail).1 := by
  unfold mountTmpfs
  cases host.tmpfs with
  | raised | failed => exact held
  | mounted => exact held.acquire trivial

theorem handleFsMounts_held (host : Host) (mounts : List String) (held : Held config jail) :
    Held config (handleFsMounts host mounts jail).1 := by
  induction mounts generalizing jail with
  | nil => exact held
  | cons fs rest ih =>
      unfold handleFsMounts
      split
      · exact andThen_held (mountDevfs_held host held) fun _ => ih
      · split
        · exact andThen_held (mountTmpfs_held host held) fun _ => ih
        · exact ih held

/-- The loops of handle_mounts and handle_unmount stop at the same entry, if they do. -/
theorem handleMounts_held (mounts : List UserMount) (held : Held config jail)
    (within : handleUnmount config.path mounts ⊆ handleUnmount config.path config.mounts) :
    Held config (handleMounts config.path mounts jail).1 := by
  induction mounts generalizing jail with
  | nil => exact held
  | cons mount rest ih =>
      unfold handleMounts
      cases named : mount.source with
      | none => exact held
      | some source =>
          simp only [handleUnmount, named, List.cons_subset] at within
          cases mount.result with
          | raised => exact held
          | failed => exact ih held within.2
          | mounted => exact ih (held.acquire within.1) within.2

theorem createJail_held (host : Host) (config : Config) : Held config (createJail host config).1 :=
  andThen_held (startJailFromJson_held host) fun _ started =>
    andThen_held (createNetworking_held host started) fun _ networked =>
      andThen_held (handleFsMounts_held host fsMounts networked) fun _ mounted =>
        andThen_held (handleMounts_held _ mounted (List.Subset.refl _)) fun _ kept => kept

end Holding

section Completing

theorem andThen_done (done : State × Bool) (next : State → State × Bool) :
    (andThen done next).2 = true ↔ done.2 = true ∧ (next done.1).2 = true := by
  cases came : done.2 <;> simp [andThen, came]

theorem andThen_state {done : State × Bool} {next : State → State × Bool} (came : done.2 = true) :
    (andThen done next).1 = (next done.1).1 := by
  rw [andThen, if_pos came]

/-- create_epair_up makes an epair and adds it to its bridge. -/
def Network.made (network : Network) : Bool := network.epair.any (· ≠ "") && network.bridged

def bridges : List Network → List Network
  | [] => []
  | first :: rest =>
      if first.driver = some "host" then [] else (first :: rest).filter fun network =>
        network.driver = some "bridge"

theorem createEpairUp_eq (network : Network) (jail : State) (made : network.made = true) :
    ∃ epair, createEpairUp network jail =
      ({ jail with epair := jail.epair ++ [epair] }.acquire (.epair epair), true) := by
  cases named : network.epair with
  | none => simp [Network.made, named] at made
  | some epair =>
      have both : epair ≠ "" ∧ network.bridged = true := by simpa [Network.made, named] using made
      exact ⟨epair, by simp [createEpairUp, named, both]⟩

theorem createEpairUp_done (network : Network) (jail : State) :
    (createEpairUp network jail).2 = true ↔ network.made = true := by
  unfold createEpairUp Network.made
  cases network.epair with
  | none => simp
  | some epair => by_cases empty : epair = "" <;> simp [empty]

theorem createEpairs_done (networks : List Network) (jail : State)
    (bridged : ∀ network ∈ networks, network.driver = some "bridge") :
    (createEpairs networks jail).2 = true ↔ ∀ network ∈ networks, network.made = true := by
  induction networks generalizing jail with
  | nil => simp [createEpairs]
  | cons network rest ih =>
      rw [List.forall_mem_cons] at bridged
      rw [createEpairs, if_pos bridged.1, andThen_done, createEpairUp_done, ih _ bridged.2,
        List.forall_mem_cons]

theorem createEpairs_eq (networks : List Network) (jail : State)
    (bridged : ∀ network ∈ networks, network.driver = some "bridge")
    (made : ∀ network ∈ networks, network.made = true) :
    ∃ epairs : List String, epairs.length = networks.length ∧ (createEpairs networks jail).1 =
      { jail with
        epair := jail.epair ++ epairs, acquired := jail.acquired ++ epairs.map .epair } := by
  induction networks generalizing jail with
  | nil => exact ⟨[], rfl, by simp [createEpairs]⟩
  | cons network rest ih =>
      rw [List.forall_mem_cons] at made bridged
      rcases createEpairUp_eq network jail made.1 with ⟨epair, first⟩
      rcases ih (createEpairUp network jail).1 bridged.2 made.2 with ⟨epairs, size, others⟩
      refine ⟨epair :: epairs, by simp [size], ?_⟩
      rw [createEpairs, if_pos bridged.1,
        andThen_state ((createEpairUp_done network jail).mpr made.1), others, first]
      simp [State.acquire]

theorem bridges_driver (networks : List Network) :
    ∀ network ∈ bridges networks, network.driver = some "bridge" := by
  intro network member
  cases networks with
  | nil => cases member
  | cons first rest =>
      rw [bridges] at member
      split at member
      · cases member
      · simpa using (List.mem_filter.mp member).2

theorem createEpairs_bridges (networks : List Network) (jail : State) :
    createEpairs (networks.filter fun network => network.driver = some "bridge") jail =
        createEpairs networks jail := by
  induction networks generalizing jail with
  | nil => rfl
  | cons network rest ih =>
      have same : createEpairs (rest.filter fun network => network.driver = some "bridge") =
          createEpairs rest :=
        funext ih
      by_cases bridge : network.driver = some "bridge"
      · simp [createEpairs, bridge, same]
      · simp [createEpairs, bridge, ih]

theorem createNetworking_bridges (host : Host) (config : Config) (jail : State)
    (bare : jail.epair = []) : createNetworking host config jail =
      andThen (createEpairs (bridges config.networks) jail) (attachIntefaceUp host) := by
  have idle : andThen (jail, true) (attachIntefaceUp host) = (jail, true) := by
    simp [andThen, attachIntefaceUp, bare]
  unfold createNetworking
  cases config.networks with
  | nil => exact idle.symm
  | cons first rest =>
      by_cases onHost : first.driver = some "host"
      · simp only [onHost, if_true, bridges, createEpairs]
      · simp only [onHost, if_false, bridges, createEpairs_bridges]

theorem attachIntefaceUp_state (host : Host) (jail : State) :
    (attachIntefaceUp host jail).1 = jail := by
  unfold attachIntefaceUp
  split <;> rfl

/-- What create_jail needs of the calls for its networks. -/
structure Networked (host : Host) (config : Config) (jid : Int) : Prop where
  epairs : ∀ network ∈ bridges config.networks, network.made = true
  attached : bridges config.networks ≠ [] → jid ≠ 0 → host.attachInterfaceUp = true

theorem createNetworking_done (host : Host) (config : Config) (jail : State) (jid : Int)
    (created : jail.jid = some jid) (bare : jail.epair = []) :
    (createNetworking host config jail).2 = true ↔ Networked host config jid := by
  have bridged := bridges_driver config.networks
  have attaching : (∀ network ∈ bridges config.networks, network.made = true) →
      ((attachIntefaceUp host (createEpairs (bridges config.networks) jail).1).2 = true ↔
        (bridges config.networks ≠ [] → jid ≠ 0 → host.attachInterfaceUp = true)) := by
    intro made
    rcases createEpairs_eq _ jail bridged made with ⟨epairs, size, after⟩
    have none : epairs = [] ↔ bridges config.networks = [] := by
      rw [← List.length_eq_zero_iff, size, List.length_eq_zero_iff]
    simp only [attachIntefaceUp, after, bare, created, List.nil_append, none, reduceCtorEq,
      false_or, Option.some.injEq]
    split
    · rename_i idle
      exact ⟨fun _ busy alive => absurd idle (not_or.mpr ⟨busy, alive⟩), fun _ => rfl⟩
    · rename_i busy
      rw [not_or] at busy
      exact ⟨fun came _ _ => came, fun came => came busy.1 busy.2⟩
  rw [createNetworking_bridges host config jail bare, andThen_done, createEpairs_done _ _ bridged]
  constructor
  · rintro ⟨made, attached⟩
    exact ⟨made, (attaching made).mp attached⟩
  · rintro ⟨made, attached⟩
    exact ⟨made, (attaching made).mpr attached⟩

theorem createNetworking_eq (host : Host) (config : Config) (jail : State) (jid : Int)
    (bare : jail.epair = []) (networked : Networked host config jid) :
    ∃ epairs : List String, epairs.length = (bridges config.networks).length ∧
      (createNetworking host config jail).1 =
        { jail with
        epair := jail.epair ++ epairs, acquired := jail.acquired ++ epairs.map .epair } := by
  have bridged := bridges_driver config.networks
  rcases createEpairs_eq _ jail bridged networked.epairs with ⟨epairs, size, after⟩
  refine ⟨epairs, size, ?_⟩
  rw [createNetworking_bridges host config jail bare,
    andThen_state ((createEpairs_done _ _ bridged).mpr networked.epairs),
      attachIntefaceUp_state, after]

theorem handleFsMounts_done (host : Host) (jail : State) (before : jail.devfsMounted = false) :
    (handleFsMounts host fsMounts jail).2 = true ↔ host.devfs ≠ .raised ∧ host.tmpfs ≠ .raised := by
  have tmpfs : ∀ jail, (mountTmpfs host jail).2 = true ↔ host.tmpfs ≠ .raised := by
    intro jail
    unfold mountTmpfs
    cases host.tmpfs <;> simp
  have devfs : (mountDevfs host jail).2 = true ↔ host.devfs ≠ .raised := by
    rw [mountDevfs, if_neg (by simp [before])]
    cases host.devfs <;> simp
  simp [fsMounts, handleFsMounts, andThen_done, devfs, tmpfs]

theorem handleFsMounts_eq (host : Host) (jail : State) (before : jail.devfsMounted = false)
    (done : host.devfs ≠ .raised ∧ host.tmpfs ≠ .raised) :
    (handleFsMounts host fsMounts jail).1 =
      { jail with
        devfsMounted := true
        acquired := jail.acquired ++ (if host.devfs = .mounted then [.devfs] else []) ++
          (if host.tmpfs = .mounted then [.tmpfs] else []) } := by
  have first : (mountDevfs host jail).2 = true ∧ (mountDevfs host jail).1 =
      { jail with
        devfsMounted := true
        acquired := jail.acquired ++ if host.devfs = .mounted then [.devfs] else [] } := by
    rw [mountDevfs, if_neg (by simp [before])]
    cases outcome : host.devfs with
    | raised => exact absurd outcome done.1
    | failed => simp
    | mounted => simp [State.acquire]
  simp only [fsMounts, handleFsMounts, if_true, andThen_state first.1, first.2]
  cases outcome : host.tmpfs with
  | raised => exact absurd outcome done.2
  | failed => simp [andThen, mountTmpfs, outcome]
  | mounted => simp [andThen, mountTmpfs, outcome, State.acquire]

theorem handleMounts_done (path : String) (mounts : List UserMount) (jail : State) :
    (handleMounts path mounts jail).2 = true ↔
        ∀ mount ∈ mounts, mount.source ≠ none ∧ mount.result ≠ .raised := by
  induction mounts generalizing jail with
  | nil => simp [handleMounts]
  | cons mount rest ih =>
      rw [handleMounts, List.forall_mem_cons]
      cases mount.source with
      | none => simp
      | some source => cases mount.result <;> simp [ih]

theorem handleMounts_eq (path : String) (mounts : List UserMount) (jail : State)
    (done : ∀ mount ∈ mounts, mount.source ≠ none ∧ mount.result ≠ .raised) :
    ∃ dests : List String, dests.length = mounts.countP (fun mount => mount.result = .mounted) ∧
      (handleMounts path mounts jail).1 =
          { jail with acquired := jail.acquired ++ dests.map .mount } := by
  induction mounts generalizing jail with
  | nil => exact ⟨[], rfl, by simp [handleMounts]⟩
  | cons mount rest ih =>
      rw [List.forall_mem_cons] at done
      rcases Option.ne_none_iff_exists'.mp done.1.1 with ⟨source, named⟩
      cases outcome : mount.result with
      | raised => exact absurd outcome done.1.2
      | failed =>
          rcases ih jail done.2 with ⟨dests, size, after⟩
          exact ⟨dests, by simp [outcome, size], by simp [handleMounts, named, outcome, after]⟩
      | mounted =>
          rcases ih (jail.acquire (.mount (mountDest path source))) done.2 with ⟨dests, size, after⟩
          refine ⟨mountDest path source :: dests, by simp [outcome, size], ?_⟩
          simp only [handleMounts, named, outcome, after]
          simp [State.acquire]

end Completing

section Quiet

structure Creates (host : Host) (config : Config) (jid : Int) : Prop where
  jailSet : host.jailSet = some jid
  networked : Networked host config jid
  fs : host.devfs ≠ .raised ∧ host.tmpfs ≠ .raised
  mounts : ∀ mount ∈ config.mounts, mount.source ≠ none ∧ mount.result ≠ .raised
  limits : ∀ limit ∈ config.limits, ¬ limit.raises host.unicode host.maxDigits

/-- There is nothing to set up, or the system refuses all of it. -/
structure Barren (host : Host) (config : Config) : Prop where
  epairs : bridges config.networks = []
  devfs : host.devfs ≠ .mounted
  tmpfs : host.tmpfs ≠ .mounted
  mounts : ∀ mount ∈ config.mounts, mount.result ≠ .mounted

def started (jid : Int) : State :=
  { State.fresh with jid := some jid, acquired := if jid < 0 then [] else [.jail] }

theorem startJailFromJson_eq (host : Host) (jid : Int) (returned : host.jailSet = some jid) :
    startJailFromJson host .fresh = (started jid, true) := by
  by_cases refused : jid < 0
  · simp [startJailFromJson, returned, refused, started, State.fresh]
  · simp [startJailFromJson, returned, refused, started, State.fresh, State.acquire]

theorem createJail_started (host : Host) (config : Config) (jid : Int)
    (returned : host.jailSet = some jid) : createJail host config =
      andThen (createNetworking host config (started jid)) fun jail =>
      andThen (handleFsMounts host fsMounts jail) fun jail =>
      andThen (handleMounts config.path config.mounts jail) fun jail =>
          applyLimits host config jail := by
  rw [createJail, startJailFromJson_eq host jid returned]
  rfl

theorem createJail_done (host : Host) (config : Config) (jid : Int)
    (returned : host.jailSet = some jid) :
    (createJail host config).2 = true ↔ Creates host config jid := by
  have networking := createNetworking_done host config (started jid) jid rfl rfl
  have flag : Networked host config jid →
      (createNetworking host config (started jid)).1.devfsMounted = false := by
    intro networked
    rcases createNetworking_eq host config (started jid) jid rfl networked with ⟨epairs, _, after⟩
    rw [after]
    rfl
  simp only [createJail_started host config jid returned, andThen_done, networking,
    handleMounts_done, applyLimits, Limits.convertToRctlRules_isSome]
  constructor
  · rintro ⟨networked, fs, mounts, limits⟩
    exact ⟨returned, networked, (handleFsMounts_done host _ (flag networked)).mp fs, mounts, limits⟩
  · intro creates
    exact ⟨creates.networked, (handleFsMounts_done host _ (flag creates.networked)).mpr creates.fs,
      creates.mounts, creates.limits⟩

/-- What create_jail leaves when it comes back: nothing only if the jail was refused and all
else as well. -/
theorem createJail_acquired (host : Host) (config : Config) (jid : Int)
    (creates : Creates host config jid) :
    (createJail host config).1.jid = some jid ∧ (createJail host config).1.released = [] ∧
      ((0 ≤ jid → .jail ∈ (createJail host config).1.acquired) ∧
        (jid < 0 → ((createJail host config).1.acquired = [] ↔ Barren host config))) := by
  rcases createNetworking_eq host config (started jid) jid rfl creates.networked with
    ⟨epairs, bridged, networked⟩
  have fs :=
    handleFsMounts_eq host (createNetworking host config (started jid)).1
      (by rw [networked]; rfl) creates.fs
  rcases handleMounts_eq config.path config.mounts
    (handleFsMounts host fsMounts (createNetworking host config (started jid)).1).1 creates.mounts
    with ⟨dests, mounted, after⟩
  -- no step has raised, so that all of them have acquired what they could
  have whole : (createJail host config).1 =
      { started jid with
        epair := epairs
        devfsMounted := true
        acquired := (started jid).acquired ++ epairs.map .epair ++
          (if host.devfs = .mounted then [.devfs] else []) ++
          (if host.tmpfs = .mounted then [.tmpfs] else []) ++ dests.map .mount } := by
    rw [createJail_started host config jid creates.jailSet,
      andThen_state ((createNetworking_done host config _ jid rfl rfl).mpr creates.networked),
      andThen_state ((handleFsMounts_done host _ (by rw [networked]; rfl)).mpr creates.fs),
      andThen_state ((handleMounts_done _ _ _).mpr creates.mounts), applyLimits, after,
        fs, networked]
    simp [started, State.fresh]
  rw [whole]
  refine ⟨rfl, rfl, fun alive => ?_, fun refused => ?_⟩
  · simp [started, Int.not_lt.mpr alive]
  · have epairs : epairs = [] ↔ bridges config.networks = [] := by
      rw [← List.length_eq_zero_iff, bridged, List.length_eq_zero_iff]
    have dests : dests = [] ↔ ∀ mount ∈ config.mounts, mount.result ≠ .mounted := by
      rw [← List.length_eq_zero_iff, mounted, List.countP_eq_zero]
      simp
    simp only [started, refused, if_true, List.nil_append, List.append_eq_nil_iff,
      List.map_eq_nil_iff, epairs, dests]
    constructor
    · rintro ⟨⟨⟨bridges, devfs⟩, tmpfs⟩, mounts⟩
      exact ⟨bridges, by simpa using devfs, by simpa using tmpfs, mounts⟩
    · rintro ⟨bridges, devfs, tmpfs, mounts⟩
      exact ⟨⟨⟨bridges, if_neg devfs⟩, if_neg tmpfs⟩, mounts⟩

/-- A start that fails has handed everything it acquired to destroy_jail. -/
def Outcome.Releases (outcome : Outcome) : Prop :=
  outcome.returned = some (-1) → ∀ resource ∈ outcome.jail.acquired,
    resource ∈ outcome.jail.released

instance (outcome : Outcome) : Decidable outcome.Releases :=
  inferInstanceAs (Decidable (_ → _))

/-- The start leaves with -1 after a create_jail that came back: the jail was refused, but not
all that was set up for it, or rfork has failed. -/
def LeavesQuietly (host : Host) (config : Config) : Prop :=
  ∃ jid, Creates host config jid ∧
    (jid < 0 ∧ host.notifyStatus = true ∧ ¬ Barren host config ∨
      0 ≤ jid ∧ (registerJailNetwork config.networks && registerPorts config) = true ∧
        host.rfork = -1)

theorem exceptHandler_releases (host : Host) (config : Config) (jail : State)
    (held : Held config jail) :
    (exceptHandler host config jail).Releases := fun _ => destroyJail_releases config jail held

theorem not_releases_of_held_back {jail : State} (nothing : jail.released = [])
    (some : jail.acquired ≠ []) : ¬ (Outcome.mk (Option.some (-1)) jail).Releases := by
  intro releases
  rcases List.exists_mem_of_ne_nil _ some with ⟨resource, member⟩
  have given := releases rfl resource member
  rw [nothing] at given
  cases given

section Exits

variable {host : Host} {config : Config} {jail : State} {jid : Int}

theorem leavesQuietly_iff (creates : Creates host config jid) :
    LeavesQuietly host config ↔
      jid < 0 ∧ host.notifyStatus = true ∧ ¬ Barren host config ∨
        0 ≤ jid ∧ (registerJailNetwork config.networks && registerPorts config) = true ∧
            host.rfork = -1 := by
  constructor
  · rintro ⟨other, created, exits⟩
    have same : other = jid := Option.some.inj (created.jailSet.symm.trans creates.jailSet)
    rwa [same] at exits
  · exact fun exits => ⟨jid, creates, exits⟩

theorem startContainer_raised (made : createJail host config = (jail, false)) :
    startContainer host config = exceptHandler host config jail := by
  rw [startContainer, made]

theorem startContainer_refused (made : createJail host config = (jail, true))
    (jid' : jail.jid = some jid) (refused : jid < 0) :
    startContainer host config =
      if host.notifyStatus then ⟨some (-1), jail⟩ else exceptHandler host config jail := by
  simp [startContainer, made, jid', refused]

theorem startContainer_forked (made : createJail host config = (jail, true))
    (jid' : jail.jid = some jid) (alive : 0 ≤ jid) :
    startContainer host config =
      if (registerJailNetwork config.networks && registerPorts config) = true then
        ⟨if host.rfork = 0 then none else some host.rfork, jail⟩
      else exceptHandler host config jail := by
  simp [startContainer, made, jid', Int.not_lt.mpr alive]

theorem refused_releases_iff (made : createJail host config = (jail, true))
    (jid' : jail.jid = some jid) (refused : jid < 0) (held : Held config jail)
    (nothing : jail.released = []) (bare : jail.acquired = [] ↔ Barren host config) :
    (startContainer host config).Releases ↔
        ¬ (host.notifyStatus = true ∧ ¬ Barren host config) := by
  rw [startContainer_refused made jid' refused]
  by_cases notified : host.notifyStatus = true
  · rw [if_pos notified, and_iff_right notified, not_not]
    constructor
    · intro releases
      by_contra barren
      exact not_releases_of_held_back nothing (fun empty => barren (bare.mp empty)) releases
    · intro barren _ resource member
      rw [bare.mpr barren] at member
      cases member
  · rw [if_neg notified]
    exact iff_of_true (exceptHandler_releases host config jail held) fun both => notified both.1

/-- Once both registrations went through nothing is released, which is right unless rfork fails. -/
theorem forked_releases_iff (made : createJail host config = (jail, true))
    (jid' : jail.jid = some jid) (alive : 0 ≤ jid) (held : Held config jail)
    (nothing : jail.released = []) (some' : jail.acquired ≠ []) :
    (startContainer host config).Releases ↔
      ¬ ((registerJailNetwork config.networks && registerPorts config) = true ∧
          host.rfork = -1) := by
  rw [startContainer_forked made jid' alive]
  by_cases registered : (registerJailNetwork config.networks && registerPorts config) = true
  · rw [if_pos registered, and_iff_right registered]
    by_cases failed : host.rfork = -1
    · rw [failed]
      exact iff_of_false (not_releases_of_held_back nothing some') (by simp)
    · refine iff_of_true (fun left => ?_) failed
      dsimp only at left
      split at left
      · cases left
      · exact absurd (Option.some.inj left) failed
  · rw [if_neg registered]
    exact iff_of_true (exceptHandler_releases host config jail held) fun both => registered both.1

end Exits

theorem web_named : "web" ≠ "" := by decide

def webConfig : Config where
  name := "web"
  named := web_named
  path := "/jails/containers/1/root"
  networks := [⟨some "bridge", some "epair0a", true, true, true⟩]
  mounts := [⟨some "/data", .mounted⟩]
  limits := [Limits.memoryLimit]
  ports := true

def jailRefused : Host := ⟨Limits.ascii, 4300, some (-1), true, .mounted, .mounted, true, true, 300⟩

/-- With rfork failing the jail itself stays as well. -/
example :
    ¬ (startContainer { jailRefused with jailSet := some 7, rfork := -1 } webConfig).Releases := by
  decide +kernel

end Quiet

end Dockermock.Jail
