import Dockermock.Lifecycle.Exclusive
import Dockermock.Dns.Isolation
import Dockermock.Dns.Registration

/-!
The names of the DNS tree against the status of the containers. A start makes
the worker register the container's addresses, one network after the other; the
report of an exit sets the status, and nothing ever takes a name out of the
tree. stop_jail changes neither; its container's exit is reported like any other.
-/

namespace Dockermock.Dns

open Library Network Lifecycle

/-- The networks with their gateways, and the rows of get_container_networks. -/
structure Layout where
  networks : List String
  gateway : String → String
  attachments : String → List Attachment

/-- What register_jail_network goes through: nothing where the first network is a host network. -/
def Layout.registered (layout : Layout) (container : String) : List Attachment :=
  match (layout.attachments container).head? with
  | none => []
  | some first => if first.driver = "host" then [] else layout.attachments container

/-- The worker with one container: the request for its row, or its networks still to be registered.
-/
inductive Task where
  | fetch (name : String)
  | setUp (name : String) (left : List Attachment)
  deriving DecidableEq

structure Presence where
  status : Dict String Status
  tree : DnsTree String
  queue : List String
  task : Option Task

inductive Change where
  | create (name : String)
  | start (name : String)
  | take
  | fetched
  | refused
  | register
  | settled
  | fails (reported : Bool)
  | exit (name : String)
  | startNetwork (network : String)
  deriving DecidableEq

def gatewayName : String := "host.jail.internal"

namespace Presence

def initial : Presence := ⟨.empty, .empty, [], none⟩

/-- update_exit_code for the container that the report reaches. -/
def report (http : Http) (state : Presence) (name : String) : Presence :=
  match http.exitCode name with
  | none => state
  | some target =>
      match state.status.get target with
      | none => state
      | some _ => { state with status := state.status.set target .exited }

def insert (state : Presence) (domain address : String) : Presence :=
  { state with tree := state.tree.insert domain address }

def step (http : Http) (layout : Layout) (state : Presence) : Change → Option Presence
  | .create name =>
      match state.status.get name with
      | some _ => some state
      | none => some { state with status := state.status.set name .created }
  | .start name =>
      match state.status.get name with
      | none => some state
      | some status =>
          if status = .running then some state
          else some { state with
            status := state.status.set name .running
            queue := state.queue ++ splitLines name }
  | .take =>
      match state.task, state.queue with
      | none, line :: rest => some { state with queue := rest, task := some (.fetch (strip line)) }
      | _, _ => none
  | .fetched =>
      match state.task with
      | some (.fetch name) =>
          (http.get name).bind fun container =>
            if state.status.get container = none then none
            else some { state with task := some (.setUp name (layout.registered container)) }
      | _ => none
  | .refused =>
      match state.task with
      | some (.fetch _) => some { state with task := none }
      | _ => none
  | .register =>
      match state.task with
      | some (.setUp name (attached :: left)) =>
          if name = "" then none
          else (attached.registration name).map fun registration =>
            { state.insert registration.name registration.address with
              task := some (.setUp name left) }
      | _ => none
  | .settled =>
      match state.task with
      | some (.setUp _ []) => some { state with task := none }
      | _ => none
  | .fails reported =>
      match state.task with
      | some (.setUp name _) =>
          let ended := { state with task := none }
          some (if reported then ended.report http name else ended)
      | _ => none
  | .exit name => some (state.report http name)
  | .startNetwork network =>
      if network ∈ layout.networks then
        some (state.insert (dotted gatewayName network) (layout.gateway network))
      else none

end Presence

section Property

def AddressOf (layout : Layout) (state : Presence) (container network address : String) : Prop :=
  state.status.get container = some .running ∧ ∃ attached ∈ layout.attachments container,
    attached.network.name = network ∧ ∃ ip ∈ attached.ip, address = ipv4Text ip.value

/-- What the tree answers for a name in a network, other than the gateway's entry, are the addresses
on it of running containers of this name or below it. -/
def NamesPresent (layout : Layout) (state : Presence) : Prop :=
  ∀ network ∈ layout.networks, ∀ domain,
    ∀ address ∈ state.tree.collectFrom (dotted domain (netIf network)),
    (address = layout.gateway network ∧ rsplitGenerator domain <+: rsplitGenerator gatewayName) ∨
      ∃ container, rsplitGenerator domain <+: rsplitGenerator container ∧
        AddressOf layout state container network address

/-- The labels of the name on one network begin with those of no other network. -/
def Homed (layout : Layout) (name zone network : String) : Prop :=
  ∀ other ∈ layout.networks, other ≠ network → ¬ Reaches (netIf other) name zone

def Silent (layout : Layout) (state : Presence) (container : String) : Prop :=
  ∀ attached ∈ layout.attachments container, ∀ ip ∈ attached.ip,
    state.tree.root.readAt (rsplitGenerator (dotted container (netIf attached.network.name))) ≠
      some (ipv4Text ip.value)

def Task.name : Task → String
  | .fetch name | .setUp name _ => name

def Unstarted (state : Presence) (container : String) : Prop :=
  container ∉ state.queue ∧ ∀ task ∈ state.task, task.name ≠ container

def HomedNext (layout : Layout) : Option Task → Prop
  | some (.setUp name (attached :: _)) =>
      Homed layout name (netIf attached.network.name) attached.network.name
  | _ => True

/-- Names are started that the worker gets as they are; names are registered that reach no other
network; and an exit is only reported of a container that has no name in the tree. -/
def tidy (http : Http) (layout : Layout) (state : Presence) : Change → Prop
  | .start name => Framed name ∧ ∀ container ∈ http.get name, container = name
  | .register => HomedNext layout state.task
  | .startNetwork network => Homed layout gatewayName network network
  | .exit name => ∀ target ∈ http.exitCode name, Unstarted state target ∧ Silent layout state target
  | .fails reported => reported = true → ∀ task ∈ state.task, ∀ target ∈ http.exitCode task.name,
      target ∉ state.queue ∧ Silent layout state target
  | .create _ | .take | .fetched | .refused | .settled => True

instance (layout : Layout) (name zone network : String) :
    Decidable (Homed layout name zone network) :=
  inferInstanceAs (Decidable (∀ _ ∈ _, _ → ¬ (_ <+: _)))

instance (layout : Layout) (state : Presence) (container : String) :
    Decidable (Silent layout state container) :=
  inferInstanceAs (Decidable (∀ _ ∈ _, ∀ _ ∈ _, _))

instance (state : Presence) (container : String) : Decidable (Unstarted state container) :=
  inferInstanceAs (Decidable (_ ∧ ∀ _ ∈ _, _))

instance (layout : Layout) : (task : Option Task) → Decidable (HomedNext layout task)
  | some (.setUp _ (_ :: _)) => inferInstanceAs (Decidable (Homed _ _ _ _))
  | none | some (.fetch _) | some (.setUp _ []) => inferInstanceAs (Decidable True)

instance (http : Http) (layout : Layout) (state : Presence) : (change : Change) →
    Decidable (tidy http layout state change)
  | .start _ => inferInstanceAs (Decidable (_ ∧ ∀ _ ∈ _, _))
  | .register => inferInstanceAs (Decidable (HomedNext _ _))
  | .startNetwork _ => inferInstanceAs (Decidable (Homed _ _ _ _))
  | .exit _ => inferInstanceAs (Decidable (∀ _ ∈ _, _ ∧ _))
  | .fails _ => inferInstanceAs (Decidable (_ → ∀ _ ∈ _, ∀ _ ∈ _, _ ∧ _))
  | .create _ | .take | .fetched | .refused | .settled => inferInstanceAs (Decidable True)

end Property

section Invariant

variable {http : Http} {layout : Layout} {state after : Presence}

/-- Where an address in the tree comes from. -/
inductive Source (layout : Layout) (status : Dict String Status) (path : List String)
    (address : String) : Prop where
  | gateway (network : String) (labels : path = rsplitGenerator (dotted gatewayName network))
      (own : address = layout.gateway network) (homed : Homed layout gatewayName network network)
  | container (container : String) (attached : Attachment)
      (running : status.get container = some .running)
      (listed : attached ∈ layout.attachments container)
      (labels : path = rsplitGenerator (dotted container (netIf attached.network.name)))
      (own : ∃ ip ∈ attached.ip, address = ipv4Text ip.value)
      (homed : Homed layout container (netIf attached.network.name) attached.network.name)

structure Awaited (http : Http) (status : Dict String Status) (name : String) : Prop where
  stripped : strip name = name
  routed : ∀ container ∈ http.get name, container = name
  running : status.get name = some .running

structure Traced (http : Http) (layout : Layout) (state : Presence) : Prop where
  queued : ∀ line ∈ state.queue, Awaited http state.status line
  fetching : ∀ name, state.task = some (.fetch name) → Awaited http state.status name
  settingUp : ∀ name left, state.task = some (.setUp name left) →
    state.status.get name = some .running ∧ ∀ attached ∈ left, attached ∈ layout.attachments name
  sources : ∀ path address, state.tree.root.readAt path = some address →
    Source layout state.status path address

theorem zone_of_default (below : List String) (rest : List String) :
    zoneLabels (netIf "") ++ below ≠ zoneLabels "" ++ rest := by
  have named : zoneLabels (netIf "") = ["default"] := by decide
  have empty : zoneLabels "" = [""] := by decide
  rw [named, empty]
  simp

/-- An address that is read at or below a name on a network was entered for this network. -/
theorem Traced.present (traced : Traced http layout state) : NamesPresent layout state := by
  intro network listed domain address member
  rcases (DnsTree.mem_collectFrom _ _ _).mp member with ⟨below, read⟩
  rw [rsplitGenerator_dotted, List.append_assoc] at read
  cases traced.sources _ _ read with
  | gateway source labels own homed =>
      by_cases same : network = source
      · subst same
        refine .inl ⟨own, below, ?_⟩
        -- start_network does not replace an empty name by "default" as the worker does.
        by_cases unnamed : network = ""
        · subst unnamed
          rw [rsplitGenerator_dotted] at labels
          exact absurd labels (zone_of_default _ _)
        · have zone : netIf network = network := if_neg unnamed
          rw [rsplitGenerator_dotted, zone] at labels
          exact List.append_cancel_left labels
      · exact absurd ⟨_, labels⟩ (homed network listed same)
  | container container attached running row labels own homed =>
      by_cases same : network = attached.network.name
      · subst same
        rw [rsplitGenerator_dotted] at labels
        exact .inr ⟨container, ⟨below, List.append_cancel_left labels⟩, running, attached,
          row, rfl, own⟩
      · exact absurd ⟨_, labels⟩ (homed network listed same)

theorem insert_readAt (tree : DnsTree String) (domain address : String) (path : List String) :
    (tree.insert domain address).root.readAt path =
      if path = rsplitGenerator domain then some address else tree.root.readAt path :=
  DnsTreeNode.readAt_insertAt (rsplitGenerator domain) path address tree.root

theorem Source.of_running {path : List String} {address : String}
    (source : Source layout state.status path address)
    (kept : ∀ container, state.status.get container = some .running →
      after.status.get container = some .running) :
    Source layout after.status path address := by
  cases source with
  | gateway network labels own homed => exact .gateway network labels own homed
  | container container attached running listed labels own homed =>
      exact .container container attached (kept container running) listed labels own homed

theorem Awaited.of_running {name : String} (awaited : Awaited http state.status name)
    (kept : ∀ container, state.status.get container = some .running →
      after.status.get container = some .running) :
    Awaited http after.status name :=
  ⟨awaited.stripped, awaited.routed, kept name awaited.running⟩

theorem Traced.advance (traced : Traced http layout state) (tree : after.tree = state.tree)
    (kept : ∀ container, state.status.get container = some .running →
      after.status.get container = some .running)
    (queued : ∀ line ∈ after.queue, Awaited http after.status line)
    (fetching : ∀ name, after.task = some (.fetch name) → Awaited http after.status name)
    (settingUp : ∀ name left, after.task = some (.setUp name left) →
      after.status.get name = some .running ∧ ∀ attached ∈ left,
        attached ∈ layout.attachments name) :
    Traced http layout after := by
  refine ⟨queued, fetching, settingUp, fun path address read => ?_⟩
  rw [tree] at read
  exact (traced.sources path address read).of_running kept

theorem Traced.setStatus (traced : Traced http layout state) (name : String) (status : Status)
    (kept : ∀ container, state.status.get container = some .running →
      (state.status.set name status).get container = some .running) :
    Traced http layout { state with status := state.status.set name status } := by
  refine traced.advance rfl kept (fun line member => ?_) (fun task held => ?_)
    fun task left held => ?_
  · exact (traced.queued line member).of_running kept
  · exact (traced.fetching task held).of_running kept
  · exact ⟨kept task (traced.settingUp task left held).1, (traced.settingUp task left held).2⟩

theorem Traced.insert (traced : Traced http layout state) (domain address : String)
    (source : Source layout state.status (rsplitGenerator domain) address) :
    Traced http layout (state.insert domain address) := by
  refine ⟨traced.queued, traced.fetching, traced.settingUp, fun path found read => ?_⟩
  rw [Presence.insert, insert_readAt] at read
  split at read
  · rename_i same
    cases read
    exact same ▸ source
  · exact traced.sources path found read

theorem Traced.withTask (traced : Traced http layout state) (task : Option Task)
    (fetching : ∀ name, task = some (.fetch name) → Awaited http state.status name)
    (settingUp : ∀ name left, task = some (.setUp name left) →
      state.status.get name = some .running ∧ ∀ attached ∈ left,
        attached ∈ layout.attachments name) :
    Traced http layout { state with task := task } :=
  ⟨traced.queued, fetching, settingUp, traced.sources⟩

theorem Traced.idle (traced : Traced http layout state) :
    Traced http layout { state with task := none } :=
  traced.withTask none nofun nofun

theorem Traced.fetch (traced : Traced http layout state) {name : String}
    (awaited : Awaited http state.status name) :
    Traced http layout { state with task := some (.fetch name) } := by
  refine traced.withTask _ (fun other same => ?_) fun other left same => ?_
  · cases same
    exact awaited
  · cases same

theorem Traced.setUp (traced : Traced http layout state) {name : String} {left : List Attachment}
    (running : state.status.get name = some .running)
    (listed : ∀ attached ∈ left, attached ∈ layout.attachments name) :
    Traced http layout { state with task := some (.setUp name left) } := by
  refine traced.withTask _ (fun other same => ?_) fun other rest same => ?_
  · cases same
  · cases same
    exact ⟨running, listed⟩

theorem Traced.report (traced : Traced http layout state) (name : String)
    (condition : ∀ target ∈ http.exitCode name,
      Unstarted state target ∧ Silent layout state target) :
    Traced http layout (state.report http name) := by
  unfold Presence.report
  split
  · exact traced
  · rename_i target reached
    split
    · exact traced
    · rcases condition target reached with ⟨⟨unqueued, untasked⟩, silent⟩
      have other (container : String) (different : container ≠ target)
          (running : state.status.get container = some .running) :
          (state.status.set target .exited).get container = some .running := by
        rw [Dict.get_set, if_neg different]
        exact running
      refine ⟨fun line member => ?_, fun task held => ?_, fun task left held => ?_,
        fun path address read => ?_⟩
      · have awaited := traced.queued line member
        have different : line ≠ target := fun same => unqueued (same ▸ member)
        exact ⟨awaited.stripped, awaited.routed, other line different awaited.running⟩
      · have awaited := traced.fetching task held
        exact ⟨awaited.stripped, awaited.routed, other task (untasked _ held) awaited.running⟩
      · have setUp := traced.settingUp task left held
        exact ⟨other task (untasked _ held) setUp.1, setUp.2⟩
      · cases traced.sources path address read with
        | gateway network labels own homed => exact .gateway network labels own homed
        | container container attached running listed labels own homed =>
            -- The container that has exited has no address in the tree.
            by_cases same : container = target
            · subst same
              rcases own with ⟨ip, given, rfl⟩
              exact absurd (labels ▸ read) (silent attached listed ip given)
            · exact .container container attached (other container same running) listed
                labels own homed

theorem registration_source {attached : Attachment} {container : String}
    {registration : Registration} (made : attached.registration container = some registration) :
    registration.name = dotted container (netIf attached.network.name) ∧
      ∃ ip ∈ attached.ip, registration.address = ipv4Text ip.value := by
  rcases Option.bind_eq_some_iff.mp made with ⟨ip, held, given⟩
  split at given
  · cases given
    exact ⟨rfl, ip, held, rfl⟩
  · cases given

theorem registered_subset {container : String} {attached : Attachment}
    (member : attached ∈ layout.registered container) :
    attached ∈ layout.attachments container := by
  rw [Layout.registered] at member
  split at member
  · cases member
  · split at member
    · cases member
    · exact member

end Invariant

section Step

variable {http : Http} {layout : Layout} {state : Presence}

theorem Traced.start (traced : Traced http layout state) (name : String) (framed : Framed name)
    (routed : ∀ container ∈ http.get name, container = name) :
    Traced http layout { state with
      status := state.status.set name .running
      queue := state.queue ++ splitLines name } := by
  have kept (container : String) (running : state.status.get container = some .running) :
      (state.status.set name .running).get container = some .running := by
    rw [Dict.get_set]
    split
    · rfl
    · exact running
  have started := traced.setStatus name .running kept
  refine ⟨fun line member => ?_, started.fetching, started.settingUp, started.sources⟩
  rcases List.mem_append.mp member with earlier | last
  · exact started.queued line earlier
  · rw [splitLines_single name framed.2] at last
    rw [List.mem_singleton.mp last]
    exact ⟨framed.1, routed, by simp [Dict.get_set]⟩

theorem Traced.register (traced : Traced http layout state) {name : String} {attached : Attachment}
    {left : List Attachment} {registration : Registration}
    (held : state.task = some (.setUp name (attached :: left)))
    (made : attached.registration name = some registration)
    (homed : Homed layout name (netIf attached.network.name) attached.network.name) :
    Traced http layout
      { state.insert registration.name registration.address with
        task := some (.setUp name left) } := by
  rcases traced.settingUp name _ held with ⟨running, listed⟩
  rcases registration_source made with ⟨labels, own⟩
  have source : Source layout state.status (rsplitGenerator registration.name)
      registration.address :=
    .container name attached running (listed attached List.mem_cons_self) (by rw [labels]) own homed
  exact (traced.insert _ _ source).setUp running fun other member =>
    listed other (List.mem_cons_of_mem _ member)

theorem step_traced (http : Http) (layout : Layout) (state : Presence) (change : Change)
    (after : Presence) (traced : Traced http layout state)
    (condition : tidy http layout state change)
    (taken : state.step http layout change = some after) : Traced http layout after := by
  cases change with
  | create name =>
      simp only [Presence.step] at taken
      split at taken <;> cases taken
      · exact traced
      · rename_i absent
        refine traced.setStatus name .created fun container running => ?_
        rw [Dict.get_set, if_neg (by rintro rfl; rw [absent] at running; cases running)]
        exact running
  | start name =>
      simp only [Presence.step] at taken
      split at taken
      · cases taken
        exact traced
      · split at taken <;> cases taken
        · exact traced
        · exact traced.start name condition.1 condition.2
  | take =>
      simp only [Presence.step] at taken
      split at taken
      · rename_i line rest idle queue
        cases taken
        -- the name is stripped again, which the condition says leaves it as it is
        have awaited := traced.queued line (by rw [queue]; exact List.mem_cons_self)
        have later : Traced http layout { state with task := some (.fetch (strip line)) } :=
          traced.fetch (by rw [awaited.stripped]; exact awaited)
        exact ⟨fun other member =>
          traced.queued other (by rw [queue]; exact List.mem_cons_of_mem _ member),
          later.fetching, later.settingUp, later.sources⟩
      · cases taken
  | fetched =>
      simp only [Presence.step] at taken
      split at taken
      · rename_i name held
        rcases Option.bind_eq_some_iff.mp taken with ⟨container, reached, found⟩
        rw [Option.ite_none_left_eq_some] at found
        rcases found with ⟨_, made⟩
        cases made
        have awaited := traced.fetching name held
        rw [awaited.routed container reached]
        exact traced.setUp awaited.running fun attached member => registered_subset member
      · cases taken
  | refused =>
      simp only [Presence.step] at taken
      split at taken <;> cases taken
      exact traced.idle
  | register =>
      simp only [Presence.step] at taken
      split at taken
      · rename_i name attached left held
        rw [Option.ite_none_left_eq_some] at taken
        rcases Option.map_eq_some_iff.mp taken.2 with ⟨registration, made, rfl⟩
        simp only [tidy, held] at condition
        exact traced.register held made condition
      · cases taken
  | settled =>
      simp only [Presence.step] at taken
      split at taken <;> cases taken
      exact traced.idle
  | fails reported =>
      simp only [Presence.step] at taken
      split at taken
      · rename_i name left held
        cases taken
        have ended := traced.idle
        cases reported with
        | false => exact ended
        -- a failed start is reported as an exit, when nothing is registered for it any more
        | true =>
            refine ended.report name fun target reached => ?_
            rcases condition rfl _ held target reached with ⟨unqueued, silent⟩
            exact ⟨⟨unqueued, fun task held => by cases held⟩, silent⟩
      · cases taken
  | exit name =>
      cases taken
      exact traced.report name condition
  | startNetwork network =>
      rcases Option.ite_none_right_eq_some.mp taken with ⟨_, made⟩
      cases made
      exact traced.insert _ _ (.gateway network rfl rfl condition)

end Step

/-- As long as no container exits whose name is in the tree, started names come through to the
worker and no registered name reaches another network, all that the tree answers is running. -/
theorem names_present (http : Http) (layout : Layout) (changes : List Change) (after : Presence)
    (run : Run (Presence.step http layout) (tidy http layout) .initial changes after) :
    NamesPresent layout after := by
  have start : Traced http layout .initial := by
    refine ⟨nofun, nofun, nofun, fun path address read => ?_⟩
    have blank : Presence.initial.tree.root.readAt path = none := DnsTreeNode.readAt_blank path
    rw [blank] at read
    cases read
  exact (run_invariant (Traced http layout) (step_traced http layout) run start).present

section Example

def frontAttached : Attachment :=
  ⟨"bridge", ⟨"front", some (.v4 officeSubnet)⟩, some officeClient⟩

def frontLayout : Layout where
  networks := ["front"]
  gateway := fun _ => "10.0.0.1"
  attachments := fun name => if name = "web" then [frontAttached] else []

def startOf (name : String) (registrations : Nat) : List Change :=
  [.create name, .start name, .take, .fetched] ++
    List.replicate registrations .register ++ [.settled]

def jobBesideWeb : List Change :=
  [.startNetwork "front"] ++ startOf "web" 1 ++ startOf "job" 0 ++ [.exit "job", .start "job"]

theorem names_present_beside_web :
    ∃ after, Run (Presence.step directHttp frontLayout) (tidy directHttp frontLayout) .initial
      jobBesideWeb after ∧
      after.tree.collectFrom "front" = ["10.0.0.1", "10.0.0.2"] ∧ NamesPresent frontLayout after :=
  (run_of_replay (Presence.step directHttp frontLayout) (tidy directHttp frontLayout)
    (fun state => state.tree.collectFrom "front") .initial jobBesideWeb _ (by decide +kernel)).imp
      fun after reached =>
        ⟨reached.1, reached.2, names_present directHttp frontLayout jobBesideWeb after reached.1⟩

/-- The name of a container that has exited is still answered. -/
theorem exited_name_answered :
    ¬ ∀ http layout changes after,
      Run (Presence.step http layout) anyAction .initial changes after →
      after.queue = [] → after.task = none → NamesPresent layout after := by
  intro claimed
  rcases run_of_replay (Presence.step directHttp frontLayout) anyAction
    (fun state => (state.tree.collectFrom "web.front", state.status.entries, state.queue,
      state.task)) .initial
    (startOf "web" 1 ++ [.exit "web"]) (["10.0.0.2"], [("web", .exited)], [], none)
      (by decide +kernel)
    with ⟨after, run, read⟩
  rw [Prod.mk.injEq, Prod.mk.injEq, Prod.mk.injEq] at read
  rcases read with ⟨answered, rows, queue, task⟩
  have present := claimed _ _ _ after run queue task "front" (by decide) "web" "10.0.0.2"
    (by
      have asked : dotted "web" (netIf "front") = "web.front" := by decide +kernel
      rw [asked, answered]
      exact List.mem_singleton_self _)
  rcases present with ⟨gateway, _⟩ | ⟨container, _, running, _⟩
  · exact absurd gateway (by decide)
  · have member := (Dict.get_eq_some_iff _ _ _).mp running
    rw [rows, List.mem_singleton, Prod.mk.injEq] at member
    cases member.2

end Example

end Dockermock.Dns
