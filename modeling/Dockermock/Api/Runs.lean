import Dockermock.Database.Addresses
import Dockermock.Api.Service

/-!
Whole runs of the server. The records are in order in every state that requests
lead to, committed rows are there for good, answers of failure change nothing that
lasts, and the start messages are exactly the starts that the status column shows.
-/

namespace Dockermock.Api

open Library Network Database Lifecycle

section Running

def runsIn (status : Dict Nat Status) (containers : Table ContainerRow) (name : String) : Bool :=
  containers.rows.entries.any fun entry => entry.2.name = name && statusIn status entry.1 = .running

theorem statusIn_set (status : Dict Nat Status) (id probe : Nat) (new : Status) :
    statusIn (status.set id new) probe = if probe = id then new else statusIn status probe := by
  unfold statusIn
  rw [Dict.get_set]
  split <;> rfl

theorem statusIn_absent {status : Dict Nat Status} {id : Nat} (absent : id ∉ status.keys) :
    statusIn status id = .created := by
  have none : status.get id = none := by
    by_contra present
    rcases Option.ne_none_iff_exists'.mp present with ⟨value, held⟩
    exact absent ((Dict.mem_keys_iff _ _).mpr ⟨value, held⟩)
  rw [statusIn, none]
  rfl

theorem runsIn_of_lasts {before after : Table ContainerRow} (lasts : Lasts before after)
    {status : Dict Nat Status} (known : ∀ id ∈ status.keys, id ∈ before.rows.keys) (name : String) :
    runsIn status after name = runsIn status before name := by
  rcases lasts with ⟨added, appended⟩
  have idle : (added.any fun entry => entry.2.name = name &&
      statusIn status entry.1 = .running) = false := by
    refine List.any_eq_false.mpr fun entry member => ?_
    have distinct := after.rows.distinct
    rw [← appended, List.map_append] at distinct
    have fresh : entry.1 ∉ before.rows.keys := fun old =>
      List.disjoint_of_nodup_append distinct old (List.mem_map_of_mem member)
    have default := statusIn_absent fun held => fresh (known _ held)
    simp [default]
  rw [runsIn, ← appended, List.any_append, idle, Bool.or_false]
  rfl

theorem runsIn_set {table : Table ContainerRow} (status : Dict Nat Status) {id : Nat}
    {row : ContainerRow} (distinct : (table.rows.entries.map fun entry => entry.2.name).Nodup)
    (listed : (id, row) ∈ table.rows.entries) (new : Status) (name : String) :
    runsIn (status.set id new) table name =
      if name = row.name then decide (new = .running) else runsIn status table name := by
  by_cases same : name = row.name
  · subst same
    rw [if_pos rfl, Bool.eq_iff_iff, runsIn, List.any_eq_true, decide_eq_true_eq]
    constructor
    · rintro ⟨entry, member, holds⟩
      have both : entry.2.name = row.name ∧ statusIn (status.set id new) entry.1 = .running := by
        simpa using holds
      obtain rfl : entry = (id, row) := List.inj_on_of_nodup_map distinct member listed both.1
      rw [← both.2, statusIn_set, if_pos rfl]
    · rintro rfl
      exact ⟨(id, row), listed, by simp [statusIn_set]⟩
  · rw [if_neg same, Bool.eq_iff_iff, runsIn, runsIn, List.any_eq_true, List.any_eq_true]
    refine exists_congr fun entry => and_congr_right fun member => ?_
    by_cases named : entry.2.name = name
    · have other : entry.1 ≠ id := by
        rintro rfl
        have held := (Dict.get_eq_some_iff _ _ entry.2).mpr member
        rw [(Dict.get_eq_some_iff _ _ row).mpr listed, Option.some.injEq] at held
        exact same (by rw [held, named])
      rw [statusIn_set, if_neg other]
    · simp [named]

theorem runsIn_listed {table : Table ContainerRow} (status : Dict Nat Status) {id : Nat}
    {row : ContainerRow} (distinct : (table.rows.entries.map fun entry => entry.2.name).Nodup)
    (listed : (id, row) ∈ table.rows.entries) :
    runsIn status table row.name = decide (statusIn status id = .running) := by
  rw [Bool.eq_iff_iff, runsIn, List.any_eq_true, decide_eq_true_eq]
  constructor
  · rintro ⟨entry, member, holds⟩
    have both : entry.2.name = row.name ∧ statusIn status entry.1 = .running := by simpa using holds
    obtain rfl : entry = (id, row) := List.inj_on_of_nodup_map distinct member listed both.1
    exact both.2
  · exact fun running => ⟨(id, row), listed, by simp [running]⟩

end Running

section Invariant

/-- The records are in order, only committed containers have had their status set, and there
is one start message for every start that the log shows to be over and for each one that is not. -/
structure Orderly (service : Service) : Prop where
  conn : InOrder service.conn
  statuses : ∀ id ∈ service.status.keys, id ∈ service.conn.committed.containers.rows.keys
  counted : ∀ name, service.sent.count name = service.changes.count (name, .running, .exited) +
    if runsIn service.status service.conn.committed.containers name then 1 else 0

theorem initial_orderly (images : Table ImageRow) : Orderly (Service.initial images) := by
  have intact : Intact (.fresh images .empty) := by
    constructor <;> simp [Tables.fresh, Table.empty, Dict.empty]
  exact ⟨⟨intact, intact, kept_refl _⟩, fun id held => (by cases held), fun name => rfl⟩

theorem Orderly.records {service : Service} (orderly : Orderly service) {conn : Conn}
    {success : Bool} (handled : Handled service.conn conn success) (calls : Dict Nat Phase) :
    Orderly { service with conn := conn, calls := calls } := by
  have lasts := (orderly.conn.lasts handled).containers
  refine ⟨orderly.conn.handled handled, fun id held => lasts.keys (orderly.statuses id held),
    fun name => ?_⟩
  rw [show runsIn _ _ name = _ from runsIn_of_lasts lasts orderly.statuses name]
  exact orderly.counted name

theorem Orderly.commit {service : Service} (orderly : Orderly service) :
    Orderly { service with conn := service.conn.commit } :=
  orderly.records (.done service.conn.view .refl) service.calls

theorem Orderly.setStatus {service : Service} (orderly : Orderly service) {id : Nat}
    {row : ContainerRow} (listed : (id, row) ∈ service.conn.view.containers.rows.entries)
    (new : Status) (messages : List String)
    (balanced : messages.count row.name + (if service.statusOf id = .running then 1 else 0) =
      ([(row.name, service.statusOf id, new)].count (row.name, .running, .exited)) + if new =
        .running then 1 else 0)
    (own : ∀ name ∈ messages, name = row.name) :
    Orderly { service.setStatus new id row.name with sent := service.sent ++ messages } := by
  have committed := orderly.commit
  have distinct := orderly.conn.view.containers
  refine ⟨committed.conn, fun other held => ?_, fun name => ?_⟩
  · rcases (Dict.mem_keys_set _ _ _ _).mp held with rfl | old
    · exact List.mem_map_of_mem listed
    · exact committed.statuses other old
  · have before := committed.counted name
    have after := runsIn_set service.status distinct listed new name
    change (service.sent ++ messages).count name =
      (service.changes ++ [(row.name, service.statusOf id, new)]).count (name, .running, .exited) +
        if runsIn (service.status.set id new) service.conn.view.containers name then 1 else 0
    change service.sent.count name = service.changes.count (name, .running, .exited) +
      if runsIn service.status service.conn.view.containers name then 1 else 0 at before
    rw [List.count_append, List.count_append]
    by_cases same : name = row.name
    · subst same
      rw [if_pos rfl] at after
      have now := runsIn_listed service.status distinct listed
      simp only [now, decide_eq_true_eq] at before
      simp only [after, decide_eq_true_eq]
      change _ = _ + if service.statusOf id = .running then 1 else 0 at before
      omega
    -- the start messages and the log of another name are what they were
    · have silent : messages.count name = 0 :=
        List.count_eq_zero.mpr fun member => same (own name member)
      have unlogged : [(row.name, service.statusOf id, new)].count
          (name, Status.running, Status.exited) = 0 := by
        simp [Ne.symm same]
      rw [if_neg same] at after
      simp only [after, silent, unlogged, Nat.add_zero]
      exact before

theorem Orderly.started {service : Service} (orderly : Orderly service) {id : Nat}
    {row : ContainerRow} (listed : (id, row) ∈ service.conn.view.containers.rows.entries)
    (idle : service.statusOf id ≠ .running) :
    Orderly { service.setStatus .running id row.name with sent := service.sent ++ [row.name] } :=
  orderly.setStatus listed .running [row.name] (by simp [idle]) (by simp)

theorem Orderly.exited {service : Service} (orderly : Orderly service) {id : Nat}
    {row : ContainerRow} (listed : (id, row) ∈ service.conn.view.containers.rows.entries) :
    Orderly (service.setStatus .exited id row.name) := by
  have set :=
    orderly.setStatus listed .exited []
      (by by_cases running : service.statusOf id = .running <;> simp [running])
    nofun
  rwa [List.append_nil] at set

theorem markAllExited_conn (service : Service) :
    service.markAllExited.conn = service.conn.commit := by
  have folded : ∀ (entries : List (Nat × ContainerRow)) (marked : Service),
      (entries.foldl (fun marked entry => marked.setStatus .exited entry.1 entry.2.name)
        marked).conn = if entries = [] then marked.conn else marked.conn.commit := by
    intro entries
    induction entries with
    | nil => exact fun _ => rfl
    | cons entry rest ih =>
        intro marked
        rw [List.foldl_cons, ih, if_neg (List.cons_ne_nil _ _)]
        split <;> rfl
  rw [Service.markAllExited, folded]
  split <;> rfl

theorem Orderly.marked {service : Service} (orderly : Orderly service) :
    Orderly service.markAllExited := by
  have folded : ∀ (entries : List (Nat × ContainerRow)) (marked : Service), Orderly marked →
      (∀ entry ∈ entries, entry ∈ marked.conn.view.containers.rows.entries) →
      Orderly (entries.foldl
          (fun marked entry => marked.setStatus .exited entry.1 entry.2.name) marked) := by
    intro entries
    induction entries with
    | nil => exact fun _ orderly _ => orderly
    | cons entry rest ih =>
        intro marked orderly seen
        have set := orderly.exited (seen entry List.mem_cons_self)
        exact ih _ set fun other member => seen other (List.mem_cons_of_mem _ member)
  refine folded _ _ orderly.commit fun entry member => ?_
  exact (List.mem_filter.mp member).1

theorem Orderly.stepped {before after : Service} {action : Action} {answer : Reply}
    (orderly : Orderly before) (stepped : Stepped before action answer after) : Orderly after := by
  cases stepped with
  | records conn calls success _ handled _ => exact orderly.records handled calls
  | seen => exact orderly
  | started id row found idle => exact orderly.started (findContainer_some found).1 idle
  | exited id row found => exact orderly.exited (findContainer_some found).1
  | marked => exact orderly.marked

theorem stepped_of_step {before after : Service} {action : Action}
    (stepped : before.step action = some after) : ∃ answer, Stepped before action answer after := by
  rcases Option.map_eq_some_iff.mp stepped with ⟨⟨answer, _⟩, served, rfl⟩
  exact ⟨answer, serve_stepped served⟩

theorem run_orderly {admitted : Service → Action → Prop} {before after : Service}
    {actions : List Action} (run : Run Service.step admitted before actions after)
    (orderly : Orderly before) : Orderly after := by
  apply run_invariant Orderly _ run orderly
  intro service action next kept _ stepped
  rcases stepped_of_step stepped with ⟨answer, how⟩
  exact kept.stepped how

end Invariant

section Records

/-- Every request in any order, POST /api/networks one statement at a time: the UNIQUE
constraints and the foreign keys hold of what is committed and of what the connection sees. -/
theorem records_intact {images : Table ImageRow} {actions : List Action} {after : Service}
    (run : Run Service.step anyAction (Service.initial images) actions after) :
    Intact after.conn.committed ∧ Intact after.conn.view :=
  have orderly := run_orderly run (initial_orderly images)
  ⟨orderly.conn.committed, orderly.conn.view⟩

theorem markAllExited_keeps {service : Service} (orderly : Orderly service) :
    Kept service.conn.committed service.markAllExited.conn.committed := by
  rw [markAllExited_conn]
  exact orderly.conn.ahead

theorem Orderly.lasts {before after : Service} {action : Action} {answer : Reply}
    (orderly : Orderly before) (stepped : Stepped before action answer after) :
    Kept before.conn.committed after.conn.committed := by
  cases stepped with
  | records conn calls success _ handled _ => exact orderly.conn.lasts handled
  | seen => exact kept_refl _
  | started id row found idle => exact orderly.conn.ahead
  | exited id row found => exact orderly.conn.ahead
  | marked => exact markAllExited_keeps orderly

theorem run_kept {admitted : Service → Action → Prop} {before after : Service}
    {actions : List Action} (run : Run Service.step admitted before actions after)
    (orderly : Orderly before) :
    Kept before.conn.committed after.conn.committed := by
  induction run with
  | refl => exact kept_refl _
  | next _ taken _ ih =>
      rcases stepped_of_step taken with ⟨answer, stepped⟩
      exact (orderly.lasts stepped).trans (ih (orderly.stepped stepped))

end Records

section Failures

def unsuccessful (service : Service) (action : Action) : Prop :=
  (service.serve action).map Prod.fst ≠ some .succeeded

instance (service : Service) (action : Action) : Decidable (unsuccessful service action) :=
  inferInstanceAs (Decidable (_ ≠ _))

/-- The action is not answered with success, and is no statement of a network for the name ''. -/
def refused (service : Service) (action : Action) : Prop :=
  unsuccessful service action ∧ namesNothing service action = false

instance (service : Service) (action : Action) : Decidable (refused service action) :=
  inferInstanceAs (Decidable (_ ∧ _))

def lasting (service : Service) : Tables × Dict Nat Status × List String :=
  (service.conn.committed, service.status, service.sent)

theorem lasting_of_stepped {before after : Service} {action : Action} {answer : Reply}
    (stepped : Stepped before action answer after) (refused : answer ≠ .succeeded)
    (named : namesNothing before action = false) : lasting after = lasting before := by
  cases stepped with
  | records conn calls success _ handled matching =>
      obtain rfl := (matching.resolve_left refused).resolve_right (by simp [named])
      cases handled <;> rfl
  | seen => rfl
  | started => exact absurd rfl refused
  | exited => exact absurd rfl refused
  | marked => exact absurd rfl refused

end Failures

section Starts

/-- Each start message that went to the worker is a start that has ended since, or the one
that the container is running from. -/
theorem starts_counted {images : Table ImageRow} {actions : List Action} {after : Service}
    (run : Run Service.step anyAction (Service.initial images) actions after) (name : String) :
    after.sent.count name = after.changes.count (name, .running, .exited) +
      if runsIn after.status after.conn.committed.containers name then 1 else 0 :=
  (run_orderly run (initial_orderly images)).counted name

end Starts

section Example

/-- A network in five statements, with the requests for two containers among them. -/
def sharedNetwork : List Action :=
  [.addNetwork 0 ⟨some "pair", .parsed (.v4 pairNetwork)⟩, .networkStatement 0, .networkStatement 0,
    .createContainer workingHost (alpineRequest "db" []), .networkStatement 0, .networkStatement 0,
    .createContainer workingHost (alpineRequest "web" ["pair"])]

def twoStarts : List Action :=
  [.createContainer workingHost (alpineRequest "cache" []), .startContainer "web" true,
    .startContainer "web" true, .recordContainer "web" true, .startContainer "web" true]

/-- A dataset that is gone, a network that is not there, a request for the exit code that has
none, and a subnet that is no network. -/
def refusals : List Action :=
  [.createContainer emptiedHost (alpineRequest "web" []), .addNetwork 1 ⟨some "odd", .invalid⟩,
    .attachNetwork workingHost "web" "none", .networkStatement 1, .recordContainer "web" false]

def stockedService : Service := Service.initial (Table.empty.insert alpine)

def heldRecords (service : Service) : Nat × Nat × Nat × List String :=
  (service.conn.committed.containers.rows.entries.length,
    service.conn.committed.networks.rows.entries.length,
    service.conn.committed.containerNetworks.rows.entries.length, service.sent)

theorem records_intact_shared :
    ∃ after, Run Service.step anyAction stockedService sharedNetwork after ∧
      heldRecords after = (2, 1, 1, []) ∧ Intact after.conn.committed ∧ Intact after.conn.view :=
  (run_of_replay Service.step anyAction heldRecords stockedService sharedNetwork _ (by decide)).imp
    fun _ reached => ⟨reached.1, reached.2, records_intact reached.1⟩

/-- The five statements for the name '' commit both rows, and none of them is answered with success.
-/
def unnamedNetwork : List Action :=
  .addNetwork 0 ⟨some "", .parsed (.v4 pairNetwork)⟩ :: List.replicate 4 (.networkStatement 0)

example :
    (replay Service.step unsuccessful stockedService unnamedNetwork).map heldRecords =
        some (0, 1, 0, []) := by
  decide

theorem starts_counted_twice :
    ∃ after, Run Service.step anyAction stockedService (sharedNetwork ++ twoStarts) after ∧
      after.sent = ["web", "web"] ∧
        after.sent.count "web" = after.changes.count ("web", .running, .exited) +
        if runsIn after.status after.conn.committed.containers "web" then 1 else 0 :=
  (run_of_replay Service.step anyAction Service.sent stockedService
    (sharedNetwork ++ twoStarts) _ (by decide)).imp
    fun _ reached => ⟨reached.1, reached.2, starts_counted reached.1 "web"⟩

end Example

end Dockermock.Api
