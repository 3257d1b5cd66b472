import Dockermock.Library.Measure
import Dockermock.Kqueue.Shutdown

/-!
How shutdown ends. Once the socket is at its end, clean_all_jails loops until the
table is empty. Its turns on the end of the socket, which is still watched, do
nothing; each other step of the worker and of its children uses something up that
does not come back. A run that has only such turns left has ended the loop exactly
if the exit of every child in the table is still going to be delivered: a key left
by a failed rfork, or a child whose filter was not registered, is waited for for ever.
-/

namespace Dockermock.Kqueue

open Library

/-- Steps before a child is gone: the two of write_pid, its exit, and the event of it. -/
def WritePid.left : WritePid → Nat
  | .notYet => 2
  | .opened => 1
  | .written => 0

def Process.left (process : Process) : Nat :=
  match process.life with
  | .running _ => process.writePid.left + 2
  | .exited _ true => 1
  | .exited _ false => 0

namespace Worker

def isArrival : Action → Bool
  | .arrive _ => true
  | _ => false

/-- Nothing arrives behind the end of the stream. -/
def noArrival (_ : Worker) (action : Action) : Prop := isArrival action = false

instance (worker : Worker) (action : Action) : Decidable (noArrival worker action) :=
  inferInstanceAs (Decidable (_ = _))

/-- More than another turn on the end of the stream. -/
def isProgress (action : Action) : Bool := action ≠ .streamEvent

def proceeds (worker : Worker) (action : Action) : Prop :=
  noArrival worker action ∧ isProgress action = true

/-- The steps that are left in the loop of clean_all_jails, without those turns. -/
def left (worker : Worker) : Nat :=
  worker.processes.total Process.left + if worker.phase = .draining then 1 else 0

/-- The exit of the child is still going to be delivered. -/
def awaits (worker : Worker) (key : Int) : Prop :=
  ∃ process, worker.processes.get key = some process ∧ process.noticed = true

def Awaited (worker : Worker) : Prop := ∀ key ∈ worker.jailDict.keys, worker.awaits key

/-- In the loop, or out of it with an empty table. -/
def Ending (worker : Worker) : Prop :=
  worker.phase = .draining ∨ worker.phase = .closed ∧ worker.jailDict.entries = []

structure Turn (before after : Worker) : Prop where
  ending : Ending after
  less : after.left < before.left
  same : Awaited after ↔ Awaited before

variable {worker after : Worker}

theorem left_setProcess {pid : Int} {old : Process} (new : Process)
    (child : worker.processes.get pid = some old) :
    (worker.setProcess pid new).left + old.left = worker.left + new.left := by
  have sums := worker.processes.total_set Process.left pid old new child
  change (worker.processes.set pid new).total Process.left +
    (if worker.phase = .draining then 1 else 0) + old.left = _
  rw [left]
  omega

theorem turn_child {pid : Int} {old new : Process} (ending : Ending worker)
    (child : worker.processes.get pid = some old) (less : new.left < old.left)
    (same : new.noticed = old.noticed) :
    Turn worker (worker.setProcess pid new) where
  ending := ending
  less := by
    have sums := left_setProcess new child
    omega
  same := by
    refine forall₂_congr fun key member => ?_
    simp only [awaits, setProcess_processes, Dict.get_set]
    by_cases here : key = pid
    · simp [here, child, same]
    · simp [here]

theorem releaseJail_phase {pid : Int} {jail : Jail} {exitCode : Nat}
    (draining : worker.phase = .draining) :
    (worker.releaseJail pid jail exitCode).phase = .draining := by
  rw [releaseJail, draining]
  rfl

theorem left_releaseJail {pid : Int} {jail : Jail} {exitCode : Nat}
    (draining : worker.phase = .draining) :
    (worker.releaseJail pid jail exitCode).left ≤ worker.left := by
  rw [left, left, releaseJail_phase draining, draining]
  exact Nat.add_le_add_right (worker.processes.total_pop Process.left pid) _

theorem turn_release {pid : Int} {old new : Process} {jail : Jail} {exitCode : Nat}
    (draining : worker.phase = .draining) (child : worker.processes.get pid = some old)
    (noticed : old.noticed = true) (less : (worker.setProcess pid new).left < worker.left) :
    Turn worker ((worker.setProcess pid new).releaseJail pid jail exitCode) where
  ending := Or.inl (releaseJail_phase draining)
  less := Nat.lt_of_le_of_lt (left_releaseJail draining) less
  same := by
    have keys : ∀ key,
      key ∈ ((worker.setProcess pid new).releaseJail pid jail exitCode).jailDict.keys ↔
        key ≠ pid ∧ key ∈ worker.jailDict.keys := fun key => by
      simp [releaseJail, Dict.mem_keys_iff, Dict.get_pop]
    have others : ∀ key, key ≠ pid →
        (((worker.setProcess pid new).releaseJail pid jail exitCode).awaits key ↔
            worker.awaits key) := fun key other => by
      simp [awaits, releaseJail, Dict.get_pop, Dict.get_set, other]
    constructor
    · intro awaited key member
      by_cases here : key = pid
      · exact ⟨old, here ▸ child, noticed⟩
      · exact (others key here).mp (awaited key ((keys key).mpr ⟨here, member⟩))
    · intro awaited key member
      rcases (keys key).mp member with ⟨other, member⟩
      exact (others key other).mpr (awaited key member)

theorem turn_remove {pid : Int} {process : Process} {exitCode : Nat}
    (draining : worker.phase = .draining) (child : worker.processes.get pid = some process)
    (pending : process.life = .exited exitCode true)
    (removed :
      (worker.setProcess pid { process with life := .exited exitCode false }).removeContainer
        pid = some after) :
    Turn worker after := by
  have sums := left_setProcess { process with life := .exited exitCode false } child
  have one : process.left = 1 := by rw [Process.left, pending]
  have zero : Process.left { process with life := .exited exitCode false } = 0 := rfl
  have noticed : process.noticed = true := by rw [Process.noticed, pending]
  rw [removeContainer, setProcess_jailDict] at removed
  cases recorded : worker.jailDict.get pid with
  | none =>
      simp only [recorded, Option.some.injEq] at removed
      subst removed
      refine ⟨Or.inl draining, by omega, forall₂_congr fun key member => ?_⟩
      have other : key ≠ pid := fun same => by
        rcases (Dict.mem_keys_iff _ _).mp member with ⟨jail, held⟩
        rw [same] at held
        exact absurd (held.symm.trans recorded) (by simp)
      simp only [awaits, setProcess_processes, Dict.get_set, if_neg other]
  | some jail =>
      simp only [recorded, setProcess_processes, Dict.get_set, if_pos, Option.some.injEq] at removed
      subst removed
      exact turn_release draining child noticed (by omega)

theorem turn_effect (ending : Ending worker) {action : Action} (forward : proceeds worker action)
    (effect : Effect worker action after) : Turn worker after := by
  cases effect with
  | arrive messages => cases forward.1
  | streamEvent phase left => cases forward.2
  | opensPidFile pid process child live before =>
      refine turn_child ending child ?_ rfl
      rcases process with ⟨jail, _ | _, writePid⟩ <;>
        simp_all [Process.left, Process.isRunning, WritePid.left]
  | writesPid pid process child live before =>
      refine turn_child ending child ?_ rfl
      rcases process with ⟨jail, _ | _, writePid⟩ <;>
        simp_all [Process.left, Process.isRunning, WritePid.left]
  | exits pid exitCode process watched child live =>
      refine turn_child ending child ?_ (by rw [Process.noticed, Process.noticed, live])
      cases watched <;> simp [Process.left, live]
  | exitEvent pid process exitCode after child pending waits removed =>
      rcases ending with draining | ⟨closed, _⟩
      · exact turn_remove draining child pending removed
      · rw [waiting, closed] at waits
        cases waits
  | drained phase clean =>
      refine ⟨Or.inr ⟨rfl, clean⟩, ?_, Iff.rfl⟩
      rw [left, left, phase]
      exact Nat.lt_succ_self _
  | _ => rcases ending with draining | ⟨closed, _⟩ <;> simp_all

theorem not_stuck (draining : worker.phase = .draining) (awaited : Awaited worker) :
    ∃ action, proceeds worker action ∧ worker.step action ≠ none := by
  by_cases empty : worker.jailDict.entries = []
  · refine ⟨.drained, ⟨rfl, rfl⟩, ?_⟩
    simp [step, draining, empty]
  · rcases List.exists_mem_of_ne_nil _ empty with ⟨⟨key, jail⟩, member⟩
    rcases awaited key (List.mem_map_of_mem member) with ⟨process, child, noticed⟩
    rcases process with ⟨owner, ⟨watched⟩ | ⟨exitCode, pending⟩, writePid⟩
    · refine ⟨.exits key 0, ⟨rfl, rfl⟩, ?_⟩
      simp [step, child]
    · have delivered : pending = true := noticed
      have waits : worker.waiting = true := by rw [waiting, draining]
      refine ⟨.exitEvent key, ⟨rfl, rfl⟩, ?_⟩
      simp only [step, child, delivered, waits, Option.bind_some, removeContainer,
        setProcess_jailDict,
        (Dict.get_eq_some_iff _ _ _).mpr member, setProcess_processes, Dict.get_set, if_pos]
      simp

theorem Ending.unreaped (ending : Ending worker) (table : TableInvariant worker)
    (closed : worker.phase = .closed) (pid : Int) : worker.processes.get pid = none := by
  rcases ending with draining | ⟨_, empty⟩
  · rw [draining] at closed
    cases closed
  · rw [Option.eq_none_iff_forall_ne_some]
    intro process child
    have recorded := (table.recorded pid process.jail (owner_of_child child)).2
    rw [Dict.get_eq_some_iff, empty] at recorded
    cases recorded

/-- A step in the loop or behind it is a turn, or one on the end of the stream. -/
theorem ending_step {action : Action} (ending : Ending worker) (quiet : noArrival worker action)
    (taken : worker.step action = some after) :
    after = worker ∧ isProgress action = false ∨ Turn worker after := by
  by_cases forward : isProgress action = true
  · exact Or.inr (turn_effect ending ⟨quiet, forward⟩ (step_effect taken))
  · obtain rfl : action = .streamEvent := by simpa [isProgress] using forward
    cases step_effect taken with
    | streamEvent phase left => exact Or.inl ⟨rfl, rfl⟩

/-- From the end of the stream on every run has boundedly many steps other than the turns on that
end, and one that has none of them left is out of the loop exactly if every exit was going to be
delivered; then no child is left unreaped. -/
theorem shutdown_ends {actions rest : List Action} (run : Run step anyAction initial actions worker)
    (draining : worker.phase = .draining) (more : Run step noArrival worker rest after) :
    rest.countP isProgress ≤ worker.left ∧
      (Stuck step proceeds after → (after.phase = .closed ↔ Awaited worker)) ∧
      (after.phase = .closed → ∀ pid, after.processes.get pid = none) := by
  have bounded : rest.countP isProgress + after.left ≤ worker.left := by
    refine run_bounded isProgress left Ending (fun before action next ending quiet taken => ?_) more
      (Or.inl draining)
    rcases ending_step ending quiet taken with ⟨rfl, idle⟩ | turn
    · exact ⟨ending, by simp [idle]⟩
    · have less := turn.less
      exact ⟨turn.ending, by split <;> omega⟩
  have table : TableInvariant worker :=
    run_invariant TableInvariant (fun _ _ _ table _ taken => table_step table (step_effect taken))
      run table_initial
  -- a turn on the end of the stream changes nothing; every other step is one that counts
  have kept : TableInvariant after ∧ Ending after ∧ (Awaited after ↔ Awaited worker) := by
    apply run_invariant (fun now => TableInvariant now ∧ Ending now ∧
      (Awaited now ↔ Awaited worker)) _ more
    · exact ⟨table, Or.inl draining, Iff.rfl⟩
    · rintro before action next ⟨table, ending, same⟩ quiet taken
      rcases ending_step ending quiet taken with ⟨rfl, _⟩ | turn
      · exact ⟨table, ending, same⟩
      · exact ⟨table_step table (step_effect taken), turn.ending, turn.same.trans same⟩
  rcases kept with ⟨table', ending, same⟩
  refine ⟨by omega, fun stuck => ?_, ending.unreaped table'⟩
  constructor
  · intro closed
    rcases ending with draining | ⟨_, empty⟩
    · rw [draining] at closed
      cases closed
    · refine same.mp fun key member => ?_
      rw [Dict.keys, empty] at member
      cases member
  · intro awaited
    rcases ending with draining | ⟨closed, _⟩
    · rcases not_stuck draining (same.mpr awaited) with ⟨action, forward, enabled⟩
      exact absurd (stuck action forward) enabled
    · exact closed

section Example

def oneChild : List Action :=
  [.arrive [⟨"web", 0⟩], .receive 1, .take, .fetched "web", .created, .forked 7,
    .tracked, .endOfStream]

def shuttingDown : List Action :=
  [.streamEvent, .streamEvent, .exits 7 0, .streamEvent, .exitEvent 7, .drained]

def lastOf (actions : List Action) : Option (Worker × Worker) :=
  (replay step anyAction initial actions).bind fun worker =>
    (replay step noArrival worker shuttingDown).map fun after => (worker, after)

theorem shutdown_ends_web :
    ∃ worker after, Run step anyAction initial oneChild worker ∧ worker.phase = .draining ∧
      Run step noArrival worker shuttingDown after ∧ after.phase = .closed ∧
      (shuttingDown.countP isProgress ≤ worker.left ∧
        (Stuck step proceeds after → (after.phase = .closed ↔ Awaited worker)) ∧
        (after.phase = .closed → ∀ pid, after.processes.get pid = none)) := by
  have ends : ((lastOf oneChild).map fun last => (last.1.phase, last.2.phase)) =
      some (.draining, .closed) := by
    decide
  rcases Option.map_eq_some_iff.mp ends with ⟨⟨worker, after⟩, last, phases⟩
  rcases Option.bind_eq_some_iff.mp last with ⟨_, reached, more⟩
  rcases Option.map_eq_some_iff.mp more with ⟨_, closing, ⟨⟩⟩
  rcases Prod.mk.inj phases with ⟨draining, closed⟩
  have run := replay_run step anyAction initial oneChild worker reached
  have rest := replay_run step noArrival worker _ after closing
  exact ⟨worker, after, run, draining, rest, closed, shutdown_ends run draining rest⟩

end Example

end Worker

end Dockermock.Kqueue
