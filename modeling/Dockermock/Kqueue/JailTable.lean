import Dockermock.Kqueue.Worker

/-!
`JAIL_DICT` against the kernel's process table. Every unreaped child is recorded
under its pid with its own jail, whatever happens; the only other key a run can
leave in the table is the -1 of a failed `rfork`. Hence an exit event always
finds the jail of the process that exited.
-/

namespace Dockermock.Kqueue

open Library

namespace Process

@[simp] theorem register_jail (process : Process) : process.register.jail = process.jail := by
  unfold register
  cases process.life <;> rfl

@[simp] theorem register_writePid (process : Process) :
    process.register.writePid = process.writePid := by
  unfold register
  cases process.life <;> rfl

end Process

namespace Worker

variable (worker : Worker)

section Fields
variable (phase : Phase) (pid : Int) (process : Process) (jail : Jail) (site : Site)

@[simp] theorem setPhase_phase : (worker.setPhase phase).phase = phase := rfl
@[simp] theorem setPhase_processes : (worker.setPhase phase).processes = worker.processes := rfl
@[simp] theorem setPhase_jailDict : (worker.setPhase phase).jailDict = worker.jailDict := rfl
@[simp] theorem setPhase_calls : (worker.setPhase phase).calls = worker.calls := rfl
@[simp] theorem setPhase_socket : (worker.setPhase phase).socket = worker.socket := rfl
@[simp] theorem setPhase_buffer : (worker.setPhase phase).buffer = worker.buffer := rfl

@[simp] theorem setProcess_phase : (worker.setProcess pid process).phase = worker.phase := rfl
@[simp] theorem setProcess_processes :
    (worker.setProcess pid process).processes = worker.processes.set pid process := rfl
@[simp] theorem setProcess_jailDict :
    (worker.setProcess pid process).jailDict = worker.jailDict := rfl
@[simp] theorem setProcess_calls : (worker.setProcess pid process).calls = worker.calls := rfl
@[simp] theorem setProcess_socket : (worker.setProcess pid process).socket = worker.socket := rfl
@[simp] theorem setProcess_buffer : (worker.setProcess pid process).buffer = worker.buffer := rfl

@[simp] theorem notifyRaised_processes :
    (worker.notifyRaised jail site).processes = worker.processes := by
  cases site <;> rfl
@[simp] theorem notifyRaised_jailDict :
    (worker.notifyRaised jail site).jailDict = worker.jailDict := by
  cases site <;> rfl
@[simp] theorem notifyRaised_socket : (worker.notifyRaised jail site).socket = worker.socket := by
  cases site <;> rfl
@[simp] theorem notifyRaised_buffer : (worker.notifyRaised jail site).buffer = worker.buffer := by
  cases site <;> rfl

end Fields

def owner (pid : Int) : Option Jail := (worker.processes.get pid).map Process.jail

section Owners
variable {worker}

theorem owner_of_child {pid : Int} {process : Process}
    (child : worker.processes.get pid = some process) : worker.owner pid = some process.jail := by
  simp [owner, child]

theorem owner_setProcess {pid : Int} {old new : Process}
    (child : worker.processes.get pid = some old) (sameJail : new.jail = old.jail) :
    (worker.setProcess pid new).owner = worker.owner := by
  funext probe
  by_cases same : probe = pid
  · simp [owner, Dict.get_set, same, child, sameJail]
  · simp [owner, Dict.get_set, same]

theorem notifyRaised_owner (jail : Jail) (site : Site) :
    (worker.notifyRaised jail site).owner = worker.owner := by
  cases site <;> rfl

theorem owner_recordChild (jail : Jail) (pid probe : Int) :
    (worker.recordChild jail pid).owner probe = if probe = pid then some jail
        else worker.owner probe := by
  by_cases same : probe = pid <;> simp [owner, recordChild, Dict.get_set, same]

theorem owner_releaseJail (pid probe : Int) (jail : Jail) (exitCode : Nat) :
    (worker.releaseJail pid jail exitCode).owner probe =
      if probe = pid then none else worker.owner probe := by
  by_cases same : probe = pid <;> simp [owner, releaseJail, Dict.get_pop, same]

end Owners

structure TableInvariant (worker : Worker) : Prop where
  recorded : ∀ pid jail, worker.owner pid = some jail →
    0 < pid ∧ worker.jailDict.get pid = some jail
  keyed : ∀ key jail, worker.jailDict.get key = some jail → key = -1 ∨ worker.owner key = some jail

theorem table_initial : TableInvariant initial := by
  constructor <;> intro key jail held <;> cases held

variable {worker}

theorem TableInvariant.of_same {after : Worker} (invariant : TableInvariant worker)
    (owners : after.owner = worker.owner) (jailDict : after.jailDict = worker.jailDict) :
    TableInvariant after := by
  constructor
  · rw [owners, jailDict]
    exact invariant.recorded
  · rw [owners, jailDict]
    exact invariant.keyed

theorem TableInvariant.of_record {pid : Int} {jail : Jail} (invariant : TableInvariant worker)
    (positive : 0 < pid) : TableInvariant (worker.recordChild jail pid) := by
  have entries : ∀ probe, (worker.recordChild jail pid).jailDict.get probe =
      if probe = pid then some jail else worker.jailDict.get probe :=
    fun probe => Dict.get_set _ _ _ _
  constructor
  · intro probe other owned
    rw [owner_recordChild] at owned
    by_cases same : probe = pid
    · simpa [entries, same, positive] using owned
    · simpa [entries, same] using invariant.recorded probe other (by simpa [same] using owned)
  · intro key other held
    rw [entries] at held
    rw [owner_recordChild]
    by_cases same : key = pid
    · simpa [same] using Or.inr held
    · simpa [same] using invariant.keyed key other (by simpa [same] using held)

theorem TableInvariant.of_failed {jail : Jail} {phase : Phase} (invariant : TableInvariant worker) :
    TableInvariant { worker with jailDict := worker.jailDict.set (-1) jail, phase := phase } := by
  constructor
  · intro pid other owned
    rcases invariant.recorded pid other owned with ⟨positive, held⟩
    have apart : pid ≠ -1 := by omega
    simpa [Dict.get_set, apart, positive] using held
  · intro key other held
    by_cases same : key = -1
    · exact Or.inl same
    · exact invariant.keyed key other (by simpa [Dict.get_set, same] using held)

theorem TableInvariant.of_release {pid : Int} {jail : Jail} {exitCode : Nat}
    (invariant : TableInvariant worker) :
    TableInvariant (worker.releaseJail pid jail exitCode) := by
  have entries : ∀ probe, (worker.releaseJail pid jail exitCode).jailDict.get probe =
      if probe = pid then none else worker.jailDict.get probe :=
    fun probe => Dict.get_pop _ _ _
  constructor
  · intro probe other owned
    rw [owner_releaseJail] at owned
    by_cases same : probe = pid
    · simp [same] at owned
    · simpa [entries, same] using invariant.recorded probe other (by simpa [same] using owned)
  · intro key other held
    rw [entries] at held
    rw [owner_releaseJail]
    by_cases same : key = pid
    · simp [same] at held
    · simpa [same] using invariant.keyed key other (by simpa [same] using held)

/-- An exit event reaps the process, destroys its jail and drops its entry. -/
theorem TableInvariant.release_of_removed {pid : Int} {process : Process} {exitCode : Nat}
    {after : Worker} (invariant : TableInvariant worker)
    (child : worker.processes.get pid = some process)
    (removed :
      (worker.setProcess pid { process with life := .exited exitCode false }).removeContainer
        pid = some after) :
    after = (worker.setProcess pid { process with life := .exited exitCode false }).releaseJail
      pid process.jail exitCode := by
  have held := (invariant.recorded pid process.jail (owner_of_child child)).2
  simp only [removeContainer, setProcess_jailDict, held, setProcess_processes,
    Dict.get_set, ↓reduceIte, Option.some.injEq] at removed
  exact removed.symm

theorem table_step {action : Action} {after : Worker} (invariant : TableInvariant worker)
    (effect : Effect worker action after) : TableInvariant after := by
  cases effect with
  | forked pid jail phase positive fresh => exact invariant.of_record positive
  | forkFailed jail phase => exact invariant.of_failed
  | tracked pid process phase child =>
      exact invariant.of_same (owner_setProcess child process.register_jail) rfl
  | postLost jail site phase =>
      exact invariant.of_same (notifyRaised_owner _ _) (notifyRaised_jailDict _ _ _)
  | answerLost jail site phase =>
      exact invariant.of_same (notifyRaised_owner _ _) (notifyRaised_jailDict _ _ _)
  | opensPidFile pid process child live before =>
      exact invariant.of_same (owner_setProcess child rfl) rfl
  | writesPid pid process child live before =>
      exact invariant.of_same (owner_setProcess child rfl) rfl
  | exits pid exitCode process watched child live =>
      exact invariant.of_same (owner_setProcess child rfl) rfl
  | exitEvent pid process exitCode after child pending waits removed =>
      have updated :
          TableInvariant (worker.setProcess pid { process with life := .exited exitCode false }) :=
        invariant.of_same (owner_setProcess child rfl) rfl
      rw [invariant.release_of_removed child removed]
      exact updated.of_release
  | _ => exact invariant.of_same rfl rfl

end Worker

end Dockermock.Kqueue
