import Dockermock.Kqueue.JailTable

/-!
The runs of a container that the worker still has to finish: start messages not
taken yet, the run that is being fetched, set up or reported, and the unreaped
children. `outstanding_step` accounts for every step exactly. A run is given up
only where the worker stops caring about it (`givenUp`), and a second one
appears out of the first only where a failure report whose answer was lost is
about to be repeated (`repeated`).
-/

namespace Dockermock.Kqueue

open Library

def Phase.concerns : Phase → Option String
  | .fetch name _ => some name
  | .create jail | .fork jail | .report jail _ => some jail.name
  | _ => none

def tally (holder : Option String) (name : String) : Nat := if holder = some name then 1 else 0

@[simp] theorem tally_none (name : String) : tally none name = 0 := rfl

theorem tally_pos_iff (holder : Option String) (name : String) :
    0 < tally holder name ↔ holder = some name := by
  unfold tally
  split <;> simp_all

namespace Worker

variable (worker : Worker) (name : String)

def asksFor (message : Message) : Bool := strip message.line = name

def queued : Nat := worker.buffer.countP (asksFor name) + worker.socket.countP (asksFor name)

def children : Nat := worker.processes.count fun _ process => decide (process.jail.name = name)

def outstanding : Nat :=
  worker.queued name + tally worker.phase.concerns name + worker.children name

/-- The container whose run is dropped or reported by the step. -/
def givenUp : Action → Option String
  | .fetchRefused | .fetchRaised | .forkFailed | .posted => worker.phase.concerns
  | .postLost =>
      match worker.phase with
      | .report _ .inTry => none
      | .report jail _ => some jail.name
      | _ => none
  | _ => none

/-- The container whose failure report was executed and will be sent again. -/
def repeated : Action → Option String
  | .answerLost =>
      match worker.phase with
      | .answer jail .inTry => some jail.name
      | _ => none
  | _ => none

variable {worker name} {after : Worker}

theorem children_setProcess {pid : Int} {old new : Process}
    (child : worker.processes.get pid = some old) (sameJail : new.jail = old.jail) :
    (worker.setProcess pid new).children name = worker.children name := by
  apply Dict.count_set_same _ _ _ _ _ child
  rw [sameJail]

theorem children_recordChild {pid : Int} {jail : Jail} (fresh : worker.processes.get pid = none) :
    (worker.recordChild jail pid).children name = worker.children name +
        tally (some jail.name) name := by
  refine (Dict.count_set_fresh _ _ _ _ fresh).trans ?_
  simp [children, tally]

theorem outstanding_of_concerns (busy : worker.phase.concerns = some name) :
    0 < worker.outstanding name := by
  have counted := (tally_pos_iff _ _).mpr busy
  unfold outstanding
  omega

theorem outstanding_setProcess {pid : Int} {old new : Process}
    (child : worker.processes.get pid = some old) (sameJail : new.jail = old.jail) :
    (worker.setProcess pid new).outstanding name = worker.outstanding name := by
  have counted : (worker.setProcess pid new).children name = worker.children name :=
    children_setProcess child sameJail
  rw [outstanding, counted]
  rfl

theorem outstanding_releaseJail {pid : Int} {process : Process} {exitCode : Nat}
    (child : worker.processes.get pid = some process) (idle : worker.phase = .idle) :
    (worker.releaseJail pid process.jail exitCode).outstanding name = worker.outstanding name := by
  have counted : worker.children name =
      (worker.releaseJail pid process.jail exitCode).children name +
          tally (some process.jail.name) name := by
    refine (Dict.count_pop _ worker.processes pid process child).trans ?_
    simp [children, tally, releaseJail]
  have reporting : (worker.releaseJail pid process.jail exitCode).phase.concerns =
      some process.jail.name := by
    simp [releaseJail, idle, Phase.concerns]
  have queues : (worker.releaseJail pid process.jail exitCode).queued name = worker.queued name :=
    rfl
  have busy : worker.phase.concerns = none := by simp [idle, Phase.concerns]
  rw [outstanding, outstanding, queues, reporting, busy, counted, tally_none]
  omega

/-- Every step but the arrival of messages and the shutdown. -/
theorem outstanding_step {action : Action} (table : TableInvariant worker)
    (effect : Effect worker action after) (unsent : ∀ messages, action ≠ .arrive messages)
    (serving : worker.phase ≠ .draining) :
    after.outstanding name + tally (worker.givenUp action) name =
      worker.outstanding name + tally (worker.repeated action) name := by
  cases effect with
  | arrive messages => exact absurd rfl (unsent messages)
  | receive count idle used =>
      -- Messages move from the socket to the buffer, none is lost or counted twice.
      have queues : (worker.socket.take count).countP (asksFor name) +
          (worker.socket.drop count).countP (asksFor name) =
              worker.socket.countP (asksFor name) := by
        rw [← List.countP_append, List.take_append_drop]
      simp [outstanding, queued, givenUp, repeated, children, used, queues]
  | take message rest idle received =>
      simp [outstanding, queued, givenUp, repeated, children, received, idle,
        List.countP_cons, asksFor, Phase.concerns, tally]
      omega
  | fetched container name run phase =>
      simp [outstanding, queued, givenUp, repeated, children, phase, Phase.concerns]
  | fetchRefused name run phase =>
      simp [outstanding, queued, givenUp, repeated, children, phase, Phase.concerns]
      omega
  | fetchRaised name run phase =>
      simp [outstanding, queued, givenUp, repeated, children, phase, Phase.concerns]
      omega
  | created jail phase =>
      simp [outstanding, queued, givenUp, repeated, children, phase, Phase.concerns]
  | jailRefused jail phase =>
      simp [outstanding, queued, givenUp, repeated, children, phase, Phase.concerns]
  | setupRaised jail phase =>
      simp [outstanding, queued, givenUp, repeated, children, setupFailed, phase, Phase.concerns]
  | forked pid jail phase positive fresh =>
      simp only [outstanding, children_recordChild fresh, givenUp, repeated, phase,
        Phase.concerns, tally_none]
      simp [queued, recordChild]
      omega
  | forkFailed jail phase =>
      simp [outstanding, queued, givenUp, repeated, children, phase, Phase.concerns]
      omega
  | tracked pid process phase child =>
      have counted : (worker.setProcess pid process.register).outstanding name =
          worker.outstanding name :=
        outstanding_setProcess child process.register_jail
      simpa [outstanding, queued, givenUp, repeated, children, phase, Phase.concerns] using counted
  | trackFailed pid phase =>
      simp [outstanding, queued, givenUp, repeated, children, phase, Phase.concerns]
  | posted jail site phase =>
      simp [outstanding, queued, givenUp, repeated, children, phase, Phase.concerns]
      omega
  | postLost jail site phase =>
      cases site <;>
        simp [outstanding, queued, givenUp, repeated, children, phase, Phase.concerns, notifyRaised,
          setupFailed]
      all_goals omega
  | answered jail site phase =>
      simp [outstanding, queued, givenUp, repeated, children, phase, Phase.concerns]
  | answerLost jail site phase =>
      cases site <;>
        simp [outstanding, queued, givenUp, repeated, children, phase, Phase.concerns, notifyRaised,
          setupFailed]
      all_goals omega
  | opensPidFile pid process child live before => exact outstanding_setProcess child rfl
  | writesPid pid process child live before => exact outstanding_setProcess child rfl
  | exits pid exitCode process watched child live => exact outstanding_setProcess child rfl
  | exitEvent pid process exitCode after child pending waits removed =>
      -- Exit events are delivered between two messages, so no other run is in a phase.
      have idle : worker.phase = .idle := by
        unfold waiting at waits
        split at waits <;> simp_all
      let delivered : Process := { process with life := .exited exitCode false }
      have updated : (worker.setProcess pid delivered).outstanding name = worker.outstanding name :=
        outstanding_setProcess child rfl
      have released :
        ((worker.setProcess pid delivered).releaseJail pid process.jail exitCode).outstanding name =
          (worker.setProcess pid delivered).outstanding name :=
        @outstanding_releaseJail _ _ pid delivered exitCode (by simp [Dict.get_set]) idle
      rw [table.release_of_removed child removed]
      exact released.trans updated
  | endOfStream idle used ended =>
      simp [outstanding, queued, givenUp, repeated, children, idle, Phase.concerns]
  | streamEvent phase left => exact absurd phase serving
  | drained phase clean => exact absurd phase serving

theorem phase_of_removed {pid : Int} (removed : worker.removeContainer pid = some after) :
    after.phase = worker.phase ∨ ∃ jail exitCode,
        after.phase = .report jail (.onExit exitCode) := by
  simp only [removeContainer] at removed
  split at removed
  · exact Or.inl (congrArg Worker.phase (Option.some.inj removed).symm)
  · split at removed
    · exact Or.inl (congrArg Worker.phase (Option.some.inj removed).symm)
    · split at removed <;> cases removed
      simp only [releaseJail]
      split
      · exact Or.inr ⟨_, _, rfl⟩
      · exact Or.inl rfl

theorem serving_step {action : Action} (effect : Effect worker action after)
    (streaming : action ≠ .endOfStream) (serving : worker.phase ≠ .draining) :
    after.phase ≠ .draining := by
  cases effect with
  | arrive messages => exact serving
  | receive count idle used => exact serving
  | postLost jail site phase => cases site <;> simp [notifyRaised, setupFailed]
  | answerLost jail site phase => cases site <;> simp [notifyRaised, setupFailed]
  | opensPidFile pid process child live before => exact serving
  | writesPid pid process child live before => exact serving
  | exits pid exitCode process watched child live => exact serving
  | exitEvent pid process exitCode after child pending waits removed =>
      rcases phase_of_removed removed with same | ⟨jail, code, reporting⟩
      · exact same ▸ serving
      · simp [reporting]
  | endOfStream idle used ended => exact absurd rfl streaming
  | streamEvent phase left => exact absurd phase serving
  | _ => simp [recordChild, setupFailed]

/-- Only the execution of a report makes the worker wait for an answer. -/
theorem answer_step {action : Action} (effect : Effect worker action after) (jail : Jail)
    (site : Site) (waits : after.phase = .answer jail site) :
    worker.phase = .answer jail site ∨ worker.phase.concerns = some jail.name := by
  cases effect with
  | arrive messages => exact Or.inl waits
  | receive count idle used => exact Or.inl waits
  | posted other from' phase =>
      cases waits
      exact Or.inr (by simp [phase, Phase.concerns])
  | postLost other from' phase => cases from' <;> cases waits
  | answerLost other from' phase => cases from' <;> cases waits
  | opensPidFile pid process child live before => exact Or.inl waits
  | writesPid pid process child live before => exact Or.inl waits
  | exits pid exitCode process watched child live => exact Or.inl waits
  | exitEvent pid process exitCode after child pending waiting removed =>
      rcases phase_of_removed removed with same | ⟨other, code, reporting⟩
      · exact Or.inl (same ▸ waits)
      · rw [reporting] at waits
        cases waits
  | streamEvent phase left => exact Or.inl waits
  | _ => cases waits

end Worker

end Dockermock.Kqueue
