import Dockermock.Library.Dict
import Dockermock.Library.Text
import Dockermock.Library.Transition

/-!
The worker process of kqueue_parent.py: the loop of `run` with
`process_container`, `start_container`, `track_process`, `remove_container` and
`clean_all_jails`, cut at the points where something outside the worker can act.
An action is one such point together with its outcome: what a system call or an
HTTP request gave, what the kernel did to a child, what arrived on the socket.
`Effect` says once what every action can do; the invariants are derived from it.
A worker that has crashed runs the exit handler it has inherited from the server,
which marks the containers as exited; that is left out.

A `Jail` object is identified by the order of its creation. The container whose
row was fetched and the start request a message stems from are carried along
to state properties; the worker's own code reads neither.
-/

namespace Dockermock.Kqueue

open Library

/-- One line of the start-message stream, with the start request that sent it. -/
structure Message where
  line : String
  run : Nat
  deriving DecidableEq, Repr

structure Jail where
  id : Nat
  name : String
  container : String
  run : Nat
  deriving DecidableEq, Repr

/-- `write_pid` opens jail.pid, which empties it, and fills it when closing. -/
inductive WritePid where
  | notYet | opened | written
  deriving DecidableEq, Repr

/-- A running process may be watched by a `NOTE_EXIT` filter; one that has exited
may have an event of that filter still to be delivered. -/
inductive Life where
  | running (watched : Bool)
  | exited (exitCode : Nat) (pending : Bool)
  deriving DecidableEq, Repr

/-- A forked child, kept by the kernel until it is reaped. -/
structure Process where
  jail : Jail
  life : Life
  writePid : WritePid
  deriving DecidableEq, Repr

namespace Process

def isRunning (process : Process) : Bool :=
  match process.life with
  | .running _ => true
  | .exited _ _ => false

/-- A filter added for a process that has already exited fires at once. -/
def register (process : Process) : Process :=
  match process.life with
  | .running _ => { process with life := .running true }
  | .exited exitCode _ => { process with life := .exited exitCode true }

end Process

/-- Where `notity_status` is called: in the `try` block of `start_container` for a
negative jid, in its `except` block, and in `remove_container`. -/
inductive Site where
  | inTry | inExcept | onExit (exitCode : Nat)
  deriving DecidableEq, Repr

def Site.exitCode : Site → Nat
  | .inTry | .inExcept => 100
  | .onExit exitCode => exitCode

inductive Phase where
  | idle
  | fetch (name : String) (run : Nat)
  | create (jail : Jail)
  | fork (jail : Jail)
  | track (pid : Int)
  | report (jail : Jail) (site : Site)
  | answer (jail : Jail) (site : Site)
  | draining
  | closed
  | crashed
  deriving DecidableEq, Repr

/-- The calls that take part in the life of a jail and its process. -/
inductive Call where
  | forked (jail : Nat) (pid : Int)
  | reaped (jail : Nat) (pid : Int)
  | destroyJail (jail : Nat)
  | kill (pid : Int)
  deriving DecidableEq, Repr

structure Worker where
  socket : List Message
  buffer : List Message
  phase : Phase
  jailDict : Dict Int Jail
  processes : Dict Int Process
  nextJail : Nat
  calls : List Call

def initial : Worker := ⟨[], [], .idle, .empty, .empty, 0, []⟩

inductive Action where
  | arrive (messages : List Message)
  | receive (count : Nat)
  | take
  | fetched (container : String)
  | fetchRefused
  | fetchRaised
  | created
  | jailRefused
  | setupRaised
  | forked (pid : Int)
  | forkFailed
  | tracked
  | trackFailed
  | posted
  | postLost
  | answered
  | answerLost
  | opensPidFile (pid : Int)
  | writesPid (pid : Int)
  | exits (pid : Int) (exitCode : Nat)
  | exitEvent (pid : Int)
  | endOfStream
  | streamEvent
  | drained
  deriving DecidableEq, Repr

namespace Worker

/-- `kq.control(None, 1)` waits only when the received lines are used up. -/
def waiting (worker : Worker) : Bool :=
  match worker.phase with
  | .idle => worker.buffer.isEmpty
  | .draining => true
  | _ => false

def setPhase (worker : Worker) (phase : Phase) : Worker := { worker with phase := phase }

def setProcess (worker : Worker) (pid : Int) (process : Process) : Worker :=
  { worker with processes := worker.processes.set pid process }

/-- The `except` block of `start_container`, up to its POST. -/
def setupFailed (worker : Worker) (jail : Jail) : Worker :=
  { worker with calls := worker.calls ++ [.destroyJail jail.id], phase := .report jail .inExcept }

/-- An exception out of `notity_status`: the `try` block's own handler catches the
first, nothing the second, and `remove_container` the third. -/
def notifyRaised (worker : Worker) (jail : Jail) : Site → Worker
  | .inTry => worker.setupFailed jail
  | .inExcept => worker.setPhase .crashed
  | .onExit _ => worker.setPhase .idle

/-- `JAIL_DICT[pid] = jail` for a pid that `rfork` returned. -/
def recordChild (worker : Worker) (jail : Jail) (pid : Int) : Worker :=
  { worker with
    jailDict := worker.jailDict.set pid jail
    processes := worker.processes.set pid ⟨jail, .running false, .notYet⟩
    calls := worker.calls ++ [.forked jail.id pid]
    phase := .track pid }

/-- The part of `remove_container` after `waitpid` returned. -/
def releaseJail (worker : Worker) (pid : Int) (jail : Jail) (exitCode : Nat) : Worker :=
  { worker with
    processes := worker.processes.pop pid
    calls := worker.calls ++ [.reaped jail.id pid, .destroyJail jail.id]
    jailDict := worker.jailDict.pop pid
    phase := if worker.phase = .idle then .report jail (.onExit exitCode) else worker.phase }

/-- `remove_container(pid, notify)`, notifying unless the table is being cleaned.
A live child would make `waitpid` block; a pid that is no child makes it raise,
which is caught. -/
def removeContainer (worker : Worker) (pid : Int) : Option Worker :=
  match worker.jailDict.get pid with
  | none => some worker
  | some jail =>
      match worker.processes.get pid with
      | none => some worker
      | some process =>
          match process.life with
          | .running _ => none
          | .exited exitCode _ => some (worker.releaseJail pid jail exitCode)

/-- What `clean_all_jails` sends SIGTERM to. -/
def killTargets (worker : Worker) : List Int := worker.jailDict.keys

def step (worker : Worker) : Action → Option Worker
  | .arrive messages => some { worker with socket := worker.socket ++ messages }
  | .receive count =>
      if worker.phase = .idle ∧ worker.buffer = [] then
        some { worker with buffer := worker.socket.take count, socket := worker.socket.drop count }
      else none
  | .take =>
      match worker.phase, worker.buffer with
      | .idle, message :: rest =>
          some { worker with buffer := rest, phase := .fetch (strip message.line) message.run }
      | _, _ => none
  | .fetched container =>
      match worker.phase with
      | .fetch name run =>
          some { worker with
            phase := .create ⟨worker.nextJail, name, container, run⟩
            nextJail := worker.nextJail + 1 }
      | _ => none
  | .fetchRefused =>
      match worker.phase with
      | .fetch _ _ => some (worker.setPhase .idle)
      | _ => none
  | .fetchRaised =>
      match worker.phase with
      | .fetch _ _ => some (worker.setPhase .crashed)
      | _ => none
  | .created =>
      match worker.phase with
      | .create jail => some (worker.setPhase (.fork jail))
      | _ => none
  | .jailRefused =>
      match worker.phase with
      | .create jail => some (worker.setPhase (.report jail .inTry))
      | _ => none
  | .setupRaised =>
      match worker.phase with
      | .create jail => some (worker.setupFailed jail)
      | _ => none
  | .forked pid =>
      match worker.phase with
      | .fork jail =>
          if 0 < pid ∧ worker.processes.get pid = none then
            some (worker.recordChild jail pid)
          else none
      | _ => none
  | .forkFailed =>
      match worker.phase with
      | .fork jail => some { worker with jailDict := worker.jailDict.set (-1) jail, phase := .idle }
      | _ => none
  | .tracked =>
      match worker.phase with
      | .track pid =>
          (worker.processes.get pid).map fun process =>
            (worker.setProcess pid process.register).setPhase .idle
      | _ => none
  | .trackFailed =>
      match worker.phase with
      | .track _ => some (worker.setPhase .idle)
      | _ => none
  | .posted =>
      match worker.phase with
      | .report jail site => some (worker.setPhase (.answer jail site))
      | _ => none
  | .postLost =>
      match worker.phase with
      | .report jail site => some (worker.notifyRaised jail site)
      | _ => none
  | .answered =>
      match worker.phase with
      | .answer _ _ => some (worker.setPhase .idle)
      | _ => none
  | .answerLost =>
      match worker.phase with
      | .answer jail site => some (worker.notifyRaised jail site)
      | _ => none
  | .opensPidFile pid =>
      (worker.processes.get pid).bind fun process =>
        if process.isRunning ∧ process.writePid = .notYet then
          some (worker.setProcess pid { process with writePid := .opened })
        else none
  | .writesPid pid =>
      (worker.processes.get pid).bind fun process =>
        if process.isRunning ∧ process.writePid = .opened then
          some (worker.setProcess pid { process with writePid := .written })
        else none
  | .exits pid exitCode =>
      (worker.processes.get pid).bind fun process =>
        match process.life with
        | .running watched =>
            some (worker.setProcess pid { process with life := .exited exitCode watched })
        | .exited _ _ => none
  | .exitEvent pid =>
      (worker.processes.get pid).bind fun process =>
        match process.life, worker.waiting with
        | .exited exitCode true, true =>
            (worker.setProcess pid { process with life := .exited exitCode false }).removeContainer
              pid
        | _, _ => none
  | .endOfStream =>
      if worker.phase = .idle ∧ worker.buffer = [] ∧ worker.socket = [] then
        some
          { worker with calls := worker.calls ++ worker.killTargets.map .kill, phase := .draining }
      else none
  -- The filter on the socket stays, and at the end of the stream it fires on every call.
  | .streamEvent =>
      if worker.phase = .draining ∧ worker.jailDict.entries ≠ [] then some worker else none
  | .drained =>
      if worker.phase = .draining ∧ worker.jailDict.entries = [] then
        some (worker.setPhase .closed)
      else none

inductive Effect (worker : Worker) : Action → Worker → Prop where
  | arrive (messages : List Message) :
      Effect worker (.arrive messages) { worker with socket := worker.socket ++ messages }
  | receive (count : Nat) (idle : worker.phase = .idle) (used : worker.buffer = []) :
      Effect worker (.receive count)
        { worker with buffer := worker.socket.take count, socket := worker.socket.drop count }
  | take (message : Message) (rest : List Message) (idle : worker.phase = .idle)
      (received : worker.buffer = message :: rest) :
      Effect worker .take
        { worker with buffer := rest, phase := .fetch (strip message.line) message.run }
  | fetched (container name : String) (run : Nat) (phase : worker.phase = .fetch name run) :
      Effect worker (.fetched container)
        { worker with
          phase := .create ⟨worker.nextJail, name, container, run⟩
          nextJail := worker.nextJail + 1 }
  | fetchRefused (name : String) (run : Nat) (phase : worker.phase = .fetch name run) :
      Effect worker .fetchRefused (worker.setPhase .idle)
  | fetchRaised (name : String) (run : Nat) (phase : worker.phase = .fetch name run) :
      Effect worker .fetchRaised (worker.setPhase .crashed)
  | created (jail : Jail) (phase : worker.phase = .create jail) :
      Effect worker .created (worker.setPhase (.fork jail))
  | jailRefused (jail : Jail) (phase : worker.phase = .create jail) :
      Effect worker .jailRefused (worker.setPhase (.report jail .inTry))
  | setupRaised (jail : Jail) (phase : worker.phase = .create jail) :
      Effect worker .setupRaised (worker.setupFailed jail)
  | forked (pid : Int) (jail : Jail) (phase : worker.phase = .fork jail) (positive : 0 < pid)
      (fresh : worker.processes.get pid = none) :
      Effect worker (.forked pid) (worker.recordChild jail pid)
  | forkFailed (jail : Jail) (phase : worker.phase = .fork jail) :
      Effect worker .forkFailed
        { worker with jailDict := worker.jailDict.set (-1) jail, phase := .idle }
  | tracked (pid : Int) (process : Process) (phase : worker.phase = .track pid)
      (child : worker.processes.get pid = some process) :
      Effect worker .tracked ((worker.setProcess pid process.register).setPhase .idle)
  | trackFailed (pid : Int) (phase : worker.phase = .track pid) :
      Effect worker .trackFailed (worker.setPhase .idle)
  | posted (jail : Jail) (site : Site) (phase : worker.phase = .report jail site) :
      Effect worker .posted (worker.setPhase (.answer jail site))
  | postLost (jail : Jail) (site : Site) (phase : worker.phase = .report jail site) :
      Effect worker .postLost (worker.notifyRaised jail site)
  | answered (jail : Jail) (site : Site) (phase : worker.phase = .answer jail site) :
      Effect worker .answered (worker.setPhase .idle)
  | answerLost (jail : Jail) (site : Site) (phase : worker.phase = .answer jail site) :
      Effect worker .answerLost (worker.notifyRaised jail site)
  | opensPidFile (pid : Int) (process : Process) (child : worker.processes.get pid = some process)
      (live : process.isRunning) (before : process.writePid = .notYet) :
      Effect worker (.opensPidFile pid) (worker.setProcess pid { process with writePid := .opened })
  | writesPid (pid : Int) (process : Process) (child : worker.processes.get pid = some process)
      (live : process.isRunning) (before : process.writePid = .opened) :
      Effect worker (.writesPid pid) (worker.setProcess pid { process with writePid := .written })
  | exits (pid : Int) (exitCode : Nat) (process : Process) (watched : Bool)
      (child : worker.processes.get pid = some process) (live : process.life = .running watched) :
      Effect worker (.exits pid exitCode)
        (worker.setProcess pid { process with life := .exited exitCode watched })
  | exitEvent (pid : Int) (process : Process) (exitCode : Nat) (after : Worker)
      (child : worker.processes.get pid = some process)
        (pending : process.life = .exited exitCode true)
      (waits : worker.waiting = true)
      (removed :
        (worker.setProcess pid { process with life := .exited exitCode false }).removeContainer
          pid =
        some after) :
      Effect worker (.exitEvent pid) after
  | endOfStream (idle : worker.phase = .idle) (used : worker.buffer = [])
      (ended : worker.socket = []) : Effect worker .endOfStream
        { worker with calls := worker.calls ++ worker.killTargets.map .kill, phase := .draining }
  | streamEvent (phase : worker.phase = .draining) (left : worker.jailDict.entries ≠ []) :
      Effect worker .streamEvent worker
  | drained (phase : worker.phase = .draining) (clean : worker.jailDict.entries = []) :
      Effect worker .drained (worker.setPhase .closed)

theorem step_effect {worker after : Worker} {action : Action}
    (taken : worker.step action = some after) : Effect worker action after := by
  cases action with
  | arrive messages =>
      cases taken
      exact .arrive messages
  | receive count =>
      simp only [step, Option.ite_none_right_eq_some, Option.some.injEq] at taken
      rcases taken with ⟨⟨idle, used⟩, rfl⟩
      exact .receive count idle used
  | take =>
      simp only [step] at taken
      split at taken
      · cases taken
        exact .take _ _ ‹_› ‹_›
      · cases taken
  | fetched container =>
      simp only [step] at taken
      split at taken <;> cases taken
      exact .fetched container _ _ ‹_›
  | fetchRefused =>
      simp only [step] at taken
      split at taken <;> cases taken
      exact .fetchRefused _ _ ‹_›
  | fetchRaised =>
      simp only [step] at taken
      split at taken <;> cases taken
      exact .fetchRaised _ _ ‹_›
  | created =>
      simp only [step] at taken
      split at taken <;> cases taken
      exact .created _ ‹_›
  | jailRefused =>
      simp only [step] at taken
      split at taken <;> cases taken
      exact .jailRefused _ ‹_›
  | setupRaised =>
      simp only [step] at taken
      split at taken <;> cases taken
      exact .setupRaised _ ‹_›
  | forked pid =>
      simp only [step] at taken
      split at taken
      · simp only [Option.ite_none_right_eq_some, Option.some.injEq] at taken
        rcases taken with ⟨⟨positive, fresh⟩, rfl⟩
        exact .forked pid _ ‹_› positive fresh
      · cases taken
  | forkFailed =>
      simp only [step] at taken
      split at taken <;> cases taken
      exact .forkFailed _ ‹_›
  | tracked =>
      simp only [step] at taken
      split at taken
      · rcases Option.map_eq_some_iff.mp taken with ⟨process, child, rfl⟩
        exact .tracked _ process ‹_› child
      · cases taken
  | trackFailed =>
      simp only [step] at taken
      split at taken <;> cases taken
      exact .trackFailed _ ‹_›
  | posted =>
      simp only [step] at taken
      split at taken <;> cases taken
      exact .posted _ _ ‹_›
  | postLost =>
      simp only [step] at taken
      split at taken <;> cases taken
      exact .postLost _ _ ‹_›
  | answered =>
      simp only [step] at taken
      split at taken <;> cases taken
      exact .answered _ _ ‹_›
  | answerLost =>
      simp only [step] at taken
      split at taken <;> cases taken
      exact .answerLost _ _ ‹_›
  -- children take their steps by themselves, the worker is not touched
  | opensPidFile pid =>
      rcases Option.bind_eq_some_iff.mp taken with ⟨process, child, guarded⟩
      simp only [Option.ite_none_right_eq_some, Option.some.injEq] at guarded
      rcases guarded with ⟨⟨live, before⟩, rfl⟩
      exact .opensPidFile pid process child live before
  | writesPid pid =>
      rcases Option.bind_eq_some_iff.mp taken with ⟨process, child, guarded⟩
      simp only [Option.ite_none_right_eq_some, Option.some.injEq] at guarded
      rcases guarded with ⟨⟨live, before⟩, rfl⟩
      exact .writesPid pid process child live before
  | exits pid exitCode =>
      rcases Option.bind_eq_some_iff.mp taken with ⟨process, child, guarded⟩
      split at guarded <;> cases guarded
      exact .exits pid exitCode process _ child ‹_›
  | exitEvent pid =>
      rcases Option.bind_eq_some_iff.mp taken with ⟨process, child, guarded⟩
      split at guarded
      · exact .exitEvent pid process _ after child ‹_› ‹_› guarded
      · cases guarded
  | endOfStream =>
      simp only [step, Option.ite_none_right_eq_some, Option.some.injEq] at taken
      rcases taken with ⟨⟨idle, used, ended⟩, rfl⟩
      exact .endOfStream idle used ended
  -- the READ filter of the ended socket stays registered: the turn changes nothing
  | streamEvent =>
      simp only [step, Option.ite_none_right_eq_some, Option.some.injEq] at taken
      rcases taken with ⟨⟨phase, left⟩, rfl⟩
      exact .streamEvent phase left
  | drained =>
      simp only [step, Option.ite_none_right_eq_some, Option.some.injEq] at taken
      rcases taken with ⟨⟨phase, clean⟩, rfl⟩
      exact .drained phase clean

end Worker

end Dockermock.Kqueue
