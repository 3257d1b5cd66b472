import Dockermock.Kqueue.Provenance
import Dockermock.Lifecycle.Exclusive

/-!
What stop_jail signals. jail.pid keeps the pid of the last child that wrote it
until a stop truncates it, so a pid read there is the current run's only if the
child of that run has already written its own. With one run at a time this is
also enough: no other child can have written the file since.
-/

namespace Dockermock.Lifecycle

open Library Kqueue

namespace Server

/-- Every signal went to the child of the container's run of that time. -/
def SignalsHit (server : Server) : Prop :=
  ∀ signal ∈ server.signals, ∃ jail, signal.struck = some jail ∧ jail.container = signal.name ∧
    jail.run = signal.run

/-- The child of the container's current run is unreaped and has executed `write_pid`. -/
def ownPidWritten (server : Server) (name : String) : Bool :=
  server.worker.processes.entries.any fun entry =>
    decide (entry.2.jail.container = name) && decide (entry.2.jail.run = server.currentRun name) &&
      decide (entry.2.writePid = .written)

/-- A stop that finds a pid in jail.pid comes after the current run's `write_pid`. -/
def stopsInTime (server : Server) : Action → Bool
  | .stop name => (server.signalled name).isNone || server.ownPidWritten name
  | _ => true

def stopsAfterWrite (http : Http) (server : Server) (action : Action) : Prop :=
  answeredInTime (Kept http) server action ∧ server.stopsInTime action = true

instance (http : Http) (server : Server) (action : Action) :
    Decidable (stopsAfterWrite http server action) :=
  inferInstanceAs (Decidable (_ ∧ _))

def Current (server : Server) (jail : Jail) : Prop :=
  jail.run = server.currentRun jail.name ∧ jail.container = jail.name

structure SignalInvariant (http : Http) (server : Server) : Prop where
  runs : RunInvariant http server
  carries : server.worker.Carries (fun name run => run = server.currentRun name) server.Current
  files : ∀ pid process, server.worker.processes.get pid = some process →
    process.writePid = .written →
    ∀ stored, server.pidFile process.jail.container = .pid stored → stored = pid
  hits : SignalsHit server

variable {http : Http} {server after : Server}

theorem signal_fresh (fresh : Fresh server) (unsignalled : server.signals = []) :
    SignalInvariant http server := by
  constructor
  · exact run_fresh fresh
  · rw [fresh.1]
    exact Worker.carries_initial _ _
  · intro pid process held
    rw [fresh.1] at held
    cases held
  · intro signal member
    rw [unsignalled] at member
    cases member

@[simp] theorem updateExitCode_signals (name : String) :
    (server.updateExitCode name).signals = server.signals := by
  unfold updateExitCode
  split <;> rfl

@[simp] theorem updateExitCode_pidFile (name : String) :
    (server.updateExitCode name).pidFile = server.pidFile := by
  unfold updateExitCode
  split <;> rfl

@[simp] theorem updateExitCode_currentRun (name : String) :
    (server.updateExitCode name).currentRun = server.currentRun := by
  unfold updateExitCode
  split <;> rfl

theorem served_keeps {action : Kqueue.Action} {served : Server}
    (outside : Served http server action served) :
    served.signals = server.signals ∧ served.currentRun = server.currentRun := by
  cases outside <;> simp [setPidFile]

/-- The children of one container are one child. -/
theorem SignalInvariant.one_child (invariant : SignalInvariant http server) {left right : Int}
    {first second : Process}
    (atLeft : server.worker.processes.get left = some first)
    (atRight : server.worker.processes.get right = some second)
    (same : first.jail.container = second.jail.container) : left = right := by
  have named := (invariant.carries.children _ _ (Worker.owner_of_child atLeft)).2
  have alsoNamed := (invariant.carries.children _ _ (Worker.owner_of_child atRight)).2
  have names : second.jail.name = first.jail.name := alsoNamed.symm.trans (same.symm.trans named)
  have single : server.worker.children first.jail.name ≤ 1 := by
    have bounded := invariant.runs.single first.jail.name
    unfold Worker.outstanding at bounded
    omega
  exact Dict.unique_of_count _ _ single atLeft (by simp) atRight (by simp [names])

theorem files_step {inner : Kqueue.Action} {worker : Worker} {served : Server}
    (invariant : SignalInvariant http server) (effect : Worker.Effect server.worker inner worker)
    (outside : Served http server inner served) (pid : Int) (process : Process)
    (held : worker.processes.get pid = some process) (written : process.writePid = .written)
    (stored : Int) (content : served.pidFile process.jail.container = .pid stored) :
    stored = pid := by
  rcases Worker.written_step invariant.runs.table effect pid process held written with
    ⟨old, child, sameJail, now | before⟩
  · subst now
    cases outside with
    | quiet action inside => cases inside
    | writesPid other writer writing =>
        rw [writing] at child
        cases child
        simp [setPidFile, sameJail] at content
        exact content.symm
  -- The pid was there before the step: only a write by another child could have replaced it.
  · have kept := invariant.files pid old child before stored
    rw [sameJail] at kept
    cases outside with
    | posted jail site target phase reached => exact kept (by simpa using content)
    | opensPidFile other writer writing =>
        by_cases same : process.jail.container = writer.jail.container
        · simp [setPidFile, same] at content
        · exact kept (by simpa [setPidFile, same] using content)
    | writesPid other writer writing =>
        by_cases same : process.jail.container = writer.jail.container
        · -- The file is written by the container's only child.
          have sameContainer := same.symm.trans (congrArg Jail.container sameJail.symm)
          have unique := invariant.one_child writing child sameContainer
          simp [setPidFile, same] at content
          exact content.symm.trans unique
        · exact kept (by simpa [setPidFile, same] using content)
    | _ => exact kept content

theorem SignalInvariant.of_worker {inner : Kqueue.Action} {worker : Worker} {served : Server}
    (invariant : SignalInvariant http server)
    (effect : Worker.Effect server.worker inner worker) (outside : Served http server inner served)
    (once : server.refusalAnswerLost (.worker inner) = false) :
    SignalInvariant http { served with worker := worker } := by
  rcases served_keeps outside with ⟨signals, runs⟩
  constructor
  · exact invariant.runs.of_worker effect outside once
  · have carried := Worker.carries_step invariant.runs.table invariant.carries effect
      (unsent_of_served outside).1 (by
        rintro container name run rfl phase current
        refine ⟨current, ?_⟩
        cases outside with
        | quiet action inside => cases inside
        | fetched container other again fetching reached =>
            rw [phase] at fetching
            cases fetching
            have busy : 0 < server.worker.outstanding name :=
              Worker.outstanding_of_concerns (by simp [phase, Phase.concerns])
            exact (invariant.runs.kept name busy).get reached)
    show Worker.Carries (fun name run => run = served.currentRun name)
      (fun jail => jail.run = served.currentRun jail.name ∧ jail.container = jail.name) worker
    rw [runs]
    exact carried
  · have files := files_step invariant effect outside
    exact files
  · simpa [SignalsHit, signals] using invariant.hits

theorem SignalInvariant.of_stop {name : String} (invariant : SignalInvariant http server)
    (inTime : server.stopsInTime (.stop name) = true) :
    SignalInvariant http (server.stopJail name) := by
  have runs : RunInvariant http (server.stopJail name) :=
    ⟨by simpa using invariant.runs.table, by simpa using invariant.runs.serving,
      by simpa using invariant.runs.kept, by simpa using invariant.runs.single,
      by simpa using invariant.runs.running⟩
  unfold stopJail at runs ⊢
  split
  · rename_i stops
    rw [if_pos stops] at runs
    refine ⟨runs, invariant.carries, invariant.files, ?_⟩
    intro signal member
    rcases List.mem_append.mp member with old | new
    · exact invariant.hits signal old
    · rw [Option.mem_toList, Option.map_eq_some_iff] at new
      rcases new with ⟨pid, read, rfl⟩
      have owned : server.ownPidWritten name = true := by simpa [stopsInTime, read] using inTime
      simp only [ownPidWritten, List.any_eq_true, Bool.and_eq_true, decide_eq_true_eq] at owned
      rcases owned with ⟨⟨child, process⟩, member, ⟨⟨container, run⟩, written⟩⟩
      have held := (Dict.get_eq_some_iff _ _ _).mpr member
      have content : server.pidFile name = .pid pid := by
        simp only [signalled, stops.1, ↓reduceIte] at read
        split at read <;> simp_all
      have same := invariant.files child process held written pid (container ▸ content)
      exact ⟨process.jail, by simp [same, held], container, run⟩
  · exact invariant

theorem SignalInvariant.of_start {name : String} (invariant : SignalInvariant http server)
    (framed : Framed name) (idle : server.worker.outstanding name = 0)
    (runs : RunInvariant http (server.send name)) : SignalInvariant http (server.send name) := by
  have others : ∀ other, 0 < server.worker.outstanding other → other ≠ name := by
    rintro other positive rfl
    omega
  have carried : Worker.Carries (fun other run => run = (server.send name).currentRun other)
      (server.send name).Current server.worker := invariant.carries.and_outstanding
    (fun other run current positive => by
      simp [send, Function.update, others other positive, current])
    (fun jail current positive =>
      ⟨by simp [send, Function.update, others _ positive, current.1], current.2⟩)
  refine ⟨runs, ?_, invariant.files, invariant.hits⟩
  refine ⟨carried.buffer, ?_, carried.fetching, carried.setup, carried.children⟩
  intro message member
  simp only [send, startLines_framed framed, List.mem_append, List.mem_singleton] at member
  rcases member with old | rfl
  · exact carried.socket message old
  · simp [send, framed.1]

theorem signal_step {action : Action} (invariant : SignalInvariant http server)
    (admitted : stopsAfterWrite http server action) (effect : Effect http server action after) :
    SignalInvariant http after := by
  have runs := run_step invariant.runs admitted.1 effect
  cases effect with
  | nothing action outside => exact invariant
  | created name absent => exact ⟨runs, invariant.carries, invariant.files, invariant.hits⟩
  | started name status row stopped listening =>
      -- A start is accepted only after the last run of the container has been reported.
      have idle : server.worker.outstanding name = 0 := by
        by_contra busy
        have running := invariant.runs.running name (by omega)
        simp_all
      exact invariant.of_start admitted.1.1.1 idle runs
  | stopped name => exact invariant.of_stop admitted.2
  | truncated name held =>
      refine ⟨runs, invariant.carries, ?_, invariant.hits⟩
      intro pid process child written stored content
      by_cases same : process.jail.container = name
      · simp [setPidFile, same] at content
      · exact invariant.files pid process child written stored
          (by simpa [setPidFile, same] using content)
  | worker inner worker served effect outside =>
      exact invariant.of_worker effect outside admitted.1.2

/-- In every run in which each stop that finds a pid comes after the current run's
`write_pid`, every signal goes to the child of the current run. -/
theorem signals_hit (http : Http) (before : Server) (fresh : Fresh before)
    (unsignalled : before.signals = []) (actions : List Action) (after : Server)
    (run : Run (step http) (stopsAfterWrite http) before actions after) : SignalsHit after := by
  have invariant : SignalInvariant http after := by
    apply run_invariant (SignalInvariant http) _ run (signal_fresh fresh unsignalled)
    intro server action next valid admitted taken
    exact signal_step valid admitted (step_effect taken)
  exact invariant.hits

def stoppedOnce : List Action :=
  [.create "web", .start "web", .worker (.receive 1), .worker .take, .worker (.fetched "web"),
    .worker .created, .worker (.forked 100), .worker .tracked, .worker (.opensPidFile 100),
      .worker (.writesPid 100), .stop "web",
    .stopTruncates]

theorem signals_hit_once :
    ∃ after, Run (step directHttp) (stopsAfterWrite directHttp) initial stoppedOnce after ∧
      after.signals = [⟨"web", 0, 100, some ⟨0, "web", "web", 0⟩⟩] ∧ SignalsHit after :=
  (run_of_replay (step directHttp) (stopsAfterWrite directHttp) signals initial stoppedOnce
    _ (by decide)).imp fun after reached => ⟨reached.1, reached.2,
      signals_hit directHttp initial initial_fresh rfl stoppedOnce after reached.1⟩

def stoppedAfterRestart : List Action :=
  [.create "web", .start "web", .worker (.receive 1), .worker .take, .worker (.fetched "web"),
    .worker .created,
    .worker (.forked 100), .worker .tracked, .worker (.opensPidFile 100), .worker (.writesPid 100),
    .worker (.exits 100 0), .worker (.exitEvent 100), .worker .posted, .worker .answered,
    .start "web", .stop "web"]

theorem stop_signals_earlier_pid :
    ¬ ∀ actions after, Run (step directHttp) anyAction initial actions after →
        SignalsHit after := by
  intro claimed
  rcases run_of_replay (step directHttp) anyAction signals initial stoppedAfterRestart
    [⟨"web", 1, 100, none⟩] (by decide) with ⟨after, run, signals⟩
  rcases claimed stoppedAfterRestart after run ⟨"web", 1, 100, none⟩ (by simp [signals]) with
    ⟨jail, struck, _⟩
  cases struck

end Server

end Dockermock.Lifecycle
