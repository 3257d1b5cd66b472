import Dockermock.Kqueue.Shutdown
import Dockermock.Lifecycle.Exclusive

/-!
A container under the status running has something outstanding that will change
it. The status is set together with the sending of the start message, and a run
is given up silently only where a request, `rfork` or a filter registration
fails; otherwise its last trace in the worker is the report that ends the status.
-/

namespace Dockermock.Lifecycle

open Library Kqueue

/-- The worker's reports for the name reach its container. -/
def Reported (http : Http) (name : String) : Prop := Framed name ∧ http.exitCode name = some name

instance (http : Http) (name : String) :
    Decidable (Reported http name) := inferInstanceAs (Decidable (_ ∧ _))

namespace Server

/-- The run's start message is queued, the worker is setting it up or about to
report it, or a recorded child whose exit will be noticed belongs to it. -/
def Attended (server : Server) (name : String) : Prop :=
  server.hungUp = false ∧
    (0 < server.worker.queued name ∨ server.worker.phase.concerns = some name ∨
      ∃ pid process, server.worker.processes.get pid = some process ∧
        server.worker.jailDict.get pid = some process.jail ∧ process.jail.name = name ∧
        (process.noticed ∨ server.worker.phase = .track pid))

def delivered (_ : Server) (action : Action) : Prop := action ≠ .worker .postLost

instance (server : Server) (action : Action) : Decidable (delivered server action) :=
  inferInstanceAs (Decidable (_ ≠ _))

/-- The answer to the report in the `except` block is lost, which ends the worker. -/
def failureAnswerLost (server : Server) (action : Action) : Bool :=
  match action, server.worker.phase with
  | .worker .answerLost, .answer _ .inExcept => true
  | _, _ => false

/-- The requests of `process_container` answer 200, neither `rfork` nor the
registration of an exit filter fails, and the reports reach their containers. -/
def nothingFails (http : Http) (server : Server) (action : Action) : Prop :=
  delivered server action ∧ starts (Reported http) action ∧
    server.failureAnswerLost action = false ∧
    action ∉ [.worker .fetchRefused, .worker .fetchRaised, .worker .forkFailed,
      .worker .trackFailed]

instance (http : Http) (server : Server) (action : Action) :
    Decidable (nothingFails http server action) :=
  inferInstanceAs (Decidable (_ ∧ _))

structure AttendedInvariant (http : Http) (server : Server) : Prop where
  table : server.worker.TableInvariant
  log : server.worker.LogInvariant
  clean : server.worker.CleanInvariant
  serving : server.worker.phase ≠ .draining
  listening : server.hungUp = false
  reported : ∀ name, 0 < server.worker.outstanding name → Reported http name
  answering : ∀ jail site, server.worker.phase = .answer jail site → Reported http jail.name
  waited : ∀ name, server.status.get name = some .running → 0 < server.worker.outstanding name

variable {http : Http} {server after : Server}

theorem attended_fresh (fresh : Fresh server) : AttendedInvariant http server := by
  rcases fresh with ⟨worker, _, stopped⟩
  constructor
  · exact worker ▸ Worker.table_initial
  · exact worker ▸ Worker.log_initial
  · exact worker ▸ Worker.clean_initial
  · simp [worker, Kqueue.initial]
  · simp [hungUp, worker, Kqueue.initial]
  · intro name
    rw [worker, outstanding_initial]
    simp
  · simp [worker, Kqueue.initial]
  · exact fun name running => absurd running (stopped name)

theorem listening_step {inner : Kqueue.Action} {worker : Worker}
    (effect : Worker.Effect server.worker inner worker) (serving : server.worker.phase ≠ .draining)
    (listening : server.hungUp = false) (admitted : nothingFails http server (.worker inner)) :
    hungUp { server with worker := worker } = false := by
  rcases admitted with ⟨posts, _, answers, calls⟩
  cases effect with
  | arrive messages => exact listening
  | receive count idle used => exact listening
  | fetchRaised name run phase => simp at calls
  | postLost jail site phase => exact absurd rfl posts
  | answerLost jail site phase =>
      cases site with
      | inTry => rfl
      | inExcept => simp [failureAnswerLost, phase] at answers
      | onExit exitCode => rfl
  | opensPidFile pid process child live before => exact listening
  | writesPid pid process child live before => exact listening
  | exits pid exitCode process watched child live => exact listening
  | exitEvent pid process exitCode after child pending waits removed =>
      rcases Worker.phase_of_removed removed with same | ⟨jail, code, reporting⟩
      · simp only [hungUp, same]
        exact listening
      · simp [hungUp, reporting]
  | streamEvent phase left => exact listening
  | drained phase clean => exact absurd phase serving
  | _ => rfl

theorem givenUp_of_nothingFails {inner : Kqueue.Action}
    (admitted : nothingFails http server (.worker inner))
    (given : server.worker.givenUp inner ≠ none) : inner = .posted := by
  rcases admitted with ⟨posts, _, _, calls⟩
  cases inner <;> simp_all [Worker.givenUp, delivered]

theorem AttendedInvariant.of_worker {inner : Kqueue.Action} {worker : Worker} {served : Server}
    (invariant : AttendedInvariant http server)
    (effect : Worker.Effect server.worker inner worker) (outside : Served http server inner served)
    (admitted : nothingFails http server (.worker inner)) :
    AttendedInvariant http { served with worker := worker } := by
  have unsent := unsent_of_served outside
  have balance : ∀ name, worker.outstanding name + tally (server.worker.givenUp inner) name =
      server.worker.outstanding name + tally (server.worker.repeated inner) name := fun name =>
    Worker.outstanding_step invariant.table effect unsent.1 invariant.serving
  constructor
  · exact Worker.table_step invariant.table effect
  · exact Worker.log_step invariant.table invariant.log effect
  · apply Worker.clean_step invariant.table invariant.log invariant.clean _ effect
    constructor <;> rintro rfl <;> simp [nothingFails] at admitted
  · exact Worker.serving_step effect unsent.2 invariant.serving
  · have listening := listening_step effect invariant.serving invariant.listening admitted
    exact listening
  · intro name positive
    have counted := balance name
    -- A run that is counted again is the one whose answer is awaited.
    by_cases again : server.worker.repeated inner = some name
    · unfold Worker.repeated at again
      split at again
      · split at again <;> cases again
        exact invariant.answering _ _ ‹_›
      · cases again
    · have before : 0 < server.worker.outstanding name := by
        simp only [tally, again, ↓reduceIte] at counted
        have positive : 0 < worker.outstanding name := positive
        omega
      exact invariant.reported name before
  · intro jail site waits
    rcases Worker.answer_step effect jail site waits with already | concerned
    · exact invariant.answering jail site already
    · exact invariant.reported _ (Worker.outstanding_of_concerns concerned)
  · intro name running
    have counted := balance name
    -- Every other step leaves each run with somebody who will report it.
    have keeps : inner ≠ .posted → server.worker.givenUp inner = none := fun other =>
      not_not.mp fun given => other (givenUp_of_nothingFails admitted given)
    cases outside with
    | posted jail site target phase reached =>
        have concerned : server.worker.phase.concerns = some jail.name := by
          simp [phase, Phase.concerns]
        have reported := invariant.reported _ (Worker.outstanding_of_concerns concerned)
        have same : target = jail.name := Option.some.inj (reached.symm.trans reported.2)
        -- The row of the reported container is no longer running.
        have other : name ≠ target := by
          rintro rfl
          simp only [updateExitCode] at running
          split at running
          · simp_all
          · simp [Dict.get_set] at running
        have before :=
          invariant.waited name ((updateExitCode_get server target name other).symm.trans running)
        have kept : jail.name ≠ name := fun equal => other (same.trans equal).symm
        simp only [Worker.givenUp, concerned, tally, Option.some.injEq, kept, ↓reduceIte] at counted
        show 0 < worker.outstanding name
        omega
    | unrouted jail site phase missed =>
        have concerned : server.worker.phase.concerns = some jail.name := by
          simp [phase, Phase.concerns]
        have reported := invariant.reported _ (Worker.outstanding_of_concerns concerned)
        rw [reported.2] at missed
        cases missed
    | _ =>
        have before := invariant.waited name running
        rw [keeps (by intro report; simp_all [internal]), tally_none] at counted
        show 0 < worker.outstanding name
        omega

theorem attended_step {action : Action} (invariant : AttendedInvariant http server)
    (admitted : nothingFails http server action) (effect : Effect http server action after) :
    AttendedInvariant http after := by
  cases effect with
  | nothing action outside => exact invariant
  | created name absent =>
      refine ⟨invariant.table, invariant.log, invariant.clean, invariant.serving,
        invariant.listening, invariant.reported, invariant.answering, ?_⟩
      intro other running
      by_cases same : other = name
      · simp [Dict.get_set, same] at running
      · exact invariant.waited other (by simpa [Dict.get_set, same] using running)
  | started name status row stopped listening =>
      have reported : Reported http name := admitted.2.1
      have counted := fun other => @outstanding_send server name reported.1 other
      constructor
      · exact invariant.table.of_same rfl rfl
      · exact invariant.log.of_quiet rfl rfl (Nat.le_refl _) (fun _ held => Or.inl held)
      · exact invariant.clean.of_same rfl rfl (fun _ tracking => tracking) invariant.clean.guarded
      · exact invariant.serving
      · exact listening
      · intro other positive
        rw [counted other] at positive
        by_cases same : other = name
        · exact same ▸ reported
        · exact invariant.reported other (by simpa [same] using positive)
      · exact invariant.answering
      -- the name that is set to running has one start more outstanding
      · intro other running
        rw [counted other]
        by_cases same : other = name
        · simp [same]
        · have before := invariant.waited other (by simpa [send, Dict.get_set, same] using running)
          omega
  | stopped name =>
      have same : (server.stopJail name).hungUp = server.hungUp := by simp [hungUp]
      constructor
      · simpa using invariant.table
      · simpa using invariant.log
      · simpa using invariant.clean
      · simpa using invariant.serving
      · exact same.trans invariant.listening
      · simpa using invariant.reported
      · simpa using invariant.answering
      · simpa using invariant.waited
  | truncated name held =>
      exact ⟨invariant.table, invariant.log, invariant.clean, invariant.serving,
        invariant.listening, invariant.reported, invariant.answering, invariant.waited⟩
  | worker inner worker served effect outside => exact invariant.of_worker effect outside admitted

theorem AttendedInvariant.attended (invariant : AttendedInvariant http server) (name : String)
    (running : server.status.get name = some .running) : Attended server name := by
  refine ⟨invariant.listening, ?_⟩
  have positive := invariant.waited name running
  by_cases queued : 0 < server.worker.queued name
  · exact Or.inl queued
  by_cases busy : server.worker.phase.concerns = some name
  · exact Or.inr (Or.inl busy)
  have child : 0 < server.worker.children name := by
    simp only [Worker.outstanding, tally, busy, ↓reduceIte] at positive
    omega
  rcases (Dict.count_pos_iff _ _).mp child with ⟨pid, process, held, named⟩
  have recorded := (invariant.table.recorded pid process.jail (Worker.owner_of_child held)).2
  exact Or.inr (Or.inr ⟨pid, process, held, recorded, by simpa using named,
    invariant.clean.noticed pid process held⟩)

/-- In every run in which nothing fails, a container that is running is attended to. -/
theorem running_attended (http : Http) (before : Server) (fresh : Fresh before)
    (actions : List Action) (after : Server)
    (run : Run (step http) (nothingFails http) before actions after) (name : String)
    (running : after.status.get name = some .running) : Attended after name := by
  have invariant : AttendedInvariant http after := by
    apply run_invariant (AttendedInvariant http) _ run (attended_fresh fresh)
    intro server action next valid admitted taken
    exact attended_step valid admitted (step_effect taken)
  exact invariant.attended name running

def failedBeside : List Action :=
  [.create "web", .create "db", .start "web", .start "db", .worker (.receive 2),
    .worker .take, .worker (.fetched "web"), .worker .created, .worker (.forked 100),
      .worker .tracked,
    .worker .take, .worker (.fetched "db"), .worker .setupRaised, .worker .posted,
      .worker .answered]

theorem running_attended_beside :
    ∃ after, Run (step directHttp) (nothingFails directHttp) initial failedBeside after ∧
      after.status.get "web" = some .running ∧ Attended after "web" :=
  (run_of_replay (step directHttp) (nothingFails directHttp)
    (fun server => server.status.get "web") initial
    failedBeside _ (by decide)).imp fun after reached =>
      ⟨reached.1, reached.2,
        running_attended directHttp initial initial_fresh failedBeside after reached.1 "web"
        reached.2⟩

def refusedFetch : List Action :=
  [.create "web", .start "web", .worker (.receive 1), .worker .take, .worker .fetchRefused]

theorem refused_fetch_left_running :
    ¬ ∀ actions after, Run (step directHttp) delivered initial actions after →
      ∀ name, after.status.get name = some .running → Attended after name := by
  intro claimed
  rcases run_of_replay (step directHttp) delivered (fun server => (server.status.get "web",
      server.worker.queued "web", server.worker.phase.concerns, server.worker.children "web"))
    initial refusedFetch (some .running, 0, none, 0) (by decide) with ⟨after, run, reading⟩
  simp only [Prod.mk.injEq] at reading
  rcases reading with ⟨running, queued, concerns, children⟩
  rcases (claimed refusedFetch after run "web" running).2 with waits | busy |
    ⟨pid, process, held, _, named, _⟩
  · omega
  · rw [concerns] at busy
    cases busy
  · have child : 0 < after.worker.children "web" :=
      (Dict.count_pos_iff _ _).mpr ⟨pid, process, held, by simpa using named⟩
    omega

end Server

end Dockermock.Lifecycle
