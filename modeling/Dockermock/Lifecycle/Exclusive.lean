import Dockermock.Kqueue.Outstanding
import Dockermock.Lifecycle.Server

/-!
At most one run of a container at a time. A start needs a status other than
running, and running is left only by a report; so the single run of a container
is the one whose report is executed, unless a report is executed twice. A name
has to come out of the socket and of the request URLs as it went in; plain names
do.
-/

namespace Dockermock.Lifecycle

open Library Kqueue

/-- Characters that need no quoting in a URL path. -/
def unreserved (char : Char) : Bool :=
  char.isAlphanum || char == '-' || char == '_' || char == '.' || char == '~'

/-- The worker reads the name out of the socket as start_jail wrote it. -/
def Framed (name : String) : Prop := strip name = name ∧ '\n' ∉ name.toList

instance (name : String) : Decidable (Framed name) := inferInstanceAs (Decidable (_ ∧ _))

def Plain (name : String) : Prop := Framed name ∧ ∀ char ∈ name.toList, unreserved char

instance (name : String) : Decidable (Plain name) :=
  decidable_of_iff (Framed name ∧ name.toList.all unreserved = true)
    (by rw [List.all_eq_true, Plain])

/-- Requests for the name reach no container but the one it names. -/
def Kept (http : Http) (name : String) : Prop :=
  Framed name ∧ http.get name ∈ [none, some name] ∧ http.exitCode name ∈ [none, some name]

instance (http : Http) (name : String) :
    Decidable (Kept http name) := inferInstanceAs (Decidable (_ ∧ _))

/-- A request for a plain name reaches no other container's handler. -/
structure PlainHttp (http : Http) : Prop where
  get : ∀ name container, Plain name → http.get name = some container → container = name
  exitCode : ∀ name container, Plain name → http.exitCode name = some container → container = name

theorem kept_of_plain {http : Http} (names : PlainHttp http) {name : String} (plain : Plain name) :
    Kept http name := by
  have routes : ∀ reached : Option String,
    (∀ container, reached = some container → container = name) →
      reached ∈ [none, some name] := by
    intro reached same
    cases reached with
    | none => simp
    | some container => simp [same container rfl]
  exact ⟨plain.1, routes _ fun container => names.get name container plain,
    routes _ fun container => names.exitCode name container plain⟩

theorem Kept.get {http : Http} {name container : String} (kept : Kept http name)
    (reached : http.get name = some container) : container = name := by
  simpa [reached] using kept.2.1

theorem Kept.exitCode {http : Http} {name container : String} (kept : Kept http name)
    (reached : http.exitCode name = some container) : container = name := by
  simpa [reached] using kept.2.2

theorem startLines_framed {name : String} (framed : Framed name) (run : Nat) :
    Server.startLines name run = [⟨name, run⟩] := by
  simp [Server.startLines, splitLines_single name framed.2]

namespace Server

def Fresh (server : Server) : Prop :=
  server.worker = Kqueue.initial ∧ server.stopping = none ∧ ∀ name,
    server.status.get name ≠ some .running

@[simp] theorem stopJail_worker (server : Server) (name : String) :
    (server.stopJail name).worker = server.worker := by
  unfold stopJail
  split <;> rfl

@[simp] theorem stopJail_status (server : Server) (name : String) :
    (server.stopJail name).status = server.status := by
  unfold stopJail
  split <;> rfl

theorem updateExitCode_get (server : Server) (target name : String) (other : name ≠ target) :
    (server.updateExitCode target).status.get name = server.status.get name := by
  unfold updateExitCode
  split
  · rfl
  · simp [Dict.get_set, other]

def recorded (server : Server) (name : String) : Nat :=
  server.worker.processes.count fun pid process =>
    process.isRunning && decide (process.jail.name = name) &&
      decide (server.worker.jailDict.get pid = some process.jail)

def settingUp (server : Server) (name : String) : Nat :=
  match server.worker.phase with
  | .report _ (.onExit _) => 0
  | phase => tally phase.concerns name

def outstandingRuns (server : Server) (name : String) : Nat :=
  server.worker.queued name + server.settingUp name + server.recorded name

/-- One run at most, under the status running; and when a report of the worker is
executed, no other run of its container is outstanding. -/
def OneRun (http : Http) (server : Server) : Prop :=
  ∀ name, server.outstandingRuns name ≤ 1 ∧
    (0 < server.outstandingRuns name → server.status.get name = some .running) ∧
    ∀ jail site, server.worker.phase = .report jail site → http.exitCode jail.name = some name →
      server.worker.queued name = 0 ∧ server.recorded name = 0

/-- The answer to the report inside the `try` block of `start_container` is lost. -/
def refusalAnswerLost (server : Server) (action : Action) : Bool :=
  match action, server.worker.phase with
  | .worker .answerLost, .answer _ .inTry => true
  | _, _ => false

def starts (allowed : String → Prop) : Action → Prop
  | .start name => allowed name
  | _ => True

instance (allowed : String → Prop) [DecidablePred allowed] (action : Action) :
    Decidable (starts allowed action) :=
  match action with
  | .start name => inferInstanceAs (Decidable (allowed name))
  | .create _ | .stop _ | .stopTruncates | .worker _ => isTrue trivial

def startsPlain (_ : Server) (action : Action) : Prop := starts Plain action

instance (server : Server) (action : Action) : Decidable (startsPlain server action) :=
  inferInstanceAs (Decidable (starts Plain action))

/-- Only names that are allowed are started, and no report of a refused jail is repeated
after it was executed. -/
def answeredInTime (allowed : String → Prop) (server : Server) (action : Action) : Prop :=
  starts allowed action ∧ server.refusalAnswerLost action = false

instance (allowed : String → Prop) [DecidablePred allowed] (server : Server) (action : Action) :
    Decidable (answeredInTime allowed server action) :=
  inferInstanceAs (Decidable (_ ∧ _))

theorem recorded_le_children (server : Server) (name : String) :
    server.recorded name ≤ server.worker.children name := by
  apply List.countP_mono_left
  intro entry _ passes
  simp only [Bool.and_eq_true, decide_eq_true_eq] at passes
  simpa using passes.1.2

theorem settingUp_le (server : Server) (name : String) :
    server.settingUp name ≤ tally server.worker.phase.concerns name := by
  unfold settingUp
  split
  · exact Nat.zero_le _
  · exact Nat.le_refl _

theorem outstandingRuns_le (server : Server) (name : String) :
    server.outstandingRuns name ≤ server.worker.outstanding name := by
  have live := server.recorded_le_children name
  have busy := server.settingUp_le name
  unfold outstandingRuns Worker.outstanding
  omega

variable {http : Http} {server after : Server}

theorem outstanding_send {name : String} (framed : Framed name) (other : String) :
    (server.send name).worker.outstanding other =
      server.worker.outstanding other + if other = name then 1 else 0 := by
  have line : (Worker.asksFor other ⟨name, server.nextRun⟩ : Bool) = decide (other = name) := by
    simp [Worker.asksFor, framed.1, eq_comm]
  simp only [send, startLines_framed framed, Worker.outstanding, Worker.queued, List.countP_append,
    List.countP_singleton, line, decide_eq_true_eq, Worker.children]
  omega

structure RunInvariant (http : Http) (server : Server) : Prop where
  table : server.worker.TableInvariant
  serving : server.worker.phase ≠ .draining
  kept : ∀ name, 0 < server.worker.outstanding name → Kept http name
  single : ∀ name, server.worker.outstanding name ≤ 1
  running : ∀ name, 0 < server.worker.outstanding name → server.status.get name = some .running

theorem outstanding_initial (name : String) : Kqueue.initial.outstanding name = 0 := rfl

theorem run_fresh (fresh : Fresh server) : RunInvariant http server := by
  rcases fresh with ⟨worker, _, _⟩
  constructor
  · exact worker ▸ Worker.table_initial
  · simp [worker, Kqueue.initial]
  all_goals
    intro name
    rw [worker, outstanding_initial]
    simp

theorem unsent_of_served {action : Kqueue.Action} {served : Server}
    (outside : Served http server action served) :
    (∀ messages, action ≠ .arrive messages) ∧ action ≠ .endOfStream := by
  cases outside with
  | quiet action inside => cases action <;> simp_all [internal]
  | _ => simp

theorem RunInvariant.of_worker {inner : Kqueue.Action} {worker : Worker} {served : Server}
    (invariant : RunInvariant http server)
    (effect : Worker.Effect server.worker inner worker) (outside : Served http server inner served)
    (once : server.refusalAnswerLost (.worker inner) = false) :
    RunInvariant http { served with worker := worker } := by
  have unsent := unsent_of_served outside
  -- Without a lost answer no run is counted again, so the number of runs never goes up here.
  have never : server.worker.repeated inner = none := by
    unfold Worker.repeated
    split
    · split
      · simp_all [refusalAnswerLost]
      · rfl
    · rfl
  have account : ∀ name, worker.outstanding name + tally (server.worker.givenUp inner) name =
      server.worker.outstanding name := by
    intro name
    have balance : worker.outstanding name + tally (server.worker.givenUp inner) name =
        server.worker.outstanding name + tally (server.worker.repeated inner) name :=
      Worker.outstanding_step invariant.table effect unsent.1 invariant.serving
    rwa [never, tally_none, Nat.add_zero] at balance
  have before : ∀ name, 0 < worker.outstanding name → 0 < server.worker.outstanding name := by
    intro name positive
    have balance := account name
    omega
  constructor
  · exact Worker.table_step invariant.table effect
  · exact Worker.serving_step effect unsent.2 invariant.serving
  · exact fun name positive => invariant.kept name (before name positive)
  · intro name
    have balance := account name
    have single := invariant.single name
    show worker.outstanding name ≤ 1
    omega
  · intro name positive
    have running := invariant.running name (before name positive)
    cases outside with
    | posted jail site target phase reached =>
        have concerned : server.worker.phase.concerns = some jail.name := by
          simp [phase, Phase.concerns]
        have busy := Worker.outstanding_of_concerns concerned
        have same : target = jail.name := (invariant.kept _ busy).exitCode reached
        -- The reported run was the only one of its container.
        have other : name ≠ target := by
          rintro rfl
          have balance := account name
          have single := invariant.single name
          simp only [Worker.givenUp, concerned, tally, same, ↓reduceIte] at balance single positive
          omega
        exact (server.updateExitCode_get target name other).trans running
    | _ => exact running

theorem run_step {action : Action} (invariant : RunInvariant http server)
    (admitted : answeredInTime (Kept http) server action)
    (effect : Effect http server action after) :
    RunInvariant http after := by
  cases effect with
  | nothing action outside => exact invariant
  | created name absent =>
      refine ⟨invariant.table, invariant.serving, invariant.kept, invariant.single, ?_⟩
      intro other positive
      have running := invariant.running other positive
      have apart : other ≠ name := by
        rintro rfl
        simp [absent] at running
      simpa [Dict.get_set, apart] using running
  | started name status row stopped listening =>
      have kept : Kept http name := admitted.1
      -- start_jail refuses a running row, and every run outstanding has one.
      have idle : server.worker.outstanding name = 0 := by
        by_contra busy
        have running := invariant.running name (by omega)
        simp_all
      have counted := fun other => @outstanding_send server name kept.1 other
      constructor
      · exact invariant.table.of_same rfl rfl
      · exact invariant.serving
      · intro other positive
        rw [counted other] at positive
        by_cases same : other = name
        · exact same ▸ kept
        · exact invariant.kept other (by simpa [same] using positive)
      · intro other
        rw [counted other]
        by_cases same : other = name
        · simp [same, idle]
        · simpa [same] using invariant.single other
      · intro other positive
        rw [counted other] at positive
        by_cases same : other = name
        · simp [send, Dict.get_set, same]
        · have running := invariant.running other (by simpa [same] using positive)
          simpa [send, Dict.get_set, same] using running
  | stopped name =>
      constructor
      · simpa using invariant.table
      · simpa using invariant.serving
      · simpa using invariant.kept
      · simpa using invariant.single
      · simpa using invariant.running
  | truncated name held =>
      exact ⟨invariant.table, invariant.serving, invariant.kept, invariant.single,
        invariant.running⟩
  | worker inner worker served effect outside => exact invariant.of_worker effect outside admitted.2

theorem RunInvariant.oneRun (invariant : RunInvariant http server) :
    OneRun http server := by
  intro name
  have bounded := server.outstandingRuns_le name
  have single := invariant.single name
  refine ⟨by omega, fun positive => invariant.running name (by omega), ?_⟩
  intro jail site phase reached
  have concerned : server.worker.phase.concerns = some jail.name := by simp [phase, Phase.concerns]
  have busy := Worker.outstanding_of_concerns concerned
  have same : name = jail.name := (invariant.kept _ busy).exitCode reached
  have live := server.recorded_le_children name
  unfold Worker.outstanding at single
  simp only [concerned, tally, same, ↓reduceIte] at single live ⊢
  omega

/-- In every run in which only plain names are started and no answer to the report
of a refused jail is lost, a container has one run at most. -/
theorem one_run_outstanding (http : Http) (names : PlainHttp http) (before : Server)
    (fresh : Fresh before) (actions : List Action) (after : Server)
    (run : Run (step http) (answeredInTime Plain) before actions after) :
    OneRun http after := by
  have invariant : RunInvariant http after := by
    apply run_invariant (RunInvariant http) _ run (run_fresh fresh)
    intro server action next valid admitted taken
    have kept : answeredInTime (Kept http) server action := by
      refine ⟨?_, admitted.2⟩
      cases action with
      | start name => exact kept_of_plain names admitted.1
      | _ => trivial
    exact run_step valid kept (step_effect taken)
  exact invariant.oneRun

theorem initial_fresh : Fresh initial := ⟨rfl, rfl, fun name => by simp [initial]⟩

theorem directHttp_plain : PlainHttp directHttp :=
  ⟨fun _ _ _ reached => (Option.some.inj reached).symm,
    fun _ _ _ reached => (Option.some.inj reached).symm⟩

def restarted : List Action :=
  [.create "web", .start "web", .worker (.receive 1), .worker .take, .worker (.fetched "web"),
    .worker .jailRefused, .worker .posted, .worker .answered, .start "web", .worker (.receive 1),
    .worker .take, .worker (.fetched "web"), .worker .created, .worker (.forked 100),
      .worker .tracked,
    .worker (.exits 100 0), .worker (.exitEvent 100), .worker .posted, .start "web"]

theorem one_run_outstanding_restarted :
    ∃ after, Run (step directHttp) (answeredInTime Plain) initial restarted after ∧
      after.outstandingRuns "web" = 1 ∧ OneRun directHttp after :=
  (run_of_replay (step directHttp) (answeredInTime Plain)
    (fun server => server.outstandingRuns "web") initial
    restarted 1 (by decide)).imp fun after reached =>
      ⟨reached.1, reached.2,
        one_run_outstanding directHttp directHttp_plain initial initial_fresh restarted
          after reached.1⟩

/-- The report of a refused jail is executed and its answer lost; a start slips in
before the report is repeated. -/
def repeatedReport : List Action :=
  [.create "web", .start "web", .worker (.receive 1), .worker .take, .worker (.fetched "web"),
    .worker .jailRefused, .worker .posted, .start "web", .worker .answerLost, .worker .posted]

theorem repeated_report_ends_next_run :
    ¬ ∀ actions after, Run (step directHttp) startsPlain initial actions after →
        OneRun directHttp after := by
  intro claimed
  rcases run_of_replay (step directHttp) startsPlain
    (fun server => (server.outstandingRuns "web", server.status.get "web")) initial repeatedReport
    (1, some .exited) (by decide) with ⟨after, run, reading⟩
  rcases Prod.mk.injEq .. ▸ reading with ⟨queued, status⟩
  have running := (claimed repeatedReport after run "web").2.1 (by omega)
  rw [status] at running
  cases running

end Server

end Dockermock.Lifecycle
