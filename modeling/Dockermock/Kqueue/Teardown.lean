import Dockermock.Library.Log
import Dockermock.Kqueue.JailTable

/-!
The log of rfork, waitpid, destroy_jail and kill calls. A jail that has not been
forked is mentioned nowhere in the log; the jail of an unreaped child has its
fork in the log and neither a reaping nor a teardown. These two facts are what
every call that is added to the log needs.
-/

namespace Dockermock.Kqueue

open Library

def Call.jail : Call → Option Nat
  | .forked jail _ | .reaped jail _ | .destroyJail jail => some jail
  | .kill _ => none

def Phase.unforked : Phase → Option Jail
  | .create jail | .fork jail | .report jail .inTry | .answer jail .inTry => some jail
  | _ => none

def teardownGuard (earlier : List Call) : Call → Prop
  | .forked jail _ => .destroyJail jail ∉ earlier
  | .destroyJail jail =>
      .destroyJail jail ∉ earlier ∧ ∀ pid, .forked jail pid ∈ earlier → .reaped jail pid ∈ earlier
  | .reaped _ _ | .kill _ => True

namespace Worker

structure LogInvariant (worker : Worker) : Prop where
  bounded : ∀ call ∈ worker.calls, ∀ jail, call.jail = some jail → jail < worker.nextJail
  single : ∀ jail pid other, .forked jail pid ∈ worker.calls →
    .forked jail other ∈ worker.calls → pid = other
  alive : ∀ pid jail, worker.owner pid = some jail → .forked jail.id pid ∈ worker.calls ∧
    .reaped jail.id pid ∉ worker.calls ∧ .destroyJail jail.id ∉ worker.calls
  unreaped : ∀ jail pid, .forked jail pid ∈ worker.calls → .reaped jail pid ∉ worker.calls →
    ∃ owner, worker.owner pid = some owner ∧ owner.id = jail
  unborn : ∀ jail, worker.phase.unforked = some jail →
    jail.id < worker.nextJail ∧ ∀ call ∈ worker.calls, call.jail ≠ some jail.id
  guarded : Guarded teardownGuard worker.calls

theorem log_initial : LogInvariant initial := by
  constructor
  · intro call member
    cases member
  · intro jail pid other member
    cases member
  · intro pid jail owned
    cases owned
  · intro jail pid member
    cases member
  · intro jail held
    cases held
  · exact guarded_nil _

variable {worker after : Worker}

theorem LogInvariant.of_quiet (invariant : LogInvariant worker) (calls : after.calls = worker.calls)
    (owners : after.owner = worker.owner) (ids : worker.nextJail ≤ after.nextJail)
    (setup : ∀ jail, after.phase.unforked = some jail → worker.phase.unforked = some jail ∨
      (jail.id = worker.nextJail ∧ worker.nextJail < after.nextJail)) :
    LogInvariant after := by
  constructor
  · intro call member jail about
    rw [calls] at member
    exact Nat.lt_of_lt_of_le (invariant.bounded call member jail about) ids
  · simpa [calls] using invariant.single
  · simpa [calls, owners] using invariant.alive
  · simpa [calls, owners] using invariant.unreaped
  · intro jail held
    rw [calls]
    rcases setup jail held with old | ⟨next, below⟩
    · rcases invariant.unborn jail old with ⟨bound, absent⟩
      exact ⟨Nat.lt_of_lt_of_le bound ids, absent⟩
    · constructor
      · omega
      · intro call member about
        have bound := invariant.bounded call member jail.id about
        omega
  · simpa [calls] using invariant.guarded

theorem LogInvariant.bounded_append (invariant : LogInvariant worker) {id : Nat}
    (bound : id < worker.nextJail) (more : List Call) (own : ∀ call ∈ more, call.jail = some id) :
    ∀ call ∈ worker.calls ++ more, ∀ jail, call.jail = some jail → jail < worker.nextJail := by
  intro call member jail about
  rcases List.mem_append.mp member with old | new
  · exact invariant.bounded call old jail about
  · have same : jail = id := Option.some.inj (about.symm.trans (own call new))
    exact same ▸ bound

theorem LogInvariant.of_setupFailed {jail : Jail} (invariant : LogInvariant worker)
    (held : worker.phase.unforked = some jail) : LogInvariant (worker.setupFailed jail) := by
  -- No call about this jail has been logged yet, so its teardown is the first and only one.
  rcases invariant.unborn jail held with ⟨bound, absent⟩
  have unforked : ∀ pid, .forked jail.id pid ∉ worker.calls := fun pid member => absent _ member rfl
  have undestroyed : .destroyJail jail.id ∉ worker.calls := fun member => absent _ member rfl
  constructor
  · exact invariant.bounded_append bound _ (by simp [Call.jail])
  · intro other pid another
    simpa [setupFailed] using invariant.single other pid another
  · intro pid other owned
    rcases invariant.alive pid other owned with ⟨forked, running, standing⟩
    have apart : other.id ≠ jail.id := by
      intro same
      rw [same] at forked
      exact unforked pid forked
    simpa [setupFailed, apart] using ⟨forked, running, standing⟩
  · intro other pid forked running
    exact invariant.unreaped other pid (by simpa [setupFailed] using forked)
      (by simpa [setupFailed] using running)
  · intro other none
    cases none
  · apply guarded_concat _ _ _ invariant.guarded
    exact ⟨undestroyed, fun pid member => absurd member (unforked pid)⟩

theorem LogInvariant.of_notifyRaised {jail : Jail} {site : Site} (invariant : LogInvariant worker)
    (held : site = .inTry → worker.phase.unforked = some jail) :
    LogInvariant (worker.notifyRaised jail site) := by
  cases site with
  | inTry => exact invariant.of_setupFailed (held rfl)
  | inExcept => exact invariant.of_quiet rfl rfl (Nat.le_refl _) (fun _ none => by cases none)
  | onExit exitCode =>
      exact invariant.of_quiet rfl rfl (Nat.le_refl _) (fun _ none => by cases none)

theorem LogInvariant.of_record {pid : Int} {jail : Jail} (invariant : LogInvariant worker)
    (held : worker.phase.unforked = some jail) (fresh : worker.owner pid = none) :
    LogInvariant (worker.recordChild jail pid) := by
  rcases invariant.unborn jail held with ⟨bound, absent⟩
  have unforked : ∀ other, .forked jail.id other ∉ worker.calls :=
    fun other member => absent _ member rfl
  have undestroyed : .destroyJail jail.id ∉ worker.calls := fun member => absent _ member rfl
  have unreaped : .reaped jail.id pid ∉ worker.calls := fun member => absent _ member rfl
  constructor
  · exact invariant.bounded_append bound _ (by simp [Call.jail])
  -- Two pids for one jail would need an earlier fork of the jail that is forked now.
  · intro other probe another first second
    simp only [recordChild, List.mem_append, List.mem_singleton, Call.forked.injEq] at first second
    rcases first with old | ⟨rfl, rfl⟩
    · rcases second with also | ⟨rfl, rfl⟩
      · exact invariant.single other probe another old also
      · exact absurd old (unforked probe)
    · rcases second with also | ⟨_, rfl⟩
      · exact absurd also (unforked another)
      · rfl
  · intro probe other owned
    rw [owner_recordChild] at owned
    by_cases same : probe = pid
    · simp only [same, ↓reduceIte, Option.some.injEq] at owned
      subst same owned
      simpa [recordChild, undestroyed] using unreaped
    · simp only [same, ↓reduceIte] at owned
      rcases invariant.alive probe other owned with ⟨forked, running, standing⟩
      simpa [recordChild, same, standing, running] using forked
  · intro other probe forked running
    simp only [recordChild, List.mem_append, List.mem_singleton, Call.forked.injEq, reduceCtorEq,
      or_false] at forked running
    rw [owner_recordChild]
    rcases forked with old | ⟨rfl, rfl⟩
    · rcases invariant.unreaped other probe old running with ⟨owner, owned, same⟩
      have apart : probe ≠ pid := by
        rintro rfl
        rw [fresh] at owned
        cases owned
      exact ⟨owner, by simp [apart, owned], same⟩
    · exact ⟨jail, by simp, rfl⟩
  · intro other none
    cases none
  · exact guarded_concat _ _ _ invariant.guarded undestroyed

theorem LogInvariant.of_release {pid : Int} {jail : Jail} {exitCode : Nat}
    (invariant : LogInvariant worker) (child : worker.owner pid = some jail)
    (waits : worker.phase.unforked = none) :
    LogInvariant (worker.releaseJail pid jail exitCode) := by
  rcases invariant.alive pid jail child with ⟨forked, running, standing⟩
  have bound := invariant.bounded _ forked jail.id rfl
  constructor
  · exact invariant.bounded_append bound _ (by simp [Call.jail])
  · intro other probe another
    simpa [releaseJail] using invariant.single other probe another
  · intro probe other owned
    rw [owner_releaseJail] at owned
    by_cases same : probe = pid
    · simp [same] at owned
    · simp only [same, ↓reduceIte] at owned
      rcases invariant.alive probe other owned with ⟨otherForked, otherRunning, otherStanding⟩
      -- Another child of the same jail would be a second fork of it.
      have apart : other.id ≠ jail.id := by
        intro equal
        rw [equal] at otherForked
        exact same (invariant.single jail.id probe pid otherForked forked)
      simpa [releaseJail, apart, otherForked] using ⟨otherRunning, otherStanding⟩
  · intro other probe otherForked otherRunning
    simp only [releaseJail, List.mem_append, List.mem_cons, List.not_mem_nil,
      reduceCtorEq, or_false, Call.reaped.injEq, not_or] at otherForked otherRunning
    rcases invariant.unreaped other probe otherForked otherRunning.1 with ⟨owner, owned, same⟩
    have apart : probe ≠ pid := by
      rintro rfl
      rw [child] at owned
      cases owned
      exact otherRunning.2 ⟨same.symm, rfl⟩
    exact ⟨owner, by simp [owner_releaseJail, apart, owned], same⟩
  · intro other held
    simp only [releaseJail] at held
    split at held
    · cases held
    · rw [waits] at held
      cases held
  -- The reaping goes into the log first and is what the guard of the destruction asks for.
  · have reaped : Guarded teardownGuard (worker.calls ++ [.reaped jail.id pid]) :=
      guarded_concat _ _ _ invariant.guarded trivial
    have met : teardownGuard (worker.calls ++ [.reaped jail.id pid]) (.destroyJail jail.id) := by
      constructor
      · simpa using standing
      · intro other member
        simp only [List.mem_append, List.mem_singleton, reduceCtorEq, or_false] at member
        simp [invariant.single jail.id other pid member forked]
    simpa [releaseJail] using guarded_concat _ _ _ reaped met

theorem LogInvariant.of_kills (invariant : LogInvariant worker) (targets : List Int) :
    LogInvariant
      { worker with calls := worker.calls ++ targets.map .kill, phase := .draining } := by
  constructor
  · intro call member jail about
    rcases List.mem_append.mp member with old | new
    · exact invariant.bounded call old jail about
    · rcases List.mem_map.mp new with ⟨pid, _, rfl⟩
      cases about
  · intro jail pid other
    simpa using invariant.single jail pid other
  · intro pid jail owned
    simpa using invariant.alive pid jail owned
  · intro jail pid forked running
    exact invariant.unreaped jail pid (by simpa using forked) (by simpa using running)
  · intro jail none
    cases none
  · apply guarded_append _ _ _ invariant.guarded
    intro earlier item later split
    have member : item ∈ targets.map Call.kill := by simp [split]
    rcases List.mem_map.mp member with ⟨pid, _, rfl⟩
    trivial

theorem unforked_of_waiting (waits : worker.waiting = true) : worker.phase.unforked = none := by
  unfold waiting at waits
  split at waits <;> simp_all [Phase.unforked]

theorem log_step {action : Action} (table : TableInvariant worker) (invariant : LogInvariant worker)
    (effect : Effect worker action after) : LogInvariant after := by
  cases effect with
  | fetched container name run phase =>
      refine invariant.of_quiet rfl rfl (Nat.le_succ _) ?_
      intro jail held
      cases held
      exact Or.inr ⟨rfl, Nat.lt_succ_self _⟩
  | created jail phase =>
      refine invariant.of_quiet rfl rfl (Nat.le_refl _) ?_
      intro other held
      exact Or.inl (phase ▸ held)
  | jailRefused jail phase =>
      refine invariant.of_quiet rfl rfl (Nat.le_refl _) ?_
      intro other held
      exact Or.inl (phase ▸ held)
  -- a jail without a child is destroyed by the handler, and is in hand no more
  | setupRaised jail phase => exact invariant.of_setupFailed (by simp [phase, Phase.unforked])
  -- the jail gets the pid of a child that was not there
  | forked pid jail phase positive fresh =>
      exact invariant.of_record (by simp [phase, Phase.unforked]) (by simp [owner, fresh])
  | tracked pid process phase child =>
      refine invariant.of_quiet rfl (owner_setProcess child process.register_jail)
        (Nat.le_refl _) ?_
      intro jail held
      cases held
  | posted jail site phase =>
      refine invariant.of_quiet rfl rfl (Nat.le_refl _) ?_
      intro other held
      rw [phase]
      cases site <;> exact Or.inl held
  | postLost jail site phase =>
      apply invariant.of_notifyRaised
      rintro rfl
      simp [phase, Phase.unforked]
  | answerLost jail site phase =>
      apply invariant.of_notifyRaised
      rintro rfl
      simp [phase, Phase.unforked]
  | opensPidFile pid process child live before =>
      exact invariant.of_quiet rfl (owner_setProcess child rfl) (Nat.le_refl _)
        (fun _ held => Or.inl held)
  | writesPid pid process child live before =>
      exact invariant.of_quiet rfl (owner_setProcess child rfl) (Nat.le_refl _)
        (fun _ held => Or.inl held)
  | exits pid exitCode process watched child live =>
      exact invariant.of_quiet rfl (owner_setProcess child rfl) (Nat.le_refl _)
        (fun _ held => Or.inl held)
  -- reaped first and destroyed then, which is the order that the guard asks for
  | exitEvent pid process exitCode after child pending waits removed =>
      have owners : (worker.setProcess pid { process with life := .exited exitCode false }).owner =
          worker.owner := owner_setProcess child rfl
      have delivered :
          LogInvariant (worker.setProcess pid { process with life := .exited exitCode false }) :=
        invariant.of_quiet rfl owners (Nat.le_refl _) (fun _ held => Or.inl held)
      rw [table.release_of_removed child removed]
      apply delivered.of_release _ (unforked_of_waiting waits)
      rw [owners]
      exact owner_of_child child
  | endOfStream idle used ended => exact invariant.of_kills _
  | arrive messages => exact invariant.of_quiet rfl rfl (Nat.le_refl _) (fun _ held => Or.inl held)
  | receive count idle used =>
      exact invariant.of_quiet rfl rfl (Nat.le_refl _) (fun _ held => Or.inl held)
  | streamEvent phase left => exact invariant
  | _ => exact invariant.of_quiet rfl rfl (Nat.le_refl _) (fun _ none => by cases none)

/-- In every run of the worker each jail is destroyed at most once, and one that
was forked for only after its process has been reaped. -/
theorem destroy_jail_once (actions : List Action) (after : Worker)
    (run : Run step anyAction initial actions after) :
    (∀ jail, after.calls.count (.destroyJail jail) ≤ 1) ∧
    ∀ earlier jail later, after.calls = earlier ++ .destroyJail jail :: later →
      ∀ pid, .forked jail pid ∈ after.calls → .reaped jail pid ∈ earlier := by
  have invariant : TableInvariant after ∧ LogInvariant after := by
    apply run_invariant (fun worker => TableInvariant worker ∧ LogInvariant worker) _ run
    · exact ⟨table_initial, log_initial⟩
    · rintro before action next ⟨table, log⟩ _ taken
      exact ⟨table_step table (step_effect taken), log_step table log (step_effect taken)⟩
  have guarded := invariant.2.guarded
  constructor
  · intro jail
    exact guarded_count_le_one _ _ guarded _ (fun _ met => met.1)
  · intro earlier jail later split pid forked
    have met := guarded earlier _ later split
    rw [split] at forked
    rcases List.mem_append.mp forked with before | rest
    · exact met.2 pid before
    -- A fork behind the teardown would have found the jail destroyed.
    · rcases List.mem_cons.mp rest with same | afterwards
      · cases same
      · rcases List.append_of_mem afterwards with ⟨middle, last, inside⟩
        have late := guarded (earlier ++ .destroyJail jail :: middle) (.forked jail pid) last
          (by simp [split, inside])
        exact absurd (by simp) late

def reusedPid : List Action :=
  [.arrive [⟨"web", 0⟩, ⟨"db", 1⟩, ⟨"web", 2⟩], .receive 2,
    .take, .fetched "web", .created, .forked 7, .tracked,
    .take, .fetched "db", .setupRaised, .posted, .answered,
    .exits 7 0, .exitEvent 7, .posted, .answered, .receive 1,
    .take, .fetched "web", .created, .forked 7, .tracked,
    .endOfStream, .exits 7 143, .exitEvent 7, .drained]

theorem destroy_jail_once_reused_pid :
    ∃ after, Run step anyAction initial reusedPid after ∧
      after.calls = [.forked 0 7, .destroyJail 1, .reaped 0 7, .destroyJail 0, .forked 2 7, .kill 7,
        .reaped 2 7, .destroyJail 2] ∧
      ∀ jail, after.calls.count (.destroyJail jail) ≤ 1 := by
  exact (run_of_replay step anyAction calls initial reusedPid _ (by decide)).imp
      fun after reached =>
    ⟨reached.1, reached.2, (destroy_jail_once reusedPid after reached.1).1⟩

end Worker

end Dockermock.Kqueue
