import Dockermock.Kqueue.Teardown

/-!
`JAIL_DICT` at shutdown. `clean_all_jails` signals every key and then waits until
the table is empty. As long as no `rfork` and no filter registration fails, the
keys are the pids of the unreaped children and each of them is still going to
deliver its exit event.
-/

namespace Dockermock.Kqueue

open Library

/-- The exit of the process is still going to be delivered: its filter waits for
it or its event is pending. -/
def Process.noticed (process : Process) : Bool :=
  match process.life with
  | .running watched => watched
  | .exited _ pending => pending

namespace Worker

/-- rfork returned this pid for a jail, and it has not been reaped since. -/
def UnreapedIn (calls : List Call) (pid : Int) : Prop :=
  0 < pid ∧ ∃ jail, .forked jail pid ∈ calls ∧ .reaped jail pid ∉ calls

def killGuard (earlier : List Call) : Call → Prop
  | .kill pid => UnreapedIn earlier pid
  | _ => True

/-- The keys are the unreaped children, every signal went to one of them, and the
final loop waits for none whose exit will not be noticed. -/
def ChildrenOnly (worker : Worker) : Prop :=
  (∀ key, key ∈ worker.jailDict.keys ↔ UnreapedIn worker.calls key) ∧
  (∀ earlier pid later, worker.calls = earlier ++ .kill pid :: later → UnreapedIn earlier pid) ∧
  (worker.phase = .draining → ∀ key ∈ worker.jailDict.keys,
    ∃ process, worker.processes.get key = some process ∧ process.noticed)

def noCallFails (_ : Worker) (action : Action) : Prop :=
  action ≠ .forkFailed ∧ action ≠ .trackFailed

instance (worker : Worker) (action : Action) : Decidable (noCallFails worker action) :=
  inferInstanceAs (Decidable (_ ∧ _))

structure CleanInvariant (worker : Worker) : Prop where
  exact : ∀ key jail, worker.jailDict.get key = some jail → worker.owner key = some jail
  noticed : ∀ pid process, worker.processes.get pid = some process →
    process.noticed ∨ worker.phase = .track pid
  guarded : Guarded killGuard worker.calls

theorem clean_initial : CleanInvariant initial := by
  constructor
  · intro key jail held
    cases held
  · intro pid process child
    cases child
  · exact guarded_nil _

variable {worker after : Worker}

theorem register_noticed (process : Process) : process.register.noticed := by
  unfold Process.register
  split <;> rfl

theorem CleanInvariant.of_same (invariant : CleanInvariant worker)
    (processes : after.processes = worker.processes) (jailDict : after.jailDict = worker.jailDict)
    (phases : ∀ pid, worker.phase = .track pid → after.phase = .track pid)
    (guarded : Guarded killGuard after.calls) : CleanInvariant after := by
  have owners : after.owner = worker.owner := by
    funext pid
    simp [owner, processes]
  constructor
  · rw [jailDict, owners]
    exact invariant.exact
  · intro pid process child
    rw [processes] at child
    rcases invariant.noticed pid process child with watched | tracking
    · exact Or.inl watched
    · exact Or.inr (phases pid tracking)
  · exact guarded

theorem CleanInvariant.of_update {pid : Int} {old new : Process} (invariant : CleanInvariant worker)
    (child : worker.processes.get pid = some old) (sameJail : new.jail = old.jail)
    (kept : old.noticed → new.noticed) : CleanInvariant (worker.setProcess pid new) := by
  constructor
  · rw [owner_setProcess child sameJail]
    exact invariant.exact
  · intro probe process held
    rw [setProcess_processes, Dict.get_set] at held
    by_cases same : probe = pid
    · simp only [same, ↓reduceIte, Option.some.injEq] at held
      subst same held
      exact (invariant.noticed probe old child).imp_left kept
    · exact invariant.noticed probe process (by simpa [same] using held)
  · exact invariant.guarded

theorem CleanInvariant.of_record {pid : Int} {jail : Jail} (invariant : CleanInvariant worker)
    (untracked : ∀ pid, worker.phase ≠ .track pid) :
    CleanInvariant (worker.recordChild jail pid) := by
  constructor
  · intro key other held
    have entry := Dict.get_set worker.jailDict pid key jail
    rw [owner_recordChild]
    by_cases same : key = pid
    · simpa [same] using (entry.symm.trans held : _)
    · simpa [same] using invariant.exact key other (by simpa [same] using entry.symm.trans held)
  · intro probe process held
    by_cases same : probe = pid
    · exact Or.inr (same ▸ rfl)
    · have old := (Dict.get_set worker.processes pid probe _).symm.trans held
      simp only [same, ↓reduceIte] at old
      exact Or.inl ((invariant.noticed probe process old).resolve_right (untracked probe))
  · exact guarded_concat _ _ _ invariant.guarded trivial

theorem CleanInvariant.of_release {pid : Int} {process : Process} {jail : Jail} {exitCode : Nat}
    (invariant : CleanInvariant worker) (untracked : ∀ pid, worker.phase ≠ .track pid) :
    CleanInvariant ((worker.setProcess pid process).releaseJail pid jail exitCode) := by
  constructor
  · intro key other held
    have entry := (Dict.get_pop worker.jailDict pid key).symm.trans held
    by_cases same : key = pid
    · simp [same] at entry
    · have owned := invariant.exact key other (by simpa [same] using entry)
      simpa [owner, releaseJail, Dict.get_pop, Dict.get_set, same] using owned
  · intro probe other held
    have entry := (Dict.get_pop _ pid probe).symm.trans held
    by_cases same : probe = pid
    · simp [same] at entry
    · have old : worker.processes.get probe = some other := by
        simpa [Dict.get_set, same] using entry
      exact Or.inl ((invariant.noticed probe other old).resolve_right (untracked probe))
  · have reaped : Guarded killGuard (worker.calls ++ [.reaped jail.id pid]) :=
      guarded_concat _ _ _ invariant.guarded trivial
    have destroyed : Guarded killGuard
        (worker.calls ++ [.reaped jail.id pid] ++ [.destroyJail jail.id]) :=
      guarded_concat _ _ _ reaped trivial
    simpa [releaseJail] using destroyed

theorem keys_unreaped (table : TableInvariant worker) (log : LogInvariant worker)
    (invariant : CleanInvariant worker) (key : Int) :
    key ∈ worker.jailDict.keys ↔ UnreapedIn worker.calls key := by
  rw [Dict.mem_keys_iff]
  constructor
  · rintro ⟨jail, held⟩
    have owned := invariant.exact key jail held
    rcases log.alive key jail owned with ⟨forked, running, _⟩
    exact ⟨(table.recorded key jail owned).1, jail.id, forked, running⟩
  · rintro ⟨_, jail, forked, running⟩
    rcases log.unreaped jail key forked running with ⟨owner, owned, _⟩
    exact ⟨owner, (table.recorded key owner owned).2⟩

theorem CleanInvariant.of_kills (table : TableInvariant worker) (log : LogInvariant worker)
    (invariant : CleanInvariant worker) :
    Guarded killGuard (worker.calls ++ worker.killTargets.map .kill) := by
  apply guarded_append _ _ _ invariant.guarded
  intro earlier item later split
  have member : item ∈ worker.killTargets.map Call.kill := by simp [split]
  rcases List.mem_map.mp member with ⟨pid, target, rfl⟩
  rcases (keys_unreaped table log invariant pid).mp target with ⟨positive, jail, forked, running⟩
  -- The shutdown appends kills alone: what was unreaped before is unreaped at each of them.
  have killsOnly : .reaped jail pid ∉ earlier := by
    intro reaped
    have among : .reaped jail pid ∈ worker.killTargets.map Call.kill := by simp [split, reaped]
    simp at among
  exact ⟨positive, jail, by simp [forked], by simp [running, killsOnly]⟩

theorem notifyRaised_killGuard (jail : Jail) (site : Site)
    (guarded : Guarded killGuard worker.calls) :
    Guarded killGuard (worker.notifyRaised jail site).calls := by
  cases site with
  | inTry => exact guarded_concat _ _ _ guarded trivial
  | inExcept => exact guarded
  | onExit exitCode => exact guarded

theorem clean_step {action : Action} (table : TableInvariant worker) (log : LogInvariant worker)
    (invariant : CleanInvariant worker) (admitted : noCallFails worker action)
    (effect : Effect worker action after) : CleanInvariant after := by
  cases effect with
  | arrive messages =>
      exact invariant.of_same rfl rfl (fun _ tracking => tracking) invariant.guarded
  | receive count idle used =>
      exact invariant.of_same rfl rfl (fun _ tracking => tracking) invariant.guarded
  | setupRaised jail phase =>
      exact invariant.of_same rfl rfl (by simp [phase])
        (guarded_concat _ _ _ invariant.guarded trivial)
  | forked pid jail phase positive fresh => exact invariant.of_record (by simp [phase])
  | forkFailed jail phase => exact absurd rfl admitted.1
  | trackFailed pid phase => exact absurd rfl admitted.2
  | tracked pid process phase child =>
      -- Outside track_process every child is noticed, so only the tracked one needs the new flag.
      have updated :=
        invariant.of_update child process.register_jail (fun _ => register_noticed process)
      constructor
      · exact updated.exact
      · intro probe other held
        by_cases same : probe = pid
        · subst same
          have new : process.register = other := by simpa [Dict.get_set] using held
          exact Or.inl (new ▸ register_noticed process)
        · have elsewhere : worker.phase ≠ .track probe := by
            rw [phase]
            exact fun equal => same (Phase.track.inj equal).symm
          exact Or.inl ((updated.noticed probe other held).resolve_right elsewhere)
      · exact updated.guarded
  | postLost jail site phase =>
      exact invariant.of_same (notifyRaised_processes _ _ _) (notifyRaised_jailDict _ _ _)
        (by simp [phase]) (notifyRaised_killGuard jail site invariant.guarded)
  | answerLost jail site phase =>
      exact invariant.of_same (notifyRaised_processes _ _ _) (notifyRaised_jailDict _ _ _)
        (by simp [phase]) (notifyRaised_killGuard jail site invariant.guarded)
  | opensPidFile pid process child live before => exact invariant.of_update child rfl id
  | writesPid pid process child live before => exact invariant.of_update child rfl id
  | exits pid exitCode process watched child live =>
      exact invariant.of_update child rfl (by simp [Process.noticed, live])
  | exitEvent pid process exitCode after child pending waits removed =>
      have untracked : ∀ other, worker.phase ≠ .track other := by
        intro other tracking
        simp [waiting, tracking] at waits
      rw [table.release_of_removed child removed]
      exact invariant.of_release untracked
  | endOfStream idle used ended =>
      exact invariant.of_same rfl rfl (by simp [idle]) (invariant.of_kills table log)
  | _ => exact invariant.of_same rfl rfl (by simp_all) invariant.guarded

/-- In every run in which no `rfork` and no filter registration fails, the table
holds exactly the unreaped children and shutdown signals and awaits only these. -/
theorem jail_dict_children_only (actions : List Action) (after : Worker)
    (run : Run step noCallFails initial actions after) : ChildrenOnly after := by
  have invariant : TableInvariant after ∧ LogInvariant after ∧ CleanInvariant after := by
    apply run_invariant (fun worker => TableInvariant worker ∧ LogInvariant worker ∧
      CleanInvariant worker) _ run
    · exact ⟨table_initial, log_initial, clean_initial⟩
    · rintro before action next ⟨table, log, clean⟩ admitted taken
      have effect := step_effect taken
      exact ⟨table_step table effect, log_step table log effect,
        clean_step table log clean admitted effect⟩
  rcases invariant with ⟨table, log, clean⟩
  constructor
  · exact keys_unreaped table log clean
  constructor
  · exact fun earlier pid later split => clean.guarded earlier (.kill pid) later split
  · intro draining key member
    rcases (Dict.mem_keys_iff _ _).mp member with ⟨jail, held⟩
    rcases Option.map_eq_some_iff.mp (clean.exact key jail held) with ⟨process, child, _⟩
    have tracking : after.phase ≠ .track key := by simp [draining]
    exact ⟨process, child, (clean.noticed key process child).resolve_right tracking⟩

def shutdownWhileRunning : List Action :=
  [.arrive [⟨"web", 0⟩], .receive 1, .take, .fetched "web", .created, .forked 7,
    .tracked, .endOfStream]

theorem jail_dict_children_only_shutdown :
    ∃ after, Run step noCallFails initial shutdownWhileRunning after ∧
      after.calls = [.forked 0 7, .kill 7] ∧ ChildrenOnly after :=
  (run_of_replay step noCallFails calls initial shutdownWhileRunning _ (by decide)).imp
    fun after reached => ⟨reached.1, reached.2, jail_dict_children_only _ after reached.1⟩

/-- A failed `rfork` leaves the key -1, and shutdown then signals every process. -/
def failedFork : List Action :=
  [.arrive [⟨"web", 0⟩], .receive 1, .take, .fetched "web", .created, .forkFailed, .endOfStream]

theorem failed_fork_signals_all :
    ¬ ∀ actions after, Run step anyAction initial actions after → ChildrenOnly after := by
  intro claimed
  rcases run_of_replay step anyAction calls initial failedFork [.kill (-1)] (by decide) with
    ⟨after, run, logged⟩
  have positive := ((claimed failedFork after run).2.1 [] (-1) [] logged).1
  omega

end Worker

end Dockermock.Kqueue
