import Dockermock.Kqueue.Outstanding

/-!
Where a run's data come from. What holds of every start message is handed on to
the Jail objects made from them and to their children; and `write_pid` is the
only way for a child to have written its pid.
-/

namespace Dockermock.Kqueue

open Library

namespace Worker

/-- Facts about the name and request of each waiting run, and about each jail that
is being set up or has a child. -/
structure Carries (waiting : String → Nat → Prop) (made : Jail → Prop)
    (worker : Worker) : Prop where
  buffer : ∀ message ∈ worker.buffer, waiting (strip message.line) message.run
  socket : ∀ message ∈ worker.socket, waiting (strip message.line) message.run
  fetching : ∀ name run, worker.phase = .fetch name run → waiting name run
  setup : ∀ jail, worker.phase = .create jail ∨ worker.phase = .fork jail → made jail
  children : ∀ pid jail, worker.owner pid = some jail → made jail

theorem carries_initial (waits : String → Nat → Prop) (made : Jail → Prop) :
    Carries waits made initial := by
  constructor
  · intro message member
    cases member
  · intro message member
    cases member
  · intro name run phase
    cases phase
  · rintro jail (phase | phase) <;> cases phase
  · intro pid jail owned
    cases owned

variable {worker after : Worker} {waits : String → Nat → Prop} {made : Jail → Prop}

theorem Carries.of_phase (carries : Carries waits made worker)
    (buffer : after.buffer = worker.buffer) (socket : after.socket = worker.socket)
    (owners : after.owner = worker.owner)
    (fetching : ∀ name run, after.phase = .fetch name run → worker.phase = .fetch name run)
    (setup : ∀ jail, after.phase = .create jail ∨ after.phase = .fork jail →
      worker.phase = .create jail ∨ worker.phase = .fork jail) :
    Carries waits made after := by
  constructor
  · exact buffer ▸ carries.buffer
  · exact socket ▸ carries.socket
  · exact fun name run phase => carries.fetching name run (fetching name run phase)
  · exact fun jail phase => carries.setup jail (setup jail phase)
  · rw [owners]
    exact carries.children

theorem Carries.of_notifyRaised (carries : Carries waits made worker) (jail : Jail) (site : Site) :
    Carries waits made (worker.notifyRaised jail site) := by
  cases site <;>
    exact carries.of_phase rfl rfl rfl (fun _ _ phase => by cases phase)
      (fun _ phases => by rcases phases with phase | phase <;> cases phase)

theorem carries_step {action : Action} (table : TableInvariant worker)
    (carries : Carries waits made worker) (effect : Effect worker action after)
    (unsent : ∀ messages, action ≠ .arrive messages)
    (makes : ∀ container name run, action = .fetched container → worker.phase = .fetch name run →
      waits name run → made ⟨worker.nextJail, name, container, run⟩) :
    Carries waits made after := by
  cases effect with
  | arrive messages => exact absurd rfl (unsent messages)
  | receive count idle used =>
      constructor
      · exact fun message member => carries.socket message (List.mem_of_mem_take member)
      · exact fun message member => carries.socket message (List.mem_of_mem_drop member)
      · exact carries.fetching
      · exact carries.setup
      · exact carries.children
  | take message rest idle received =>
      constructor
      · intro other member
        exact carries.buffer other (received ▸ List.mem_cons_of_mem _ member)
      · exact carries.socket
      · intro name run phase
        cases phase
        exact carries.buffer message (received ▸ List.mem_cons_self)
      · rintro jail (phase | phase) <;> cases phase
      · exact carries.children
  | fetched container name run phase =>
      refine ⟨carries.buffer, carries.socket, fun _ _ fetch => (by cases fetch), ?_,
        carries.children⟩
      rintro jail (made | made) <;> cases made
      exact makes container name run rfl phase (carries.fetching name run phase)
  | created jail phase =>
      refine carries.of_phase rfl rfl rfl (fun _ _ fetch => by cases fetch) ?_
      rintro other (same | same) <;> cases same
      exact Or.inl phase
  | forked pid jail phase positive fresh =>
      refine ⟨carries.buffer, carries.socket, fun _ _ fetch => (by cases fetch), ?_, ?_⟩
      · rintro other (same | same) <;> cases same
      · intro probe other owned
        rw [owner_recordChild] at owned
        by_cases same : probe = pid
        · simp only [same, ↓reduceIte, Option.some.injEq] at owned
          exact owned ▸ carries.setup jail (Or.inr phase)
        · exact carries.children probe other (by simpa [same] using owned)
  | tracked pid process phase child =>
      exact carries.of_phase rfl rfl (owner_setProcess child process.register_jail)
        (fun _ _ fetch => by cases fetch)
          (fun _ made => by rcases made with made | made <;> cases made)
  | postLost jail site phase => exact carries.of_notifyRaised jail site
  | answerLost jail site phase => exact carries.of_notifyRaised jail site
  | opensPidFile pid process child live before =>
      exact carries.of_phase rfl rfl (owner_setProcess child rfl) (fun _ _ fetch => fetch)
        (fun _ made => made)
  | writesPid pid process child live before =>
      exact carries.of_phase rfl rfl (owner_setProcess child rfl) (fun _ _ fetch => fetch)
        (fun _ made => made)
  | exits pid exitCode process watched child live =>
      exact carries.of_phase rfl rfl (owner_setProcess child rfl) (fun _ _ fetch => fetch)
        (fun _ made => made)
  | exitEvent pid process exitCode after child pending waiting removed =>
      have phases := phase_of_removed removed
      have owners : (worker.setProcess pid { process with life := .exited exitCode false }).owner =
          worker.owner := owner_setProcess child rfl
      -- Releasing a jail drops one child and may begin its report, which fetches and makes nothing.
      rw [table.release_of_removed child removed] at phases ⊢
      constructor
      · exact carries.buffer
      · exact carries.socket
      · intro name run fetch
        rcases phases with same | ⟨jail, code, reporting⟩
        · exact carries.fetching name run (same.symm.trans fetch)
        · rw [reporting] at fetch
          cases fetch
      · intro jail made
        rcases phases with same | ⟨other, code, reporting⟩
        · exact carries.setup jail (same ▸ made)
        · rw [reporting] at made
          rcases made with made | made <;> cases made
      · intro probe jail owned
        rw [owner_releaseJail, owners] at owned
        by_cases same : probe = pid
        · simp [same] at owned
        · exact carries.children probe jail (by simpa [same] using owned)
  | streamEvent phase left => exact carries
  | _ =>
      exact carries.of_phase rfl rfl rfl (fun _ _ fetch => by cases fetch)
        (fun _ made => by rcases made with made | made <;> cases made)

/-- Every name that occurs in the worker has a run outstanding. -/
theorem carries_outstanding (worker : Worker) :
    Carries (fun name _ => 0 < worker.outstanding name)
      (fun jail => 0 < worker.outstanding jail.name) worker := by
  have inBuffer : ∀ message ∈ worker.buffer,
      0 < worker.buffer.countP (asksFor (strip message.line)) := fun message member =>
    List.countP_pos_iff.mpr ⟨message, member, by simp [asksFor]⟩
  have inSocket : ∀ message ∈ worker.socket,
      0 < worker.socket.countP (asksFor (strip message.line)) := fun message member =>
    List.countP_pos_iff.mpr ⟨message, member, by simp [asksFor]⟩
  constructor
  · intro message member
    have counted := inBuffer message member
    unfold outstanding queued
    omega
  · intro message member
    have counted := inSocket message member
    unfold outstanding queued
    omega
  · intro name run phase
    exact outstanding_of_concerns (by simp [phase, Phase.concerns])
  · rintro jail (phase | phase) <;> exact outstanding_of_concerns (by simp [phase, Phase.concerns])
  · intro pid jail owned
    rcases Option.map_eq_some_iff.mp owned with ⟨process, held, rfl⟩
    have counted : 0 < worker.children process.jail.name :=
      (Dict.count_pos_iff _ _).mpr ⟨pid, process, held, by simp⟩
    unfold outstanding
    omega

theorem Carries.and_outstanding (carries : Carries waits made worker) {waits' : String → Nat → Prop}
    {made' : Jail → Prop}
    (waiting : ∀ name run, waits name run → 0 < worker.outstanding name → waits' name run)
    (making : ∀ jail, made jail → 0 < worker.outstanding jail.name → made' jail) :
    Carries waits' made' worker := by
  have present := carries_outstanding worker
  constructor
  · exact fun message member =>
      waiting _ _ (carries.buffer message member) (present.buffer message member)
  · exact fun message member =>
      waiting _ _ (carries.socket message member) (present.socket message member)
  · exact fun name run phase =>
      waiting _ _ (carries.fetching name run phase) (present.fetching name run phase)
  · exact fun jail phase => making _ (carries.setup jail phase) (present.setup jail phase)
  · exact fun pid jail owned =>
      making _ (carries.children pid jail owned) (present.children pid jail owned)

theorem written_step {action : Action} (table : TableInvariant worker)
    (effect : Effect worker action after) (pid : Int) (process : Process)
    (held : after.processes.get pid = some process) (written : process.writePid = .written) :
    ∃ old, worker.processes.get pid = some old ∧ old.jail = process.jail ∧
      (action = .writesPid pid ∨ old.writePid = .written) := by
  -- All steps on one process but write_pid itself: the flag was set before.
  have updated : ∀ other (new old : Process), worker.processes.get other = some old →
    new.jail = old.jail →
      (new.writePid = .written → old.writePid = .written) →
      (worker.processes.set other new).get pid = some process →
      ∃ old, worker.processes.get pid = some old ∧ old.jail = process.jail ∧
        (action = .writesPid pid ∨ old.writePid = .written) := by
    intro other new old child sameJail kept after
    rw [Dict.get_set] at after
    by_cases same : pid = other
    · simp only [same, ↓reduceIte, Option.some.injEq] at after
      subst same after
      exact ⟨old, child, sameJail.symm, Or.inr (kept written)⟩
    · exact ⟨process, by simpa [same] using after, rfl, Or.inr written⟩
  cases effect with
  | forked other jail phase positive fresh =>
      rw [recordChild, Dict.get_set] at held
      by_cases same : pid = other
      · simp only [same, ↓reduceIte, Option.some.injEq] at held
        subst held
        cases written
      · exact ⟨process, by simpa [same] using held, rfl, Or.inr written⟩
  | tracked other old phase child =>
      exact updated other _ old child old.register_jail (by simp) held
  | postLost jail site phase =>
      rw [notifyRaised_processes] at held
      exact ⟨process, held, rfl, Or.inr written⟩
  | answerLost jail site phase =>
      rw [notifyRaised_processes] at held
      exact ⟨process, held, rfl, Or.inr written⟩
  | opensPidFile other old child live before =>
      exact updated other { old with writePid := .opened } old child rfl
        (fun opened => by cases opened) held
  | writesPid other old child live before =>
      rw [setProcess_processes, Dict.get_set] at held
      by_cases same : pid = other
      · simp only [same, ↓reduceIte, Option.some.injEq] at held
        subst same held
        exact ⟨old, child, rfl, Or.inl rfl⟩
      · exact ⟨process, by simpa [same] using held, rfl, Or.inr written⟩
  | exits other exitCode old watched child live =>
      exact updated other { old with life := .exited exitCode watched } old child rfl id held
  | exitEvent other old exitCode after child pending waiting removed =>
      rw [table.release_of_removed child removed, releaseJail, setProcess_processes, Dict.get_pop,
        Dict.get_set] at held
      by_cases same : pid = other
      · simp [same] at held
      · exact ⟨process, by simpa [same] using held, rfl, Or.inr written⟩
  | _ => exact ⟨process, held, rfl, Or.inr written⟩

end Worker

end Dockermock.Kqueue
