import Mathlib.Logic.Function.Iterate
import Dockermock.Jail.Release
import Dockermock.Kqueue.Teardown

/-!
The worker together with what its jails hold of the host. `start_container` runs up
to rfork with outcomes of its own for each start, and each call of `destroy_jail` is
carried out on the jail it is for. What is not given back belongs to a start that is
still under way, to a child that is not reaped, or to one of the two quiet exits.
-/

namespace Dockermock.Kqueue

open Library

section Code

/-- How the `try` of start_container ends. -/
inductive Ending where
  | raised | refused | ready
  deriving DecidableEq, Repr

def setUp (host : Jail.Host) (config : Jail.Config) : Jail.State × Ending :=
  match Jail.createJail host config with
  | (jail, false) => (jail, .raised)
  | (jail, true) =>
      if jail.jid.any (· < 0) then (jail, .refused)
      else if Jail.registerJailNetwork config.networks && Jail.registerPorts config then
        (jail, .ready)
      else (jail, .raised)

def Ending.action : Ending → Action
  | .raised => .setupRaised
  | .refused => .jailRefused
  | .ready => .created

theorem startContainer_setUp (host : Jail.Host) (config : Jail.Config) :
    Jail.startContainer host config =
      match setUp host config with
      | (jail, .raised) => Jail.exceptHandler host config jail
      | (jail, .refused) => if host.notifyStatus then ⟨some (-1), jail⟩
          else Jail.exceptHandler host config jail
      | (jail, .ready) => ⟨if host.rfork = 0 then none else some host.rfork, jail⟩ := by
  rw [Jail.startContainer, setUp]
  rcases Jail.createJail host config with ⟨jail, _ | _⟩
  · rfl
  · dsimp only
    split_ifs <;> rfl

/-- The Jail objects by number, and the numbers of those whose start has returned without their
teardown. -/
structure Daemon where
  worker : Worker
  jails : Dict Nat (Jail.Config × Jail.State)
  leftBehind : List Nat

inductive Event where
  | start (host : Jail.Host) (config : Jail.Config)
  | other (action : Action)

def settle : List Call → Dict Nat (Jail.Config × Jail.State) → Dict Nat (Jail.Config × Jail.State)
  | [], jails => jails
  | .destroyJail id :: rest, jails =>
      match jails.get id with
      | some (config, jail) => settle rest (jails.set id (config, Jail.destroyJail config jail))
      | none => settle rest jails
  | _ :: rest, jails => settle rest jails

/-- The two returns of start_container that pass by its handler. -/
def leaves (worker : Worker) : Action → List Nat
  | .forkFailed =>
      match worker.phase with
      | .fork jail => [jail.id]
      | _ => []
  | .answered =>
      match worker.phase with
      | .answer jail .inTry => [jail.id]
      | _ => []
  | _ => []

namespace Daemon

def initial : Daemon := ⟨Kqueue.initial, .empty, []⟩

def act (daemon : Daemon) (action : Action) (jails : Dict Nat (Jail.Config × Jail.State)) :
    Option Daemon :=
  (daemon.worker.step action).map fun after =>
    { worker := after
      jails := settle (after.calls.drop daemon.worker.calls.length) jails
      leftBehind := daemon.leftBehind ++ leaves daemon.worker action }

def step (daemon : Daemon) : Event → Option Daemon
  | .start host config =>
      match daemon.worker.phase with
      | .create jail =>
          if config.name = jail.name then
            let made := setUp host config
            daemon.act made.2.action (daemon.jails.set jail.id (config, made.1))
          else none
      | _ => none
  | .other action =>
      if action = .setupRaised ∨ action = .jailRefused ∨ action = .created then none
      else daemon.act action daemon.jails

end Daemon

end Code

section Accounts

def Settled (jail : Jail.State) : Prop := ∀ resource ∈ jail.acquired, resource ∈ jail.released

def InHand (worker : Worker) (id : Nat) : Prop :=
  (∃ jail, worker.phase.unforked = some jail ∧ jail.id = id) ∨ ∃ pid jail,
    worker.owner pid = some jail ∧ jail.id = id

theorem get_settle (calls : List Call) (jails : Dict Nat (Jail.Config × Jail.State)) (id : Nat) :
    (settle calls jails).get id = (jails.get id).map fun entry =>
      (entry.1, (Jail.destroyJail entry.1)^[calls.count (.destroyJail id)] entry.2) := by
  induction calls generalizing jails with
  | nil => simp [settle]
  | cons call rest ih =>
      cases call with
      | destroyJail other =>
          rw [settle]
          cases found : jails.get other with
          | none =>
              rw [ih, List.count_cons]
              by_cases here : other = id
              · rw [← here, found]
                rfl
              · simp [here]
          | some entry =>
              rcases entry with ⟨config, jail⟩
              rw [ih, Dict.get_set]
              by_cases here : id = other
              · rw [if_pos here, here, found, List.count_cons_self]
                rfl
              · rw [if_neg here, List.count_cons_of_ne (by simpa using Ne.symm here)]
      | forked jail pid => simpa [settle] using ih jails
      | reaped jail pid => simpa [settle] using ih jails
      | kill pid => simpa [settle] using ih jails

theorem settled_iterate {config : Jail.Config} {jail : Jail.State}
    (safe : Settled jail ∨ Jail.Held config jail) {count : Nat} (some' : 0 < count) :
    Settled ((Jail.destroyJail config)^[count] jail) := by
  induction count, some' using Nat.le_induction with
  | base =>
      rcases safe with settled | held
      · exact fun resource member => List.mem_append_left _ (settled resource member)
      · exact Jail.destroyJail_releases config jail held
  | succ count _ ih =>
      rw [Function.iterate_succ_apply']
      exact fun resource member => List.mem_append_left _ (ih resource member)

section Steps
variable {worker after : Worker} {id : Nat}

theorem InHand.same (hand : InHand worker id) (phase : after.phase.unforked = worker.phase.unforked)
    (owners : after.owner = worker.owner) : InHand after id := by
  rw [InHand, phase, owners]
  exact hand

theorem InHand.child (hand : InHand worker id) (none : worker.phase.unforked = none) :
    ∃ pid jail, worker.owner pid = some jail ∧ jail.id = id := by
  rcases hand with ⟨jail, held, _⟩ | child
  · rw [none] at held
    cases held
  · exact child

theorem drop_appended (more : List Call) (added : after.calls = worker.calls ++ more)
    {call : Call} (member : call ∈ more) : call ∈ after.calls.drop worker.calls.length := by
  rw [added, List.drop_left]
  exact member

theorem InHand.notifyRaised (hand : InHand worker id) {jail : Jail} {site : Site}
    (phase : worker.phase = .report jail site ∨ worker.phase = .answer jail site) :
    InHand (worker.notifyRaised jail site) id ∨
      .destroyJail id ∈ (worker.notifyRaised jail site).calls.drop worker.calls.length := by
  have owners : (worker.notifyRaised jail site).owner = worker.owner :=
    Worker.notifyRaised_owner jail site
  rcases hand with ⟨setting, held, rfl⟩ | ⟨pid, owned, child, rfl⟩
  · cases site with
    | inTry =>
        have same : setting = jail := by
          rcases phase with phase | phase <;>
            exact (Option.some.inj (by rw [phase] at held; exact held)).symm
        rw [same]
        exact Or.inr (drop_appended [.destroyJail jail.id] rfl List.mem_cons_self)
    | inExcept => rcases phase with phase | phase <;> (rw [phase] at held; cases held)
    | onExit => rcases phase with phase | phase <;> (rw [phase] at held; cases held)
  · exact Or.inl (Or.inr ⟨pid, owned, by rw [owners, child], rfl⟩)

/-- No step lets a jail out of hand but by its teardown or one of the quiet returns. -/
theorem inHand_step {action : Action} (table : Worker.TableInvariant worker)
    (effect : Worker.Effect worker action after) (hand : InHand worker id) :
    InHand after id ∨ .destroyJail id ∈ after.calls.drop worker.calls.length ∨
        id ∈ leaves worker action := by
  cases effect with
  | arrive messages => exact Or.inl (hand.same rfl rfl)
  | receive count idle used => exact Or.inl (hand.same rfl rfl)
  | take message rest idle received =>
      exact Or.inl (Or.inr (hand.child (by rw [idle]; rfl)))
  | fetched container name run phase => exact Or.inl (Or.inr (hand.child (by rw [phase]; rfl)))
  | fetchRefused name run phase => exact Or.inl (Or.inr (hand.child (by rw [phase]; rfl)))
  | fetchRaised name run phase => exact Or.inl (Or.inr (hand.child (by rw [phase]; rfl)))
  | created jail phase => exact Or.inl (hand.same (by rw [phase]; rfl) rfl)
  | jailRefused jail phase => exact Or.inl (hand.same (by rw [phase]; rfl) rfl)
  -- the handler destroys the jail; any other jail has a child, and keeps it
  | setupRaised jail phase =>
      rcases hand with ⟨setting, held, rfl⟩ | child
      · rw [phase] at held
        cases held
        exact Or.inr (Or.inl (drop_appended [.destroyJail jail.id] rfl List.mem_cons_self))
      · exact Or.inl (Or.inr child)
  -- the jail that was set up gets its child, under a pid that no other has
  | forked pid jail phase positive fresh =>
      refine Or.inl (Or.inr ?_)
      rcases hand with ⟨setting, held, rfl⟩ | ⟨other, owned, child, rfl⟩
      · rw [phase] at held
        cases held
        exact ⟨pid, jail, by rw [Worker.owner_recordChild, if_pos rfl], rfl⟩
      · refine ⟨other, owned, ?_, rfl⟩
        rw [Worker.owner_recordChild, if_neg, child]
        rintro rfl
        rw [Worker.owner, fresh] at child
        cases child
  -- rfork failed: the start returns past its handler
  | forkFailed jail phase =>
      rcases hand with ⟨setting, held, rfl⟩ | child
      · rw [phase] at held
        cases held
        exact Or.inr (Or.inr (by simp [leaves, phase]))
      · exact Or.inl (Or.inr child)
  | tracked pid process phase child =>
      have owners := Worker.owner_setProcess child process.register_jail
      rcases hand.child (by rw [phase]; rfl) with ⟨other, owned, held, same⟩
      exact Or.inl (Or.inr ⟨other, owned, by rw [← held, ← owners]; rfl, same⟩)
  | trackFailed pid phase => exact Or.inl (Or.inr (hand.child (by rw [phase]; rfl)))
  | posted jail site phase =>
      refine Or.inl (hand.same ?_ rfl)
      rw [phase]
      cases site <;> rfl
  | postLost jail site phase => exact (hand.notifyRaised (Or.inl phase)).imp_right Or.inl
  -- after the report of a refused jail the start returns as well
  | answered jail site phase =>
      rcases hand with ⟨setting, held, rfl⟩ | child
      · cases site with
        | inTry =>
            rw [phase] at held
            cases held
            exact Or.inr (Or.inr (by simp [leaves, phase]))
        | inExcept =>
            rw [phase] at held
            cases held
        | onExit =>
            rw [phase] at held
            cases held
      · exact Or.inl (Or.inr child)
  | answerLost jail site phase => exact (hand.notifyRaised (Or.inr phase)).imp_right Or.inl
  | opensPidFile pid process child live before =>
      exact Or.inl (hand.same rfl (Worker.owner_setProcess child rfl))
  | writesPid pid process child live before =>
      exact Or.inl (hand.same rfl (Worker.owner_setProcess child rfl))
  | exits pid exitCode process watched child live =>
      exact Or.inl (hand.same rfl (Worker.owner_setProcess child rfl))
  | exitEvent pid process exitCode after child pending waits removed =>
      rw [table.release_of_removed child removed]
      rcases hand.child (Worker.unforked_of_waiting waits) with ⟨other, owned, held, rfl⟩
      -- the jail of the reaped child is destroyed in the same step
      by_cases here : other = pid
      · rw [here, Worker.owner_of_child child] at held
        cases held
        exact Or.inr (Or.inl
          (drop_appended [.reaped process.jail.id pid, .destroyJail process.jail.id] rfl
            (List.mem_cons_of_mem _ List.mem_cons_self)))
      · refine Or.inl (Or.inr ⟨other, owned, ?_, rfl⟩)
        rw [Worker.owner_releaseJail, if_neg here]
        have owners :
            (worker.setProcess pid { process with life := .exited exitCode false }).owner =
                worker.owner :=
          Worker.owner_setProcess child rfl
        rw [owners, held]
  | endOfStream idle used ended => exact Or.inl (Or.inr (hand.child (by rw [idle]; rfl)))
  | streamEvent phase left => exact Or.inl hand
  | drained phase clean => exact Or.inl (Or.inr (hand.child (by rw [phase]; rfl)))

theorem closed_step {action : Action} (table : Worker.TableInvariant worker)
    (effect : Worker.Effect worker action after)
    (before : worker.phase = .closed → ∀ pid, worker.owner pid = none)
    (closed : after.phase = .closed) :
    ∀ pid, after.owner pid = none := by
  cases effect with
  | arrive messages => exact before closed
  | receive count idle used => exact before closed
  | postLost jail site phase => cases site <;> cases closed
  | answerLost jail site phase => cases site <;> cases closed
  | opensPidFile pid process child live old =>
      have owners : (worker.setProcess pid { process with writePid := .opened }).owner =
          worker.owner :=
        Worker.owner_setProcess child rfl
      rw [owners]
      exact before closed
  | writesPid pid process child live old =>
      have owners : (worker.setProcess pid { process with writePid := .written }).owner =
          worker.owner :=
        Worker.owner_setProcess child rfl
      rw [owners]
      exact before closed
  | exits pid exitCode process watched child live =>
      have owners :
          (worker.setProcess pid { process with life := .exited exitCode watched }).owner =
              worker.owner :=
        Worker.owner_setProcess child rfl
      rw [owners]
      exact before closed
  | exitEvent pid process exitCode after child pending waits removed =>
      rw [table.release_of_removed child removed] at closed
      have waiting := waits
      unfold Worker.waiting at waiting
      split at waiting
      · rename_i idle
        rw [Worker.releaseJail, Worker.setProcess] at closed
        simp [idle] at closed
      · rename_i draining
        rw [Worker.releaseJail, Worker.setProcess] at closed
        simp [draining] at closed
      · cases waiting
  | streamEvent phase left => exact before closed
  -- the loop is left with an empty JAIL_DICT, which records every child
  | drained phase clean =>
      intro pid
      cases owned : worker.owner pid with
      | none => exact owned
      | some jail =>
          have listed := (Dict.get_eq_some_iff _ _ _).mp (table.recorded pid jail owned).2
          rw [clean] at listed
          cases listed
  | _ => cases closed

end Steps

structure Ledger (daemon : Daemon) : Prop where
  table : Worker.TableInvariant daemon.worker
  closed : daemon.worker.phase = .closed → ∀ pid, daemon.worker.owner pid = none
  accounted : ∀ id config jail, daemon.jails.get id = some (config, jail) →
    Settled jail ∨ Jail.Held config jail ∧ (InHand daemon.worker id ∨ id ∈ daemon.leftBehind)

theorem ledger_initial : Ledger Daemon.initial where
  table := Worker.table_initial
  closed := by rintro ⟨⟩
  accounted := by rintro _ _ _ ⟨⟩

theorem setUp_state (host : Jail.Host) (config : Jail.Config) :
    (setUp host config).1 = (Jail.createJail host config).1 := by
  rw [setUp]
  rcases Jail.createJail host config with ⟨jail, _ | _⟩
  · rfl
  · dsimp only
    split_ifs <;> rfl

variable {daemon after : Daemon}

theorem Ledger.act (ledger : Ledger daemon) {action : Action}
    {jails : Dict Nat (Jail.Config × Jail.State)}
    (accounted : ∀ id config jail, jails.get id = some (config, jail) → Settled jail ∨
      Jail.Held config jail ∧ (InHand daemon.worker id ∨ id ∈ daemon.leftBehind))
    (acted : daemon.act action jails = some after) : Ledger after := by
  rcases Option.map_eq_some_iff.mp acted with ⟨worker, taken, rfl⟩
  have effect := Worker.step_effect taken
  constructor
  case table => exact Worker.table_step ledger.table effect
  case closed => exact closed_step ledger.table effect ledger.closed
  case accounted =>
    intro id config jail held
    rw [get_settle] at held
    rcases Option.map_eq_some_iff.mp held with ⟨⟨stored, before⟩, look, same⟩
    cases same
    have known := accounted id stored before look
    rcases Nat.eq_zero_or_pos
      ((worker.calls.drop daemon.worker.calls.length).count (.destroyJail id)) with none | torn
    · simp only [none, Function.iterate_zero, id_eq]
      refine known.imp_right (And.imp_right ?_)
      rintro (hand | left)
      · rcases inHand_step ledger.table effect hand with hand | destroyed | left
        · exact Or.inl hand
        · exact absurd destroyed (List.count_eq_zero.mp none)
        · exact Or.inr (List.mem_append_right _ left)
      · exact Or.inr (List.mem_append_left _ left)
    · exact Or.inl (settled_iterate (known.imp_right And.left) torn)

theorem ledger_step {event : Event} (ledger : Ledger daemon)
    (stepped : daemon.step event = some after) : Ledger after := by
  cases event with
  | start host config =>
      rw [Daemon.step] at stepped
      split at stepped
      · rename_i jail phase
        rw [Option.ite_none_right_eq_some] at stepped
        have within : Jail.Held config (setUp host config).1 :=
          setUp_state host config ▸ Jail.createJail_held host config
        refine ledger.act ?_ stepped.2
        intro id stored state held
        rw [Dict.get_set] at held
        by_cases here : id = jail.id
        · rw [if_pos here, Option.some.injEq, Prod.mk.injEq] at held
          rcases held with ⟨rfl, rfl⟩
          exact Or.inr ⟨within, Or.inl (Or.inl ⟨jail, by rw [phase]; rfl, here.symm⟩)⟩
        · rw [if_neg here] at held
          exact ledger.accounted id stored state held
      · cases stepped
  | other action =>
      rw [Daemon.step, Option.ite_none_left_eq_some] at stepped
      exact ledger.act ledger.accounted stepped.2

end Accounts

section Example

def obligingHost : Jail.Host :=
  ⟨Jail.Limits.ascii, 4300, some 7, true, .mounted, .mounted, true, true, 300⟩

def startWeb : List Event :=
  [.other (.arrive [⟨"web", 0⟩]), .other (.receive 1), .other .take, .other (.fetched "web"),
    .start obligingHost Jail.webConfig, .other (.forked 300), .other .tracked]

def accountOf (id : Nat) (daemon : Daemon) : Option (List Jail.Resource × List Jail.Resource) :=
  (daemon.jails.get id).map fun entry => (entry.2.acquired, entry.2.released)

def webResources : List Jail.Resource :=
  [.jail, .epair "epair0a", .devfs, .tmpfs, .mount "/jails/containers/1/root/data"]

/-- With the shutdown behind it everything is given back; an rfork that fails leaves everything. -/
example :
    (replay Daemon.step anyAction Daemon.initial
      (startWeb ++ [.other .endOfStream, .other (.exits 300 143), .other (.exitEvent 300),
        .other .drained])).bind (accountOf 0) =
        some (webResources, webResources) ∧
    (replay Daemon.step anyAction Daemon.initial (startWeb.take 5 ++ [.other .forkFailed])).map
      (fun after => (accountOf 0 after, after.leftBehind)) =
          some (some (webResources, []), [0]) := by
  decide +kernel

end Example

end Dockermock.Kqueue
