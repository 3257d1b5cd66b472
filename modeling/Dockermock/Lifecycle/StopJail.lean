import Dockermock.Pf.Anchor

/-!
stop_jail as the calls it makes. Which of them come at all is decided by
jail.pid: without the file its `open` raises, and for a process that cannot be
signalled `os.kill` raises, and neither is caught. A text that is no number is.
-/

namespace Dockermock.Lifecycle.StopJail

open Database

inductive Call where
  | jailRemove
  | kill (pid : Int)
  | truncate
  | jailGetId (found : Bool)
  | removeJailFromName
  | removeRdrPortRule (anchor : String) (port : Int) (proto : Pf.Proto)
  | removeNatPortRule (anchor : String) (port : Int) (proto : Pf.Proto)
  deriving DecidableEq, Repr

inductive Outcome where
  | doesNotExist
  | returned (status : Status)
  | raised
  deriving DecidableEq, Repr

structure Container where
  status : Status
  ports : List Port
  networks : List String

/-- What the calls meet: jail.pid, the pids that can be signalled, whether the jail is still
found at each look, and which calls into pf go through. -/
structure Site where
  pidFile : PidFile
  kill : Int → Bool
  found : Nat → Bool
  pf : Nat → Bool

/-- The part around jail.pid, and whether it comes to its end. -/
def endProcess (site : Site) : Bool × List Call :=
  match site.pidFile with
  | .absent => (false, [.jailRemove])
  -- What `int` refuses, an empty line among it, is a ValueError.
  | .unreadable => (true, [.jailRemove, .truncate])
  | .pid pid => (site.kill pid, [.kill pid, .truncate])

/-- `for i in range(10)`, with the turns that are left: is the jail seen to be gone? -/
def awaitRemoval (found : Nat → Bool) : Nat → Nat → Bool × List Call
  | 0, _ => (false, [])
  | turns + 1, look =>
      if found look then
        let (removed, calls) := awaitRemoval found turns (look + 1)
        (removed, .jailGetId true :: calls)
      else (true, [.jailGetId false])

/-- The calls of the two loops over ports and networks. -/
def ruleCalls (container : Container) : List Call :=
  (Pf.removalCalls container.ports container.networks).flatMap fun (port, network) =>
    [.removeRdrPortRule ("cni-rdr/" ++ network) port.host (Pf.ipProto port),
      .removeNatPortRule ("cni-rdr/" ++ network) port.container (Pf.ipProto port)]

/-- The first call that raises ends the loops; the exception is only logged. -/
def removeRules (pf : Nat → Bool) : Nat → List Call → List Call
  | _, [] => []
  | index, call :: rest => if pf index then call :: removeRules pf (index + 1) rest else [call]

def stopRunning (site : Site) (container : Container) : Outcome × List Call :=
  match endProcess site with
  | (false, calls) => (.raised, calls)
  | (true, calls) =>
      let (removed, looks) := awaitRemoval site.found 10 0
      let request := if removed then [] else [.removeJailFromName]
      (.returned .exited, calls ++ looks ++ request ++ removeRules site.pf 0 (ruleCalls container))

def stopJail (site : Site) : Option Container → Outcome × List Call
  | none => (.doesNotExist, [])
  | some container =>
      if container.status ≠ .running then (.returned container.status, [])
        else stopRunning site container

section Specification

/-- The jail is looked for until it is gone, ten times at most; if it is still there its
removal is requested. -/
def RemovalSeen (found : Nat → Bool) (calls : List Call) : Prop :=
  (∃ looks < 10, (∀ look < looks, found look = true) ∧ found looks = false ∧
      calls = List.replicate looks (.jailGetId true) ++ [.jailGetId false]) ∨
    ((∀ look < 10, found look = true) ∧
      calls = List.replicate 10 (.jailGetId true) ++ [.removeJailFromName])

structure Finishes (site : Site) (container : Container) : Prop where
  returned : ∃ status, (stopJail site (some container)).1 = .returned status
  cleaned : ∃ before looks, RemovalSeen site.found looks ∧
    (stopJail site (some container)).2 = before ++ looks ++ ruleCalls container

/-- The file is there, and does not hold the number of a process that cannot be signalled. -/
def Signalled (site : Site) : Prop :=
  match site.pidFile with
  | .absent => False
  | .unreadable => True
  | .pid pid => site.kill pid = true

/-- No call into pf fails while there are others to come. -/
def Unhindered (site : Site) (container : Container) : Prop :=
  ∀ index, index + 1 < (ruleCalls container).length → site.pf index = true

end Specification

def Call.onRules : Call → Bool
  | .removeRdrPortRule _ _ _ => true
  | .removeNatPortRule _ _ _ => true
  | _ => false

theorem onRules_of_ruleCalls (container : Container) :
    ∀ call ∈ ruleCalls container, call.onRules = true := by
  intro call member
  rcases List.mem_flatMap.mp member with ⟨⟨port, network⟩, _, among⟩
  rcases List.mem_cons.mp among with rfl | last
  · rfl
  · rw [List.mem_singleton.mp last]
    rfl

theorem awaitRemoval_cases (found : Nat → Bool) (turns look : Nat) :
    (∃ looks < turns, (∀ step < looks, found (look + step) = true) ∧ found (look + looks) = false ∧
        awaitRemoval found turns look =
          (true, List.replicate looks (.jailGetId true) ++ [.jailGetId false])) ∨
      ((∀ step < turns, found (look + step) = true) ∧
        awaitRemoval found turns look = (false, List.replicate turns (.jailGetId true))) := by
  induction turns generalizing look with
  | zero => exact Or.inr ⟨fun step below => absurd below (Nat.not_lt_zero _), rfl⟩
  | succ turns ih =>
      cases here : found look with
      | false =>
          refine Or.inl ⟨0, Nat.succ_pos _,
            fun step below => absurd below (Nat.not_lt_zero _), here, ?_⟩
          simp [awaitRemoval, here]
      | true =>
          have shift : ∀ bound, (∀ step < bound, found (look + 1 + step) = true) →
              ∀ step < bound + 1, found (look + step) = true := by
            intro bound later step below
            cases step with
            | zero => exact here
            | succ step =>
                have next := later step (by omega)
                rwa [Nat.add_right_comm] at next
          rcases ih (look + 1) with ⟨looks, below, before, gone, result⟩ | ⟨before, result⟩
          · refine Or.inl ⟨looks + 1, by omega, shift looks before, ?_, ?_⟩
            · rwa [Nat.add_right_comm] at gone
            · simp [awaitRemoval, here, result, List.replicate_succ]
          · refine Or.inr ⟨shift turns before, ?_⟩
            simp [awaitRemoval, here, result, List.replicate_succ]

theorem removalSeen_awaitRemoval (found : Nat → Bool) :
    RemovalSeen found ((awaitRemoval found 10 0).2 ++
      if (awaitRemoval found 10 0).1 then [] else [.removeJailFromName]) := by
  rcases awaitRemoval_cases found 10 0 with ⟨looks, below, before, gone, result⟩ | ⟨before, result⟩
  · refine Or.inl ⟨looks, below, fun look earlier => ?_, ?_, ?_⟩
    · simpa using before look earlier
    · simpa using gone
    · simp [result]
  · refine Or.inr ⟨fun look earlier => by simpa using before look earlier, ?_⟩
    simp [result]

theorem removeRules_eq_iff (pf : Nat → Bool) (index : Nat) (calls : List Call) :
    removeRules pf index calls = calls ↔ ∀ step, step + 1 < calls.length →
        pf (index + step) = true := by
  induction calls generalizing index with
  | nil => simp [removeRules]
  | cons call rest ih =>
      rw [removeRules]
      cases rest with
      | nil => simp [removeRules]
      | cons next rest =>
          cases goes : pf index with
          | false =>
              refine iff_of_false (by simp) fun all => ?_
              have first := all 0 (by simp)
              rw [Nat.add_zero, goes] at first
              cases first
          | true =>
              simp only [if_true, List.cons.injEq, true_and, ih (index + 1), List.length_cons]
              constructor
              · intro later step below
                cases step with
                | zero => exact goes
                | succ step =>
                    have next := later step (by omega)
                    rwa [Nat.add_right_comm] at next
              · intro all step below
                have next := all (step + 1) (by omega)
                rwa [← Nat.add_assoc, Nat.add_right_comm] at next

theorem removeRules_prefix (pf : Nat → Bool) (index : Nat) (calls : List Call) :
    removeRules pf index calls <+: calls := by
  induction calls generalizing index with
  | nil => simp [removeRules]
  | cons call rest ih =>
      rw [removeRules]
      split
      · exact List.cons_prefix_cons.mpr ⟨rfl, ih (index + 1)⟩
      · exact List.cons_prefix_cons.mpr ⟨rfl, List.nil_prefix⟩

theorem countP_endProcess (site : Site) : (endProcess site).2.countP Call.onRules = 0 := by
  unfold endProcess
  cases site.pidFile <;> rfl

theorem countP_removalSeen {found : Nat → Bool} {calls : List Call}
    (seen : RemovalSeen found calls) : calls.countP Call.onRules = 0 := by
  have looking : ∀ looks, (List.replicate looks (Call.jailGetId true)).countP Call.onRules = 0 := by
    intro looks
    rw [List.countP_replicate, if_neg (by decide)]
  rcases seen with ⟨looks, _, _, _, rfl⟩ | ⟨_, rfl⟩
  · rw [List.countP_append, looking]
    rfl
  · rw [List.countP_append, looking]
    rfl

theorem signalled_iff (site : Site) : Signalled site ↔ (endProcess site).1 = true := by
  unfold Signalled endProcess
  cases site.pidFile <;> simp

variable {site : Site} {container : Container}

theorem stopJail_raised (running : container.status = .running) (unsignalled : ¬ Signalled site) :
    (stopJail site (some container)).1 = .raised := by
  rw [signalled_iff, Bool.not_eq_true] at unsignalled
  rw [stopJail, if_neg (not_not.mpr running), stopRunning]
  have parts : endProcess site = (false, (endProcess site).2) := Prod.ext unsignalled rfl
  rw [parts]

theorem stopJail_signalled (running : container.status = .running) (signalled : Signalled site) :
    ∃ looks, RemovalSeen site.found looks ∧ stopJail site (some container) =
      (.returned .exited,
          (endProcess site).2 ++ looks ++ removeRules site.pf 0 (ruleCalls container)) := by
  rw [signalled_iff] at signalled
  refine ⟨_, removalSeen_awaitRemoval site.found, ?_⟩
  rw [stopJail, if_neg (not_not.mpr running), stopRunning]
  have parts : endProcess site = (true, (endProcess site).2) := Prod.ext signalled rfl
  rw [parts]
  simp only [List.append_assoc]

/-- The anchors are reached in the model of the rules exactly when they are here. -/
theorem reached_iff_returned (site : Site) (container : Container)
    (running : container.status = .running) :
    (Pf.Jail.mk container.status site.pidFile site.kill).reached = true ↔
      (stopJail site (some container)).1 = .returned .exited := by
  have reaches : (Pf.Jail.mk container.status site.pidFile site.kill).reached = true ↔
      Signalled site := by
    unfold Pf.Jail.reached Signalled
    rw [running]
    cases site.pidFile <;> simp
  rw [reaches]
  constructor
  · intro signalled
    rcases stopJail_signalled running signalled with ⟨_, _, result⟩
    rw [result]
  · intro returned
    by_contra unsignalled
    rw [stopJail_raised running unsignalled] at returned
    cases returned

section Example

def web : Container := ⟨.running, [⟨8080, 80, none⟩], ["front"]⟩

def quietSite (pidFile : PidFile) : Site :=
  ⟨pidFile, fun pid => pid = 4711, fun look => look < 2, fun _ => true⟩

end Example

end Dockermock.Lifecycle.StopJail
