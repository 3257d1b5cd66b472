import Mathlib.Data.List.Basic

/-!
Labelled transition systems given by a partial step function. A run is the list
of its actions, so that a condition on every step of a run is a condition on
actions and the states they are taken in. An invariant is proved once for a
step; `run_invariant` carries it over whole runs.
-/

namespace Dockermock.Library

variable {State Action : Type}

/-- `Run step admitted before actions after`: the actions are taken one after
another, every one of them in a state that admits it. -/
inductive Run (step : State → Action → Option State) (admitted : State → Action → Prop) :
    State → List Action → State → Prop where
  | refl (state : State) : Run step admitted state [] state
  | next {before middle after : State} {action : Action} {rest : List Action} :
      admitted before action → step before action = some middle →
      Run step admitted middle rest after → Run step admitted before (action :: rest) after

/-- Every action is admitted: the unrestricted runs of the system. -/
def anyAction (_ : State) (_ : Action) : Prop := True

theorem run_invariant {step : State → Action → Option State} {admitted : State → Action → Prop}
    (invariant : State → Prop)
    (preserved : ∀ before action after, invariant before → admitted before action →
      step before action = some after → invariant after)
    {before after : State} {actions : List Action}
    (run : Run step admitted before actions after) (start : invariant before) :
    invariant after := by
  induction run with
  | refl => exact start
  | next allowed taken _ ih => exact ih (preserved _ _ _ start allowed taken)

instance (state : State) (action : Action) : Decidable (anyAction state action) := isTrue trivial

section Replay
variable (step : State → Action → Option State) (admitted : State → Action → Prop)
  [∀ state action, Decidable (admitted state action)]

/-- Executable replay of a list of actions, for concrete runs. -/
def replay : State → List Action → Option State
  | state, [] => some state
  | state, action :: rest =>
      if admitted state action then (step state action).bind fun next => replay next rest else none

theorem replay_run (before : State) (actions : List Action) (after : State)
    (reached : replay step admitted before actions = some after) :
    Run step admitted before actions after := by
  induction actions generalizing before with
  | nil =>
      cases reached
      exact Run.refl _
  | cons action rest ih =>
      rw [replay, Option.ite_none_right_eq_some] at reached
      rcases reached with ⟨allowed, rest⟩
      rcases Option.bind_eq_some_iff.mp rest with ⟨middle, taken, remaining⟩
      exact Run.next allowed taken (ih middle remaining)

theorem run_of_replay {Reading : Type} (read : State → Reading) (before : State)
    (actions : List Action) (reading : Reading)
    (replayed : (replay step admitted before actions).map read = some reading) :
    ∃ after, Run step admitted before actions after ∧ read after = reading := by
  rcases Option.map_eq_some_iff.mp replayed with ⟨after, reached, same⟩
  exact ⟨after, replay_run step admitted before actions after reached, same⟩

end Replay

section Loop
variable (goesOn : State → Bool) (turn : State → Int × State)

/-- A loop of C. A turn that gives another code than 0 leaves the function with it; there is
nothing where the turns do not suffice. -/
def whileLoop : Nat → State → Option (Int × State)
  | 0, state => if goesOn state then none else some (0, state)
  | turns + 1, state =>
      if goesOn state then
        let done := turn state
        if done.1 = 0 then whileLoop turns done.2 else some done
      else some (0, state)

theorem whileLoop_stop (turns : Nat) (state : State) (stops : goesOn state = false) :
    whileLoop goesOn turn turns state = some (0, state) := by
  cases turns <;> simp [whileLoop, stops]

theorem whileLoop_turn (turns : Nat) (state next : State) (on : goesOn state = true)
    (done : turn state = (0, next)) :
    whileLoop goesOn turn (turns + 1) state = whileLoop goesOn turn turns next := by
  simp [whileLoop, on, done]

theorem whileLoop_enough {enough : Nat} {state next : State} {result : Int × State}
    (on : goesOn state = true) (done : turn state = (0, next))
    (rest : ∀ turns, enough ≤ turns → whileLoop goesOn turn turns next = some result) (turns : Nat)
    (more : enough < turns) : whileLoop goesOn turn turns state = some result := by
  obtain ⟨fewer, rfl⟩ : ∃ fewer, turns = fewer + 1 :=
    Nat.exists_eq_add_one.mpr (Nat.zero_lt_of_lt more)
  rw [whileLoop_turn goesOn turn fewer state next on done]
  exact rest fewer (Nat.le_of_lt_succ more)

theorem whileLoop_leave (turns : Nat) (state : State) (code : Int) (next : State)
    (on : goesOn state = true) (done : turn state = (code, next)) (failed : code ≠ 0) :
    whileLoop goesOn turn (turns + 1) state = some (code, next) := by
  simp [whileLoop, on, done, failed]

end Loop

end Dockermock.Library
