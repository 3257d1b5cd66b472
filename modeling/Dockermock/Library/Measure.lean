import Dockermock.Library.Dict
import Dockermock.Library.Transition

/-!
Measures that bound the runs of a system: when each counted step makes a number
smaller and the others leave it, no run has more counted steps than that number at
its start. The number is mostly a sum over the values of a dictionary, where one
value changes or goes.
-/

namespace Dockermock.Library

section Runs
variable {State Action : Type} {step : State → Action → Option State} {admitted : State →
  Action → Prop}

/-- No admitted action can be taken any more. -/
def Stuck (step : State → Action → Option State) (admitted : State → Action → Prop)
    (state : State) : Prop :=
  ∀ action, admitted state action → step state action = none

theorem run_bounded (counted : Action → Bool) (measure : State → Nat) (invariant : State → Prop)
    (turn : ∀ before action after, invariant before → admitted before action →
      step before action = some after →
        invariant after ∧ measure after + (if counted action then 1 else 0) ≤ measure before)
    {before after : State} {actions : List Action} (run : Run step admitted before actions after)
    (start : invariant before) : actions.countP counted + measure after ≤ measure before := by
  induction run with
  | refl => exact Nat.le_of_eq (Nat.zero_add _)
  | next allowed taken _ ih =>
      rcases turn _ _ _ start allowed taken with ⟨still, smaller⟩
      have rest := ih still
      rw [List.countP_cons]
      omega

end Runs

section Weights
variable {Key Value : Type} [DecidableEq Key] (weight : Value → Nat)

def totalWeight : List (Key × Value) → Nat
  | [] => 0
  | (_, value) :: rest => weight value + totalWeight rest

theorem totalWeight_assign (key : Key) (old value : Value) (entries : List (Key × Value))
    (held : entries.lookup key = some old) :
    totalWeight weight (assign key value entries) + weight old = totalWeight weight entries +
        weight value := by
  induction entries with
  | nil => cases held
  | cons entry rest ih =>
      rcases entry with ⟨other, stored⟩
      by_cases hit : other = key
      · subst hit
        have kept : stored = old := by simpa using held
        subst kept
        simp only [assign, if_true, totalWeight]
        omega
      · have elsewhere : key ≠ other := fun equal => hit equal.symm
        rw [lookup_cons_other _ _ _ _ elsewhere] at held
        have later := ih held
        simp only [assign, hit, if_false, totalWeight]
        omega

omit [DecidableEq Key] in
theorem totalWeight_sublist {fewer entries : List (Key × Value)} (among : fewer.Sublist entries) :
    totalWeight weight fewer ≤ totalWeight weight entries := by
  induction among with
  | slnil => exact Nat.le_refl _
  | cons entry _ ih =>
      rw [totalWeight]
      omega
  | cons_cons entry _ ih =>
      rw [totalWeight, totalWeight]
      omega

namespace Dict

def total (dict : Dict Key Value) : Nat := totalWeight weight dict.entries

theorem total_set (dict : Dict Key Value) (key : Key) (old value : Value)
    (held : dict.get key = some old) :
    (dict.set key value).total weight + weight old = dict.total weight + weight value :=
  totalWeight_assign weight key old value dict.entries held

theorem total_pop (dict : Dict Key Value) (key : Key) :
    (dict.pop key).total weight ≤ dict.total weight :=
  totalWeight_sublist weight List.filter_sublist

end Dict

end Weights

end Dockermock.Library
