import Dockermock.Library.Outcomes
import Dockermock.Library.Transition

/-!
Two systems in lockstep. Each step of the one has its counterpart in the other, with
related states before and after, and where the one has no step the other has none
either. Whole runs then go along in both directions.
-/

namespace Dockermock.Library

section Lockstep
variable {Spec Code Action Call : Type}

/-- A call of the code is an action of its specification. -/
structure Lockstep (step : Spec → Action → Option Spec) (step' : Code → Call → Option Code)
    (action : Call → Action) (admitted : Call → Prop) where
  related : Spec → Code → Prop
  turn : ∀ spec code call, related spec code → admitted call →
    Option.Rel related (step spec (action call)) (step' code call)

variable {step : Spec → Action → Option Spec} {step' : Code → Call → Option Code}
  {action : Call → Action} {admitted : Call → Prop} (lockstep : Lockstep step step' action admitted)
    {spec : Spec} {code : Code}
  {calls : List Call}

include lockstep

theorem Lockstep.specified {after : Code} (run : Run step' anyAction code calls after)
    (all : ∀ call ∈ calls, admitted call) (start : lockstep.related spec code) :
    ∃ spec', Run step anyAction spec (calls.map action) spec' ∧ lockstep.related spec' after := by
  induction run generalizing spec with
  | refl code => exact ⟨spec, Run.refl spec, start⟩
  | next _ taken _ ih =>
      rcases List.forall_mem_cons.mp all with ⟨first, rest⟩
      rcases rel_right (lockstep.turn _ _ _ start first) taken with ⟨middle, stepped, still⟩
      rcases ih rest still with ⟨spec', run, ends⟩
      exact ⟨spec', Run.next trivial stepped run, ends⟩

theorem Lockstep.carried (calls : List Call) {after : Spec}
    (run : Run step anyAction spec (calls.map action) after) (all : ∀ call ∈ calls, admitted call)
    (start : lockstep.related spec code) :
    ∃ code', Run step' anyAction code calls code' ∧ lockstep.related after code' := by
  induction calls generalizing spec code with
  | nil =>
      cases run
      exact ⟨code, Run.refl code, start⟩
  | cons call rest ih =>
      rcases List.forall_mem_cons.mp all with ⟨first, others⟩
      cases run with
      | next _ taken remaining =>
          rcases rel_left (lockstep.turn _ _ _ start first) taken with ⟨middle, stepped, still⟩
          rcases ih remaining others still with ⟨code', run, ends⟩
          exact ⟨code', Run.next trivial stepped run, ends⟩

end Lockstep

end Dockermock.Library
