import Mathlib.Data.List.Induction

/-!
Append-only logs. A log is guarded when every entry met its guard at the moment
it was appended, the guard seeing everything logged before.
-/

namespace Dockermock.Library

variable {Entry : Type}

def Guarded (guard : List Entry → Entry → Prop) (log : List Entry) : Prop :=
  ∀ earlier item later, log = earlier ++ item :: later → guard earlier item

theorem guarded_nil (guard : List Entry → Entry → Prop) : Guarded guard [] := by
  intro earlier item later split
  cases earlier <;> cases split

theorem guarded_concat (guard : List Entry → Entry → Prop) (log : List Entry) (item : Entry)
    (guarded : Guarded guard log) (met : guard log item) : Guarded guard (log ++ [item]) := by
  intro earlier entry later split
  rcases List.eq_nil_or_concat later with last | ⟨rest, final, last⟩
  · rw [last] at split
    rcases List.append_inj' split rfl with ⟨same, entries⟩
    cases entries
    exact same ▸ met
  · rw [last, List.concat_eq_append, ← List.cons_append, ← List.append_assoc] at split
    rcases List.append_inj' split rfl with ⟨same, _⟩
    exact guarded earlier entry rest same

theorem guarded_append (guard : List Entry → Entry → Prop) (log added : List Entry)
    (guarded : Guarded guard log)
    (met : ∀ earlier item later, added = earlier ++ item :: later → guard (log ++ earlier) item) :
    Guarded guard (log ++ added) := by
  induction added using List.reverseRecOn with
  | nil => simpa using guarded
  | append_singleton front item ih =>
      rw [← List.append_assoc]
      apply guarded_concat
      · apply ih
        intro earlier entry later split
        exact met earlier entry (later ++ [item]) (by simp [split])
      · exact met front item [] rfl

theorem guarded_count_le_one [DecidableEq Entry] (guard : List Entry → Entry → Prop)
    (log : List Entry) (guarded : Guarded guard log) (item : Entry)
    (once : ∀ earlier, guard earlier item → item ∉ earlier) :
    log.count item ≤ 1 := by
  by_contra repeated
  have member : item ∈ log := List.count_pos_iff.mp (by omega)
  rcases List.append_of_mem member with ⟨earlier, later, split⟩
  have twice : item ∈ later ∨ item ∈ earlier := by
    rw [split, List.count_append, List.count_cons_self] at repeated
    rcases Nat.eq_zero_or_pos (later.count item) with none | some
    · exact Or.inr (List.count_pos_iff.mp (by omega))
    · exact Or.inl (List.count_pos_iff.mp some)
  rcases twice with after | before
  · rcases List.append_of_mem after with ⟨middle, last, rest⟩
    have again : log = (earlier ++ item :: middle) ++ item :: last := by simp [split, rest]
    exact once _ (guarded _ _ _ again) (by simp)
  · exact once _ (guarded _ _ _ split) before

end Dockermock.Library
