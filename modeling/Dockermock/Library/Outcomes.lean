import Mathlib.Data.Option.Basic

/-!
Computations that may have no result. Two of them go along when both have none, or
related ones; and what an exception has not ended had its first part before. A list
is gone through up to the first exception.
-/

namespace Dockermock.Library

section Partial
variable {Left Right Left' Right' : Type} {related : Left → Right → Prop} {related' : Left' →
  Right' → Prop} {left : Option Left} {right : Option Right}

theorem rel_bind {next : Left → Option Left'} {next' : Right → Option Right'}
    (start : Option.Rel related left right)
    (rest : ∀ left right, related left right → Option.Rel related' (next left) (next' right)) :
    Option.Rel related' (left.bind next) (right.bind next') := by
  cases start with
  | none => exact .none
  | some both => exact rest _ _ both

theorem rel_map {next : Left → Left'} {next' : Right → Right'}
    (start : Option.Rel related left right)
    (rest : ∀ left right, related left right → related' (next left) (next' right)) :
    Option.Rel related' (left.map next) (right.map next') := by
  cases start with
  | none => exact .none
  | some both => exact .some (rest _ _ both)

theorem rel_getD {spare : Left} {spare' : Right} (option : Option.Rel related left right)
    (spares : related spare spare') : related (left.getD spare) (right.getD spare') := by
  cases option with
  | none => exact spares
  | some both => exact both

theorem rel_cases (option : Option.Rel related left right) :
    (left = none ∧ right = none) ∨ ∃ value value', left = some value ∧ right = some value' ∧
        related value value' := by
  cases option with
  | none => exact Or.inl ⟨rfl, rfl⟩
  | some both => exact Or.inr ⟨_, _, rfl, rfl, both⟩

theorem rel_left {value : Left} (option : Option.Rel related left right)
    (known : left = some value) : ∃ value', right = some value' ∧ related value value' := by
  rcases rel_cases option with ⟨none, _⟩ | ⟨value, value', here, there, both⟩
  · rw [none] at known
    cases known
  · rw [here] at known
    cases known
    exact ⟨value', there, both⟩

theorem rel_right {value' : Right} (option : Option.Rel related left right)
    (known : right = some value') : ∃ value, left = some value ∧ related value value' := by
  rcases rel_cases option with ⟨_, none⟩ | ⟨value, value', here, there, both⟩
  · rw [none] at known
    cases known
  · rw [there] at known
    cases known
    exact ⟨value, here, both⟩

end Partial

section Exceptions
variable {Error First Value : Type} {first : Except Error First} {next : First → Except Error Value}

theorem bind_ok {value : Value} (done : first >>= next = .ok value) :
    ∃ middle, first = .ok middle ∧ next middle = .ok value := by
  cases first with
  | error error => cases done
  | ok middle => exact ⟨middle, rfl, done⟩

section Lists
variable {Source Target : Type} {read : Source → Except Error Target}

theorem mapM_ok {made : Source → Target} (sources : List Source)
    (reads : ∀ source ∈ sources, read source = .ok (made source)) :
    sources.mapM read = .ok (sources.map made) := by
  induction sources with
  | nil => rfl
  | cons source rest ih =>
      rw [List.forall_mem_cons] at reads
      rw [List.mapM_cons, reads.1, ih reads.2]
      rfl

theorem mapM_error (sources : List Source) {source : Source} (member : source ∈ sources)
    (stops : ∃ error, read source = .error error) : ∃ error, sources.mapM read = .error error := by
  induction sources with
  | nil => cases member
  | cons first rest ih =>
      rw [List.mapM_cons]
      cases here : read first with
      | error error => exact ⟨error, rfl⟩
      | ok made =>
          rcases List.mem_cons.mp member with rfl | later
          · rcases stops with ⟨error, stopped⟩
            cases here.symm.trans stopped
          · rcases ih later with ⟨error, stopped⟩
            exact ⟨error, by rw [stopped]; rfl⟩

end Lists

end Exceptions

end Dockermock.Library
