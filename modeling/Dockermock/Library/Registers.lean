import Mathlib.Data.Nat.Init
import Mathlib.Data.Option.Basic

/-!
Registers that are read one after another while they are being filled. A register
never goes empty again, so that the last value met on the way is the one that a
look at all registers at a single moment of the reading gives.
-/

namespace Dockermock.Library

variable {Value : Type}

/-- The value of the last of the first registers that holds one. -/
def lastHeld (registers : Nat → Option Value) : Nat → Option Value
  | 0 => none
  | count + 1 => (registers count).or (lastHeld registers count)

theorem lastHeld_front (registers : Nat → Option Value) (count : Nat) :
    lastHeld registers (count + 1) = (lastHeld (fun index => registers (index + 1)) count).or
        (registers 0) := by
  induction count with
  | zero => cases held : registers 0 <;> simp [lastHeld, held]
  | succ count ih =>
      rw [lastHeld, ih, ← Option.or_assoc]
      rfl

theorem lastHeld_rest {registers : Nat → Option Value} {count total : Nat} (inside : count ≤ total)
    (empty : ∀ index, count ≤ index → index < total → registers index = none) :
    lastHeld registers total = lastHeld registers count := by
  induction total, inside using Nat.le_induction with
  | base => rfl
  | succ total inside ih =>
      rw [lastHeld, empty total inside (Nat.lt_succ_self total), Option.none_or]
      exact ih fun index from' below => empty index from' (Nat.lt_succ_of_lt below)

section Moments
variable {registers : Nat → Nat → Option Value}

/-- By moment and index; empty now is empty before. -/
def Filling (registers : Nat → Nat → Option Value) : Prop :=
  ∀ earlier later index, earlier ≤ later → registers later index = none →
    registers earlier index = none

/-- What was gathered from the first registers is what they showed at one moment of the reading. -/
def Gathered (registers : Nat → Nat → Option Value) (since now count : Nat) (found : Option Value) :
    Prop :=
  ∃ moment, since ≤ moment ∧ moment ≤ now ∧ found = lastHeld (registers moment) count

theorem gathered_start {since now : Nat} (begun : since ≤ now) :
    Gathered registers since now 0 none :=
  ⟨since, Nat.le_refl since, begun, rfl⟩

theorem Gathered.later {since now after count : Nat} {found : Option Value}
    (gathered : Gathered registers since now count found) (later : now ≤ after) :
    Gathered registers since after count found := by
  rcases gathered with ⟨moment, begun, ended, same⟩
  exact ⟨moment, begun, Nat.le_trans ended later, same⟩

theorem Gathered.congr {others : Nat → Nat → Option Value} {since now count : Nat}
    {found : Option Value} (gathered : Gathered registers since now count found)
    (same : ∀ moment ≤ now, others moment = registers moment) :
    Gathered others since now count found := by
  rcases gathered with ⟨moment, begun, ended, rfl⟩
  exact ⟨moment, begun, ended, by rw [same moment ended]⟩

theorem Gathered.begun {since now count : Nat} {found : Option Value}
    (gathered : Gathered registers since now count found) : since ≤ now := by
  rcases gathered with ⟨moment, begun, ended, _⟩
  exact Nat.le_trans begun ended

theorem Gathered.read {since now count : Nat} {found : Option Value} (filling : Filling registers)
    (gathered : Gathered registers since now count found) (found' : Option Value)
    (next : found' = registers now count ∧ found' ≠ none ∨
      registers now count = none ∧ found' = found) :
    Gathered registers since now (count + 1) found' := by
  rcases next with ⟨rfl, held⟩ | ⟨empty, rfl⟩
  · rcases Option.ne_none_iff_exists'.mp held with ⟨value, held⟩
    exact ⟨now, gathered.begun, Nat.le_refl now, by rw [lastHeld, held, Option.some_or]⟩
  · rcases gathered with ⟨moment, begun, ended, same⟩
    exact ⟨moment, begun, ended, by
      rw [lastHeld, filling moment now count ended empty, Option.none_or, same]⟩

theorem Gathered.rest {since now count total : Nat} {found : Option Value}
    (filling : Filling registers) (gathered : Gathered registers since now count found)
    (inside : count ≤ total)
    (empty : ∀ index, count ≤ index → index < total → registers now index = none) :
    Gathered registers since now total found := by
  rcases gathered with ⟨moment, begun, ended, same⟩
  refine ⟨moment, begun, ended, ?_⟩
  rw [same,
    lastHeld_rest inside fun index from' below =>
      filling moment now index ended (empty index from' below)]

end Moments

end Dockermock.Library
