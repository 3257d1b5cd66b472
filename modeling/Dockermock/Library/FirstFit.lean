import Mathlib.Data.List.ReduceOption
import Mathlib.Data.List.Pairwise

/-!
First fit. Candidates are tried in ascending order of a key, and one is taken
when it conflicts with nothing that is taken already. What is found is the least
candidate that fits, and over a whole run the taken ones never conflict.
-/

namespace Dockermock.Library

variable {Item : Type}

section Least

variable {key : Item → Nat} {candidates : List Item}

theorem find?_eq_some_iff_least
    (ascending : candidates.Pairwise fun left right => key left < key right) (test : Item → Bool)
    (item : Item) :
    candidates.find? test = some item ↔
      item ∈ candidates ∧ test item = true ∧ ∀ other ∈ candidates, test other = true →
          key item ≤ key other := by
  induction candidates with
  | nil => simp
  | cons first rest ih =>
      rcases List.pairwise_cons.mp ascending with ⟨above, ascending⟩
      cases passes : test first with
      | true =>
          rw [List.find?_cons_of_pos passes, Option.some.injEq]
          constructor
          · rintro rfl
            refine ⟨List.mem_cons_self, passes, fun other member _ => ?_⟩
            rcases List.mem_cons.mp member with rfl | later
            · exact Nat.le_refl _
            · exact Nat.le_of_lt (above other later)
          · rintro ⟨member, _, least⟩
            rcases List.mem_cons.mp member with same | later
            · exact same.symm
            · have below := least first List.mem_cons_self passes
              have apart := above item later
              omega
      | false =>
          rw [List.find?_cons_of_neg (by simp [passes]), ih ascending]
          simp only [List.mem_cons]
          constructor
          · rintro ⟨member, good, least⟩
            refine ⟨Or.inr member, good, fun other among good => ?_⟩
            rcases among with rfl | later
            · rw [passes] at good
              cases good
            · exact least other later good
          · rintro ⟨rfl | member, good, least⟩
            · rw [passes] at good
              cases good
            · exact ⟨member, good, fun other later good => least other (Or.inr later) good⟩

end Least

section Fitting

variable (conflicts : Item → Item → Bool)

def fits (taken : List Item) (candidate : Item) : Bool :=
  taken.all fun item => !conflicts candidate item

def firstFit (candidates taken : List Item) : Option Item := candidates.find? (fits conflicts taken)

def fitEach : List (List Item) → List Item → List (Option Item)
  | [], _ => []
  | candidates :: rest, taken =>
      firstFit conflicts candidates taken :: fitEach rest
        (taken ++ (firstFit conflicts candidates taken).toList)

theorem fits_iff (taken : List Item) (candidate : Item) :
    fits conflicts taken candidate = true ↔ ∀ item ∈ taken, conflicts candidate item = false := by
  simp [fits]

theorem fits_append (taken added : List Item) (candidate : Item) :
    fits conflicts (taken ++ added) candidate =
        (fits conflicts taken candidate && fits conflicts added candidate) :=
  List.all_append

theorem firstFit_eq_none_iff (candidates taken : List Item) :
    firstFit conflicts candidates taken = none ↔
      ∀ candidate ∈ candidates, ∃ item ∈ taken, conflicts candidate item = true := by
  simp [firstFit, fits]

theorem fitEach_clear (searches : List (List Item)) (taken : List Item) :
    (fitEach conflicts searches taken).reduceOption.Pairwise
      (fun earlier later => conflicts later earlier = false) ∧
      ∀ item ∈ (fitEach conflicts searches taken).reduceOption,
          fits conflicts taken item = true := by
  induction searches generalizing taken with
  | nil => simp [fitEach]
  | cons candidates rest ih =>
      rw [fitEach]
      cases found : firstFit conflicts candidates taken with
      | none => simpa using ih taken
      | some item =>
          rcases ih (taken ++ [item]) with ⟨ordered, fitting⟩
          rw [Option.toList_some, List.reduceOption_cons_of_some]
          have later : ∀ other ∈ (fitEach conflicts rest (taken ++ [item])).reduceOption,
              fits conflicts taken other = true ∧ conflicts other item = false := by
            intro other member
            have both := fitting other member
            rw [fits_append, Bool.and_eq_true] at both
            exact ⟨both.1, (fits_iff conflicts _ _).mp both.2 item (List.mem_singleton_self item)⟩
          refine ⟨List.pairwise_cons.mpr ⟨fun other member => (later other member).2, ordered⟩, ?_⟩
          intro other member
          rcases List.mem_cons.mp member with rfl | among
          · exact List.find?_some found
          · exact (later other among).1

theorem mem_fitEach {searches : List (List Item)} {taken : List Item} {item : Item}
    (member : item ∈ (fitEach conflicts searches taken).reduceOption) :
    ∃ candidates ∈ searches, item ∈ candidates := by
  induction searches generalizing taken with
  | nil => simp [fitEach] at member
  | cons candidates rest ih =>
      rw [fitEach] at member
      cases found : firstFit conflicts candidates taken with
      | none =>
          rw [found, List.reduceOption_cons_of_none] at member
          rcases ih member with ⟨other, among, present⟩
          exact ⟨other, List.mem_cons_of_mem _ among, present⟩
      | some first =>
          rw [found, List.reduceOption_cons_of_some] at member
          rcases List.mem_cons.mp member with rfl | later
          · exact ⟨candidates, List.mem_cons_self, List.mem_of_find?_eq_some found⟩
          · rcases ih later with ⟨other, among, present⟩
            exact ⟨other, List.mem_cons_of_mem _ among, present⟩

/-- Searching one list again and again takes all of it that fits, in its order, and then
finds nothing. -/
theorem fitEach_replicate (candidates : List Item)
    (apart : candidates.Pairwise fun earlier later => conflicts later earlier = false)
    (itself : ∀ candidate ∈ candidates, conflicts candidate candidate = true) (count : Nat)
    (taken : List Item) :
    fitEach conflicts (List.replicate count candidates) taken =
      ((candidates.filter (fits conflicts taken)).take count).map some ++
        List.replicate (count - (candidates.filter (fits conflicts taken)).length) none := by
  induction count generalizing taken with
  | zero => simp [fitEach]
  | succ count ih =>
      rw [List.replicate_succ, fitEach]
      have head : firstFit conflicts candidates taken =
          (candidates.filter (fits conflicts taken)).head? :=
        (List.head?_filter ..).symm
      rw [head]
      cases free : candidates.filter (fits conflicts taken) with
      | nil => simp [ih, free, List.replicate_succ]
      | cons item rest =>
          have ordered := apart.filter (fits conflicts taken)
          rw [free] at ordered
          -- what has been taken conflicts with itself, and with none of the later candidates
          have left : candidates.filter (fits conflicts (taken ++ [item])) = rest := by
            have member : item ∈ candidates :=
              List.mem_of_mem_filter (by rw [free]; exact List.mem_cons_self)
            have both : candidates.filter (fits conflicts (taken ++ [item])) =
                (candidates.filter (fits conflicts taken)).filter fun other =>
                    !conflicts other item := by
              rw [List.filter_filter]
              refine List.filter_congr fun other _ => ?_
              rw [fits_append, Bool.and_comm]
              simp [fits]
            rw [both, free, List.filter_cons_of_neg (by simp [itself item member])]
            refine List.filter_eq_self.mpr fun other later => ?_
            rw [(List.pairwise_cons.mp ordered).1 other later]
            rfl
          rw [List.head?_cons, Option.toList_some, ih, left, List.take_succ_cons, List.map_cons,
            List.length_cons, Nat.add_sub_add_right, List.cons_append]

end Fitting

end Dockermock.Library
