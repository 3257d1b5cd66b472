import Mathlib.Data.List.Forall2
import Mathlib.Data.List.Pairwise
import Mathlib.Data.List.TakeWhile

/-!
A map over a list that may fail at any element, lists put together from pieces,
the removal of elements by the positions at which they were found, and the cut of
a list at a separator.
-/

namespace Dockermock.Library

variable {Source Target : Type}

section Partial

theorem mapM_eq_some_iff (function : Source → Option Target) (sources : List Source)
    (targets : List Target) : sources.mapM function = some targets ↔
      List.Forall₂ (fun source target => function source = some target) sources targets := by
  induction sources generalizing targets with
  | nil => simp [List.forall₂_nil_left_iff, eq_comm]
  | cons source rest ih =>
      simp only [List.mapM_cons, List.forall₂_cons_left_iff, ← ih]
      cases function source with
      | none => simp
      | some target => cases rest.mapM function <;> simp [eq_comm]

theorem mapM_isSome_iff (function : Source → Option Target) (sources : List Source) :
    (sources.mapM function).isSome = true ↔ ∀ source ∈ sources, function source ≠ none := by
  induction sources with
  | nil => simp
  | cons source rest ih =>
      simp only [List.mapM_cons, List.forall_mem_cons, ← ih]
      cases function source with
      | none => simp
      | some target => cases rest.mapM function <;> simp

variable {function : Source → Option Target} {sources : List Source} {targets : List Target}

theorem mem_of_mapM (mapped : sources.mapM function = some targets) {target : Target}
    (member : target ∈ targets) : ∃ source ∈ sources, function source = some target := by
  have both := (mapM_eq_some_iff function sources targets).mp mapped
  induction both generalizing target with
  | nil => cases member
  | @cons source head rest tail same _ ih =>
      rcases List.mem_cons.mp member with rfl | later
      · exact ⟨source, List.mem_cons_self, same⟩
      · rcases ih ((mapM_eq_some_iff function rest tail).mpr ‹_›) later with ⟨other, among, equal⟩
        exact ⟨other, List.mem_cons_of_mem _ among, equal⟩

theorem mapM_mem (mapped : sources.mapM function = some targets) {source : Source}
    (member : source ∈ sources) : ∃ target ∈ targets, function source = some target := by
  have both := (mapM_eq_some_iff function sources targets).mp mapped
  induction both generalizing source with
  | nil => cases member
  | @cons first head rest tail same _ ih =>
      rcases List.mem_cons.mp member with rfl | later
      · exact ⟨head, List.mem_cons_self, same⟩
      · rcases ih ((mapM_eq_some_iff function rest tail).mpr ‹_›) later with ⟨other, among, equal⟩
        exact ⟨other, List.mem_cons_of_mem _ among, equal⟩

theorem mapM_map_eq {Key : Type} (left : Source → Key) (right : Target → Key)
    (kept : ∀ source target, function source = some target → right target = left source)
    (mapped : sources.mapM function = some targets) : targets.map right = sources.map left := by
  have both := (mapM_eq_some_iff function sources targets).mp mapped
  induction both with
  | nil => rfl
  | cons same _ ih =>
      rw [List.map_cons, List.map_cons, kept _ _ same, ih ((mapM_eq_some_iff _ _ _).mpr ‹_›)]

end Partial

section Pieces

theorem length_flatMap_le (left right : Source → List Target) (sources : List Source)
    (pointwise : ∀ source ∈ sources, (right source).length ≤ (left source).length) :
    (sources.flatMap right).length ≤ (sources.flatMap left).length := by
  induction sources with
  | nil => exact Nat.le_refl _
  | cons source rest ih =>
      rw [List.forall_mem_cons] at pointwise
      rw [List.flatMap_cons, List.flatMap_cons, List.length_append, List.length_append]
      exact Nat.add_le_add pointwise.1 (ih pointwise.2)

theorem flatMap_eq_flatMap_iff (left right : Source → List Target) (sources : List Source)
    (pointwise : ∀ source ∈ sources, (right source).length ≤ (left source).length) :
    sources.flatMap left = sources.flatMap right ↔
        ∀ source ∈ sources, left source = right source := by
  refine ⟨fun same => ?_, fun equal => List.flatMap_congr equal⟩
  induction sources with
  | nil => exact fun _ member => absurd member List.not_mem_nil
  | cons source rest ih =>
      rw [List.forall_mem_cons] at pointwise
      rw [List.flatMap_cons, List.flatMap_cons] at same
      have total := congrArg List.length same
      rw [List.length_append, List.length_append] at total
      have later := length_flatMap_le left right rest pointwise.2
      have here := pointwise.1
      obtain ⟨first, others⟩ := List.append_inj same (by omega)
      exact List.forall_mem_cons.mpr ⟨first, ih pointwise.2 others⟩

end Pieces

section Positions

variable {Item : Type}

/-- The positions of the wanted items, counted from a given one. -/
def positionsFrom (wanted : Item → Bool) : Nat → List Item → List Nat
  | _, [] => []
  | base, item :: rest =>
      if wanted item then base :: positionsFrom wanted (base + 1) rest
        else positionsFrom wanted (base + 1) rest

/-- Removal one position after the other, each moved down by what has gone before. -/
def removePositions : List Nat → Nat → List Item → List Item
  | [], _, items => items
  | position :: rest, removed, items =>
      removePositions rest (removed + 1) (items.eraseIdx (position - removed))

theorem positionsFrom_length (wanted : Item → Bool) (base : Nat) (items : List Item) :
    (positionsFrom wanted base items).length = items.countP wanted := by
  induction items generalizing base with
  | nil => rfl
  | cons item rest ih =>
      by_cases hit : wanted item = true
      · rw [positionsFrom, if_pos hit, List.length_cons, ih, List.countP_cons_of_pos hit]
      · rw [positionsFrom, if_neg hit, ih, List.countP_cons_of_neg hit]

theorem removePositions_from (wanted : Item → Bool) (front items : List Item) (removed : Nat) :
    removePositions (positionsFrom wanted (front.length + removed) items) removed (front ++ items) =
      front ++ items.filter fun item => !wanted item := by
  induction items generalizing front removed with
  | nil => simp [positionsFrom, removePositions]
  | cons item rest ih =>
      by_cases hit : wanted item = true
      · rw [positionsFrom, if_pos hit, removePositions, Nat.add_sub_cancel, Nat.add_assoc]
        have erased : (front ++ item :: rest).eraseIdx front.length = front ++ rest := by
          rw [List.eraseIdx_append_of_length_le (Nat.le_refl _), Nat.sub_self,
            List.eraseIdx_cons_zero]
        rw [erased, ih]
        simp [hit]
      · have kept := ih (front ++ [item]) removed
        rw [positionsFrom, if_neg hit, List.filter_cons_of_pos (by simpa using hit)]
        simpa [Nat.add_right_comm] using kept

theorem removePositions_eq_filter (wanted : Item → Bool) (items : List Item) :
    removePositions (positionsFrom wanted 0 items) 0 items = items.filter fun item =>
        !wanted item := by
  simpa using removePositions_from wanted [] items 0

end Positions

section Ordering

variable {Item : Type}

theorem pairwise_either {before : Item → Item → Prop} {items : List Item}
    (ordered : items.Pairwise before) {first second : Item} (firstIn : first ∈ items)
    (secondIn : second ∈ items) (apart : first ≠ second) :
    before first second ∨ before second first := by
  have symmetric : Std.Symm fun first second => before first second ∨ before second first :=
    ⟨fun _ _ either => either.symm⟩
  have either : items.Pairwise fun first second => before first second ∨ before second first :=
    ordered.imp Or.inl
  exact either.forall firstIn secondIn apart

end Ordering

section Filtering

variable {Item : Type}

theorem filter_eq_filter_iff (left right : Item → Bool) (items : List Item) :
    items.filter left = items.filter right ↔ ∀ item ∈ items, left item = true ↔
        right item = true := by
  constructor
  · intro same item member
    have both := congrArg (item ∈ ·) same
    simpa [List.mem_filter, member] using both
  · intro pointwise
    exact List.filter_congr fun item member => Bool.eq_iff_iff.mpr (pointwise item member)

theorem countP_filter_not_le_iff (bound : Nat) (first second : Item → Bool) (items : List Item)
    (apart : second = first ∨ ∀ item, first item = true → second item = false)
    (few : items.countP first ≤ bound) :
    (items.filter fun item => !first item).countP second ≤ bound ↔ items.countP second ≤ bound := by
  rw [List.countP_filter]
  rcases apart with same | apart
  · rw [same]
    simp [few]
  · have pointwise : items.countP (fun item => second item && !first item) =
        items.countP second := by
      refine List.countP_congr fun item _ => ?_
      cases hit : first item with
      | true => simp [apart item hit]
      | false => simp
    rw [pointwise]

end Filtering

section Indexed

variable {Item : Type}

theorem pairwise_zipIdx {related : Item → Item → Prop} {items : List Item}
    (pairs : items.Pairwise related) (base : Nat) :
    (items.zipIdx base).Pairwise fun first second => related first.1 second.1 := by
  rw [← List.pairwise_map, List.zipIdx_map_fst]
  exact pairs

theorem mem_take_filter_zipIdx (wanted : Item → Bool) (items : List Item) (item : Item)
    (position base count : Nat) :
    (item, base + position) ∈ ((items.zipIdx base).filter fun entry => wanted entry.1).take count ↔
      items[position]? = some item ∧ wanted item = true ∧
          (items.take position).countP wanted < count := by
  induction items generalizing position base count with
  | nil => simp
  | cons first rest ih =>
      -- the positions of the rest are greater ones
      have later : ∀ count, (item, base) ∉
          ((rest.zipIdx (base + 1)).filter fun entry => wanted entry.1).take count := by
        intro count member
        have beyond :=
          List.le_snd_of_mem_zipIdx (List.mem_of_mem_filter (List.mem_of_mem_take member))
        exact absurd beyond (by simp)
      have next : ∀ position, base + (position + 1) = base + 1 + position :=
        fun position => by omega
      rw [List.zipIdx_cons]
      cases chosen : wanted first with
      | false =>
          rw [List.filter_cons_of_neg (by simp [chosen])]
          cases position with
          | zero =>
              refine iff_of_false (later count) fun ⟨here, good, _⟩ => ?_
              rw [List.getElem?_cons_zero, Option.some.injEq] at here
              rw [here, good] at chosen
              cases chosen
          | succ position =>
              rw [next position, ih position (base + 1) count, List.getElem?_cons_succ,
                List.take_succ_cons, List.countP_cons_of_neg (by simp [chosen])]
      | true =>
          rw [List.filter_cons_of_pos (by simpa using chosen)]
          cases count with
          | zero => simp
          | succ count =>
              rw [List.take_succ_cons, List.mem_cons]
              cases position with
              | zero =>
                  rw [Nat.add_zero, or_iff_left (later count), List.getElem?_cons_zero,
                    Option.some.injEq, Prod.mk.injEq, List.take_zero, List.countP_nil]
                  exact ⟨fun same => ⟨same.1.symm, same.1 ▸ chosen, Nat.succ_pos _⟩,
                    fun same => ⟨same.1.symm, rfl⟩⟩
              | succ position =>
                  have apart : (item, base + (position + 1)) ≠ (first, base) := by simp
                  rw [or_iff_right apart, next position, ih position (base + 1) count,
                    List.getElem?_cons_succ,
                    List.take_succ_cons, List.countP_cons_of_pos chosen, Nat.succ_lt_succ_iff]

end Indexed

theorem insertIdx_append_length {Entry : Type} (front back : List Entry) (entry : Entry) :
    (front ++ back).insertIdx front.length entry = front ++ entry :: back := by
  induction front with
  | nil => rfl
  | cons first rest ih =>
      rw [List.cons_append, List.length_cons, List.insertIdx_succ_cons, ih, List.cons_append]

section Cut

variable {Symbol : Type} [DecidableEq Symbol] {separator : Symbol} {front : List Symbol}

theorem takeWhile_separator (rest : List Symbol) (free : separator ∉ front) :
    (front ++ separator :: rest).takeWhile (· ≠ separator) = front := by
  rw [List.takeWhile_append_of_pos, List.takeWhile_cons_of_neg (by simp), List.append_nil]
  intro symbol member
  exact decide_eq_true (ne_of_mem_of_not_mem member free)

theorem dropWhile_separator (rest : List Symbol) (free : separator ∉ front) :
    (front ++ separator :: rest).dropWhile (· ≠ separator) = separator :: rest := by
  rw [List.dropWhile_append_of_pos, List.dropWhile_cons_of_neg (by simp)]
  intro symbol member
  exact decide_eq_true (ne_of_mem_of_not_mem member free)

theorem takeWhile_free (free : separator ∉ front) : front.takeWhile (· ≠ separator) = front :=
  List.takeWhile_eq_self_iff.mpr fun _ member => decide_eq_true (ne_of_mem_of_not_mem member free)

theorem dropWhile_free (free : separator ∉ front) : front.dropWhile (· ≠ separator) = [] :=
  List.dropWhile_eq_nil_iff.mpr fun _ member => decide_eq_true (ne_of_mem_of_not_mem member free)

theorem cut_unique {front' rest rest' : List Symbol} (free : separator ∉ front)
    (free' : separator ∉ front')
    (same : front ++ separator :: rest = front' ++ separator :: rest') :
    front = front' ∧ rest = rest' := by
  have heads := takeWhile_separator rest free
  have tails := dropWhile_separator rest free
  rw [same, takeWhile_separator rest' free'] at heads
  rw [same, dropWhile_separator rest' free'] at tails
  exact ⟨heads.symm, (List.cons.inj tails).2.symm⟩

end Cut

end Dockermock.Library
