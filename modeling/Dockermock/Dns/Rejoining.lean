import Dockermock.Dns.Labels

/-!
The way back from labels to a domain. `rsplit_generator` yields every label of a
domain, the empty ones included, except for the one in front of a leading dot:
there `start` has come to zero, and the loop ends before the label is cut. So
`.a` has the labels of `a`, and each of the two takes the other's node.
-/

namespace Dockermock.Dns

open DnsTreeNode

def rejoined (domain : String) : String := ".".intercalate (rsplitGenerator domain).reverse

def LeadingDot (domain : String) : Prop := domain.toList.head? = some '.'

instance (domain : String) : Decidable (LeadingDot domain) := inferInstanceAs (Decidable (_ = _))

structure KeptApart (left right : String) : Prop where
  left_rejoined : rejoined left = left
  right_rejoined : rejoined right = right
  distinct : left ≠ right → rsplitGenerator left ≠ rsplitGenerator right
  stored : left ≠ right → ∀ {Addr : Type} (tree : DnsTree Addr) (address other : Addr),
    readAt (rsplitGenerator left)
      ((tree.insert left address).insert right other).root = some address

def everyLabel (domain : List Char) : List String := (domain.splitOn '.').map String.ofList

theorem intercalate_everyLabel (domain : List Char) :
    ".".intercalate (everyLabel domain) = String.ofList domain := by
  apply String.toList_injective
  rw [String.toList_intercalate, everyLabel, List.map_map]
  have plain : String.toList ∘ String.ofList = id := by
    funext label
    exact String.toList_ofList
  rw [plain, List.map_id]
  exact (List.intercalate_splitOn '.').trans String.toList_ofList.symm

theorem rsplitGenerator_leading {domain : String} {rest : List Char}
    (leading : domain.toList = '.' :: rest) :
    rsplitGenerator domain = (everyLabel rest).reverse := by
  have labels := labelsOf_zone [] rest
  rw [List.nil_append, ← leading] at labels
  rw [everyLabel, ← List.map_reverse]
  exact labels.trans (List.append_nil _)

theorem rsplitGenerator_inner {domain : String} (nonempty : domain ≠ "")
    (inner : ¬ LeadingDot domain) :
    rsplitGenerator domain = (everyLabel domain.toList).reverse := by
  have some : domain.toList ≠ [] := by simpa using nonempty
  rw [everyLabel, ← List.map_reverse]
  by_cases dotted : '.' ∈ domain.toList
  · obtain ⟨front, zone, whole, free⟩ := List.eq_append_cons_of_mem dotted
    have present : front ≠ [] := by
      rintro rfl
      exact inner (by rw [LeadingDot, whole]; rfl)
    have labels := labelsOf_zone front zone
    rw [labelsOf_free front free present, ← whole] at labels
    rw [whole, List.splitOn_append_cons_self_of_not_mem free, List.reverse_cons, List.map_append]
    exact labels
  · rw [List.splitOn_eq_singleton dotted]
    exact labelsOf_free _ dotted some

theorem rejoined_iff (domain : String) : rejoined domain = domain ↔ ¬ LeadingDot domain := by
  constructor
  · intro same leading
    obtain ⟨rest, whole⟩ := List.head?_eq_some_iff.mp leading
    rw [rejoined, rsplitGenerator_leading whole, List.reverse_reverse,
      intercalate_everyLabel] at same
    have shorter := congrArg (fun text => text.toList.length) same
    rw [String.toList_ofList, whole, List.length_cons] at shorter
    omega
  · intro inner
    by_cases empty : domain = ""
    · rw [empty]
      rfl
    · rw [rejoined, rsplitGenerator_inner empty inner, List.reverse_reverse, intercalate_everyLabel,
        String.ofList_toList]

theorem rsplitGenerator_injective {left right : String} (leftInner : ¬ LeadingDot left)
    (rightInner : ¬ LeadingDot right) (same : rsplitGenerator left = rsplitGenerator right) :
    left = right := by
  calc left = rejoined left := ((rejoined_iff left).mpr leftInner).symm
    _ = rejoined right := by rw [rejoined, rejoined, same]
    _ = right := (rejoined_iff right).mpr rightInner

/-- The labels of two domains join to the domains again and keep their nodes apart exactly when
neither begins with a dot. -/
theorem keptApart_iff (left right : String) :
    KeptApart left right ↔ ¬ LeadingDot left ∧ ¬ LeadingDot right := by
  constructor
  · intro apart
    exact ⟨(rejoined_iff left).mp apart.left_rejoined, (rejoined_iff right).mp apart.right_rejoined⟩
  · rintro ⟨leftInner, rightInner⟩
    have distinct : left ≠ right → rsplitGenerator left ≠ rsplitGenerator right :=
      fun different same => different (rsplitGenerator_injective leftInner rightInner same)
    refine ⟨(rejoined_iff left).mpr leftInner, (rejoined_iff right).mpr rightInner, distinct, ?_⟩
    intro different Addr tree address other
    have second :=
      readAt_insertAt (rsplitGenerator right) (rsplitGenerator left) other
        (tree.insert left address).root
    rw [if_neg (distinct different)] at second
    have first := readAt_insertAt (rsplitGenerator left) (rsplitGenerator left) address tree.root
    rw [if_pos rfl] at first
    exact second.trans first

/-- `a` loses its address to `.a`. -/
theorem leading_dot_overwrites : rsplitGenerator ".a" = rsplitGenerator "a" ∧
    readAt (rsplitGenerator "a") ((DnsTree.empty.insert "a" 1).insert ".a" 2).root = some 2 ∧
    ¬ ∀ left right, KeptApart left right := by
  refine ⟨by decide, by decide, fun claimed => ?_⟩
  exact (claimed ".a" "a").distinct (by decide) (by decide)

end Dockermock.Dns
