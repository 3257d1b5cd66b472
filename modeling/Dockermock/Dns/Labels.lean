import Mathlib.Data.List.Induction
import Dockermock.Dns.DnsTree

/-!
The labels of composed names. Registrations and queries join a name, a dot and
the name of a network; `rsplit_generator` yields the labels of the network first
and then those of the name. Below the labels of a network the tree is what the
inserts with these labels have made of it, whatever else was inserted.
-/

namespace Dockermock.Dns

section Composition

def zoneLabels (zone : String) : List String := (zone.toList.splitOn '.').reverse.map String.ofList

def dotted (name zone : String) : String := name ++ "." ++ zone

def labelsOf (domain : List Char) : List String := rsplitFrom domain domain.length domain.length

theorem rfind_label (front label rest : List Char) (free : '.' ∉ label) :
    rfind (front ++ '.' :: (label ++ rest)) (front.length + label.length + 1) =
        some front.length := by
  induction label using List.reverseRecOn generalizing rest with
  | nil => simp [rfind]
  | append_singleton init last ih =>
      simp only [List.mem_append, List.mem_singleton, not_or] at free
      have here : (front ++ '.' :: (init ++ [last] ++ rest))[front.length + (init.length + 1)]? =
          some last := by
        rw [List.getElem?_append_right (Nat.le_add_right _ _), Nat.add_sub_cancel_left,
          List.getElem?_cons_succ]
        simp
      have other : some last ≠ some '.' := fun same => free.2 (Option.some.inj same).symm
      rw [List.length_append, List.length_singleton, rfind, here, if_neg other]
      simpa [Nat.add_assoc] using ih ([last] ++ rest) free.1

theorem rfind_free (label rest : List Char) (free : '.' ∉ label) :
    rfind (label ++ rest) label.length = none := by
  induction label using List.reverseRecOn generalizing rest with
  | nil => rfl
  | append_singleton init last ih =>
      simp only [List.mem_append, List.mem_singleton, not_or] at free
      have here : (init ++ [last] ++ rest)[init.length]? = some last := by simp
      have other : some last ≠ some '.' := fun same => free.2 (Option.some.inj same).symm
      rw [List.length_append, List.length_singleton, rfind, here, if_neg other]
      simpa using ih ([last] ++ rest) free.1

theorem rfind_append (front rest : List Char) (start : Nat) (inside : start ≤ front.length) :
    rfind (front ++ rest) start = rfind front start := by
  induction start with
  | zero => rfl
  | succ index ih =>
      rw [rfind, rfind, List.getElem?_append_left inside, ih (Nat.le_of_succ_le inside)]

theorem slice_append (front rest : List Char) (first last : Nat) (inside : last ≤ front.length) :
    slice (front ++ rest) first last = slice front first last := by
  rw [slice, slice, List.take_append_of_le_length inside]

theorem rsplitFrom_append (front rest : List Char) (fuel start : Nat)
    (inside : start ≤ front.length) :
    rsplitFrom (front ++ rest) fuel start = rsplitFrom front fuel start := by
  induction fuel generalizing start with
  | zero => rfl
  | succ fuel ih =>
      rw [rsplitFrom, rsplitFrom, rfind_append front rest start inside]
      cases found : rfind front start with
      | none => simp only [slice_append _ _ _ _ inside]
      | some dot =>
          have lower := rfind_lt front start dot found
          simp only [slice_append _ _ _ _ inside, ih dot (by omega)]

theorem labelsOf_label (front label : List Char) (free : '.' ∉ label) :
    labelsOf (front ++ '.' :: label) = String.ofList label :: labelsOf front := by
  have size : (front ++ '.' :: label).length = front.length + label.length + 1 := by
    simp [Nat.add_assoc]
  have last : slice (front ++ '.' :: label) (front.length + 1) (front.length + label.length + 1) =
      String.ofList label := by
    rw [slice, ← size, List.take_length, List.drop_append]
    simp
  have found := rfind_label front label [] free
  rw [List.append_nil] at found
  rw [labelsOf, size, rsplitFrom, if_neg (Nat.succ_ne_zero _), found]
  simp only [last]
  rw [rsplitFrom_append front _ _ _ (Nat.le_refl _),
    rsplitFrom_fuel front _ _ _ (Nat.le_refl _), labelsOf]

theorem labelsOf_free (label : List Char) (free : '.' ∉ label) (present : label ≠ []) :
    labelsOf label = [String.ofList label] := by
  have missed := rfind_free label [] free
  rw [List.append_nil] at missed
  cases label with
  | nil => exact absurd rfl present
  | cons first rest =>
      rw [labelsOf, List.length_cons, rsplitFrom, if_neg (Nat.succ_ne_zero _),
        ← List.length_cons, missed]
      simp [slice]

theorem cut_at_last (chars : List Char) (member : '.' ∈ chars) :
    ∃ front label, '.' ∉ label ∧ chars = front ++ '.' :: label := by
  induction chars using List.reverseRecOn with
  | nil => simp at member
  | append_singleton init last ih =>
      by_cases dot : last = '.'
      · exact ⟨init, [], by simp, by simp [dot]⟩
      · rcases ih (by simpa [Ne.symm dot] using member) with ⟨front, label, free, rfl⟩
        exact ⟨front, label ++ [last], by simp [free, Ne.symm dot], by simp⟩

theorem labelsOf_zone (front zone : List Char) :
    labelsOf (front ++ '.' :: zone) = (zone.splitOn '.').reverse.map String.ofList ++
        labelsOf front := by
  induction size : zone.length using Nat.strongRecOn generalizing zone with
  | _ count ih =>
      by_cases plain : '.' ∈ zone
      · -- The last label comes first; what is left in front of it is a shorter zone.
        rcases cut_at_last zone plain with ⟨earlier, label, free, rfl⟩
        have shorter : earlier.length < count := by
          rw [← size]
          simp
        have regrouped : front ++ '.' :: (earlier ++ '.' :: label) = (front ++ '.' :: earlier) ++
            '.' :: label := by
          simp
        rw [regrouped, labelsOf_label _ _ free, ih _ shorter earlier rfl,
          List.splitOn_append_cons_self, List.splitOn_eq_singleton free, List.reverse_append]
        rfl
      · rw [labelsOf_label front zone plain, List.splitOn_eq_singleton plain]
        rfl

theorem rsplitGenerator_dotted (name zone : String) :
    rsplitGenerator (dotted name zone) = zoneLabels zone ++ rsplitGenerator name := by
  have whole : (dotted name zone).toList = name.toList ++ '.' :: zone.toList := by simp [dotted]
  have composed := labelsOf_zone name.toList zone.toList
  rw [← whole] at composed
  exact composed

end Composition

section Below

open Library DnsTreeNode

variable {Addr : Type}

/-- What an insert makes of the node at a path: the same insert if it goes through the
node, and nothing otherwise. -/
theorem descend_insertAt (path labels : List String) (address : Addr) (node : DnsTreeNode Addr) :
    descend path (insertAt labels address node) =
      if path <+: labels then
        some (insertAt (labels.drop path.length) address ((descend path node).getD blank))
      else descend path node := by
  induction path generalizing labels node with
  | nil => simp [descend]
  | cons part rest ih =>
      rcases node with ⟨kids, stored⟩
      cases labels with
      | nil => simp [insertAt, descend, children]
      | cons label below =>
          simp only [insertAt, descend, children, lookup_assign, List.cons_prefix_cons]
          by_cases here : part = label
          · subst here
            simp only [↓reduceIte, ih, true_and, List.length_cons, List.drop_succ_cons]
            cases kids.lookup part with
            | none =>
                cases rest with
                | nil => simp [descend]
                | cons next later =>
                    have lost : descend (next :: later) (blank : DnsTreeNode Addr) = none := rfl
                    simp [lost]
            | some child => rfl
          · simp [here]

theorem descend_append (path below : List String) (node : DnsTreeNode Addr) :
    descend (path ++ below) node = (descend path node).bind (descend below) := by
  induction path generalizing node with
  | nil => rfl
  | cons part rest ih =>
      rw [List.cons_append, descend, descend]
      cases node.children.lookup part with
      | none => rfl
      | some child => exact ih child

namespace DnsTree

def insertsBelow (path : List String) (history : List (String × Addr)) : List (String × Addr) :=
  history.filter fun entry => path.isPrefixOf (rsplitGenerator entry.1)

theorem descend_insertAll (path : List String) (left right : List (String × Addr))
    (same : insertsBelow path left = insertsBelow path right) :
    descend path (insertAll left).root = descend path (insertAll right).root := by
  have alone (history : List (String × Addr)) :
      descend path (insertAll history).root =
          descend path (insertAll (insertsBelow path history)).root := by
    induction history using List.reverseRecOn with
    | nil => rfl
    | append_singleton earlier entry ih =>
        have last (before : List (String × Addr)) :
            (insertAll (before ++ [entry])).root =
              insertAt (rsplitGenerator entry.1) entry.2 (insertAll before).root := by
          rw [insertAll, List.foldl_append]
          rfl
        rw [last, descend_insertAt, insertsBelow, List.filter_append, ih]
        by_cases below : path <+: rsplitGenerator entry.1
        · have kept : [entry].filter
              (fun entry => path.isPrefixOf (rsplitGenerator entry.1)) = [entry] := by
            simp [below]
          rw [kept, last, descend_insertAt]
          rfl
        · have dropped :
              [entry].filter (fun entry => path.isPrefixOf (rsplitGenerator entry.1)) = [] := by
            simp [below]
          rw [dropped, List.append_nil, if_neg below]
          rfl
  rw [alone left, alone right, same]

theorem collectFrom_append (tree : DnsTree Addr) (query : String) (path below : List String)
    (labels : rsplitGenerator query = path ++ below) :
    tree.collectFrom query =
        (((descend path tree.root).bind (descend below)).map collectAll).getD [] := by
  rw [collectFrom, labels, descend_append]
  cases (descend path tree.root).bind (descend below) <;> rfl

theorem mem_collectFrom (tree : DnsTree Addr) (query : String) (address : Addr) :
    address ∈ tree.collectFrom query ↔
      ∃ below, readAt (rsplitGenerator query ++ below) tree.root = some address := by
  rw [collectFrom]
  cases found : descend (rsplitGenerator query) tree.root with
  | none => simp [readAt_lost _ _ _ found]
  | some node =>
      have valid := distinct_descend _ _ node tree.distinct found
      simp only [collect_all_entries, List.mem_map, Prod.exists, exists_eq_right,
        mem_entriesOf node valid, readAt_descend _ _ _ _ found]

end DnsTree

end Below

end Dockermock.Dns
