import Mathlib.Data.List.Perm.Basic
import Mathlib.Data.List.Nodup

/-!
Insertion-ordered dictionaries as association lists. An assignment to a key
already present keeps that key's position; a new key goes to the end. `Dict`
carries the distinctness of its keys, so the raw lemmas that need it are
applied once and never re-established by a user.
-/

namespace Dockermock.Library

variable {Key Value : Type} [DecidableEq Key]

def assign (key : Key) (value : Value) : List (Key × Value) → List (Key × Value)
  | [] => [(key, value)]
  | (other, old) :: rest =>
      if other = key then (key, value) :: rest else (other, old) :: assign key value rest

def discard (key : Key) (entries : List (Key × Value)) : List (Key × Value) :=
  entries.filter fun entry => entry.1 ≠ key

theorem lookup_cons_other (key probe : Key) (value : Value) (rest : List (Key × Value))
    (different : probe ≠ key) : ((key, value) :: rest).lookup probe = rest.lookup probe := by
  have test : (probe == key) = false := beq_eq_false_iff_ne.mpr different
  simp only [List.lookup_cons, test]

theorem lookup_assign (key probe : Key) (value : Value) (entries : List (Key × Value)) :
    (assign key value entries).lookup probe =
      if probe = key then some value else entries.lookup probe := by
  induction entries with
  | nil => by_cases same : probe = key <;> simp [assign, same]
  | cons entry rest ih =>
      obtain ⟨other, old⟩ := entry
      by_cases hit : other = key
      · subst other
        by_cases same : probe = key
        · simp [assign, same]
        · simp [assign, lookup_cons_other, same]
      · by_cases here : probe = other
        · subst here
          simp [assign, hit]
        · simp [assign, hit, lookup_cons_other, here, ih]

theorem lookup_discard (key probe : Key) (entries : List (Key × Value)) :
    (discard key entries).lookup probe = if probe = key then none else entries.lookup probe := by
  unfold discard
  induction entries with
  | nil => simp
  | cons entry rest ih =>
      obtain ⟨other, old⟩ := entry
      by_cases dropped : other = key
      · subst dropped
        rw [List.filter_cons_of_neg (by simp), ih]
        by_cases same : probe = other
        · simp [same]
        · simp [lookup_cons_other, same]
      · rw [List.filter_cons_of_pos (by simpa using dropped)]
        by_cases here : probe = other
        · subst here
          simp [dropped]
        · rw [lookup_cons_other _ _ _ _ here, lookup_cons_other _ _ _ _ here, ih]

theorem assign_keys (key probe : Key) (value : Value) (entries : List (Key × Value)) :
    probe ∈ (assign key value entries).map Prod.fst ↔
      probe = key ∨ probe ∈ entries.map Prod.fst := by
  induction entries with
  | nil => simp [assign]
  | cons entry rest ih =>
      obtain ⟨other, old⟩ := entry
      by_cases hit : other = key
      · simp [assign, hit]
      · simp only [assign, hit, ↓reduceIte, List.map_cons, List.mem_cons, ih]
        tauto

theorem assign_distinct (key : Key) (value : Value) (entries : List (Key × Value))
    (distinct : (entries.map Prod.fst).Nodup) :
    ((assign key value entries).map Prod.fst).Nodup := by
  induction entries with
  | nil => simp [assign]
  | cons entry rest ih =>
      obtain ⟨other, old⟩ := entry
      rw [List.map_cons, List.nodup_cons] at distinct
      by_cases hit : other = key
      · rw [assign, if_pos hit, List.map_cons, List.nodup_cons]
        exact ⟨hit ▸ distinct.1, distinct.2⟩
      · rw [assign, if_neg hit, List.map_cons, List.nodup_cons]
        refine ⟨?_, ih distinct.2⟩
        rw [assign_keys]
        rintro (same | member)
        · exact hit same
        · exact distinct.1 member

theorem assign_forall (motive : Key × Value → Prop) (key : Key) (value : Value)
    (entries : List (Key × Value)) (added : motive (key, value))
    (old : ∀ entry ∈ entries, motive entry) :
    ∀ entry ∈ assign key value entries, motive entry := by
  induction entries with
  | nil => simpa [assign] using added
  | cons entry rest ih =>
      obtain ⟨other, stored⟩ := entry
      have tail := ih (fun e member => old e (List.mem_cons_of_mem _ member))
      by_cases hit : other = key
      · intro candidate member
        rw [assign, if_pos hit, List.mem_cons] at member
        rcases member with same | later
        · exact same ▸ added
        · exact old candidate (List.mem_cons_of_mem _ later)
      · intro candidate member
        rw [assign, if_neg hit, List.mem_cons] at member
        rcases member with same | later
        · exact old candidate (same ▸ List.mem_cons_self)
        · exact tail candidate later

theorem lookup_eq_some_iff_mem (entries : List (Key × Value))
    (distinct : (entries.map Prod.fst).Nodup) (key : Key) (value : Value) :
    entries.lookup key = some value ↔ (key, value) ∈ entries := by
  induction entries with
  | nil => simp
  | cons entry rest ih =>
      obtain ⟨other, stored⟩ := entry
      rw [List.map_cons, List.nodup_cons] at distinct
      by_cases hit : key = other
      · subst hit
        have absent : (key, value) ∉ rest := fun member =>
          distinct.1 (List.mem_map.mpr ⟨(key, value), member, rfl⟩)
        simp [absent, eq_comm]
      · simp [lookup_cons_other, hit, ih distinct.2]

theorem assign_fresh (key : Key) (value : Value) (entries : List (Key × Value))
    (absent : entries.lookup key = none) :
    assign key value entries = entries ++ [(key, value)] := by
  induction entries with
  | nil => rfl
  | cons entry rest ih =>
      rcases entry with ⟨other, old⟩
      by_cases hit : other = key
      · simp [hit] at absent
      · have elsewhere : key ≠ other := fun same => hit same.symm
        rw [lookup_cons_other _ _ _ _ elsewhere] at absent
        simp [assign, hit, ih absent]

section AssignAll

def assignAll (entries : List (Key × Value)) (start : List (Key × Value)) : List (Key × Value) :=
  entries.foldl (fun entries entry => assign entry.1 entry.2 entries) start

theorem assignAll_distinct (entries start : List (Key × Value))
    (distinct : (start.map Prod.fst).Nodup) : ((assignAll entries start).map Prod.fst).Nodup := by
  induction entries generalizing start with
  | nil => exact distinct
  | cons entry rest ih => exact ih _ (assign_distinct entry.1 entry.2 start distinct)

theorem assignAll_forall (motive : Key × Value → Prop) (entries start : List (Key × Value))
    (added : ∀ entry ∈ entries, motive entry) (old : ∀ entry ∈ start, motive entry) :
    ∀ entry ∈ assignAll entries start, motive entry := by
  induction entries generalizing start with
  | nil => exact old
  | cons entry rest ih =>
      rw [List.forall_mem_cons] at added
      exact ih _ added.2 (assign_forall motive entry.1 entry.2 start added.1 old)

theorem assignAll_keys (entries start : List (Key × Value)) (key : Key) :
    key ∈ (assignAll entries start).map Prod.fst ↔
        key ∈ entries.map Prod.fst ∨ key ∈ start.map Prod.fst := by
  induction entries generalizing start with
  | nil => exact (or_iff_right List.not_mem_nil).symm
  | cons entry rest ih =>
      refine (ih _).trans ?_
      rw [assign_keys, List.map_cons, List.mem_cons, or_assoc, or_left_comm]

theorem lookup_assignAll_of_absent (entries start : List (Key × Value)) (key : Key)
    (absent : key ∉ entries.map Prod.fst) :
    (assignAll entries start).lookup key = start.lookup key := by
  induction entries generalizing start with
  | nil => rfl
  | cons entry rest ih =>
      rw [List.map_cons, List.mem_cons, not_or] at absent
      exact (ih _ absent.2).trans
        ((lookup_assign entry.1 key entry.2 start).trans (if_neg absent.1))

theorem lookup_assignAll_of_agree (entries start : List (Key × Value)) (key : Key) (value : Value)
    (member : key ∈ entries.map Prod.fst)
    (agree : ∀ entry ∈ entries, entry.1 = key → entry.2 = value) :
    (assignAll entries start).lookup key = some value := by
  induction entries generalizing start with
  | nil => cases member
  | cons entry rest ih =>
      rw [List.forall_mem_cons] at agree
      by_cases later : key ∈ rest.map Prod.fst
      · exact ih _ later agree.2
      · have here : key = entry.1 := (List.mem_cons.mp member).resolve_right later
        refine (lookup_assignAll_of_absent rest _ key later).trans
          ((lookup_assign entry.1 key entry.2 start).trans ?_)
        rw [if_pos here, agree.1 here.symm]

theorem lookup_assignAll_of_mem (entries start : List (Key × Value))
    (distinct : (entries.map Prod.fst).Nodup) (key : Key) (value : Value)
    (member : (key, value) ∈ entries) :
    (assignAll entries start).lookup key = some value := by
  refine lookup_assignAll_of_agree entries start key value (List.mem_map_of_mem member) ?_
  rintro ⟨other, stored⟩ among rfl
  exact Option.some.inj
    (((lookup_eq_some_iff_mem entries distinct other stored).mpr among).symm.trans
    ((lookup_eq_some_iff_mem entries distinct other value).mpr member))

end AssignAll

theorem countP_assign (holds : Key × Value → Bool) (key : Key) (old value : Value)
    (entries : List (Key × Value)) (held : entries.lookup key = some old)
    (same : holds (key, value) = holds (key, old)) :
    (assign key value entries).countP holds = entries.countP holds := by
  induction entries with
  | nil => cases held
  | cons entry rest ih =>
      rcases entry with ⟨other, stored⟩
      by_cases hit : other = key
      · subst hit
        have kept : stored = old := by simpa using held
        subst kept
        simp [assign, List.countP_cons, same]
      · have elsewhere : key ≠ other := fun equal => hit equal.symm
        rw [lookup_cons_other _ _ _ _ elsewhere] at held
        simp [assign, hit, List.countP_cons, ih held]

theorem discard_absent (key : Key) (entries : List (Key × Value))
    (absent : key ∉ entries.map Prod.fst) : discard key entries = entries := by
  apply List.filter_eq_self.mpr
  intro entry member
  have different : entry.1 ≠ key := fun same => absent (List.mem_map.mpr ⟨entry, member, same⟩)
  simpa using different

theorem countP_discard (holds : Key × Value → Bool) (key : Key) (value : Value)
    (entries : List (Key × Value)) (distinct : (entries.map Prod.fst).Nodup)
    (held : entries.lookup key = some value) :
    entries.countP holds =
      (discard key entries).countP holds + if holds (key, value) then 1 else 0 := by
  induction entries with
  | nil => cases held
  | cons entry rest ih =>
      rcases entry with ⟨other, stored⟩
      rw [List.map_cons, List.nodup_cons] at distinct
      by_cases hit : other = key
      · subst hit
        have kept : stored = value := by simpa using held
        subst kept
        have dropped : discard other ((other, stored) :: rest) = rest := by
          rw [← discard_absent other rest distinct.1]
          simp [discard]
        rw [dropped, List.countP_cons]
      · have elsewhere : key ≠ other := fun equal => hit equal.symm
        rw [lookup_cons_other _ _ _ _ elsewhere] at held
        have kept : discard key ((other, stored) :: rest) =
            (other, stored) :: discard key rest := by
          simp [discard, hit]
        rw [kept, List.countP_cons, List.countP_cons, ih distinct.2 held]
        omega

structure Dict (Key Value : Type) where
  entries : List (Key × Value)
  distinct : (entries.map Prod.fst).Nodup

namespace Dict

def empty : Dict Key Value := ⟨[], List.nodup_nil⟩

def keys (dict : Dict Key Value) : List Key := dict.entries.map Prod.fst

def get (dict : Dict Key Value) (key : Key) : Option Value := dict.entries.lookup key

def set (dict : Dict Key Value) (key : Key) (value : Value) : Dict Key Value :=
  ⟨assign key value dict.entries, assign_distinct key value dict.entries dict.distinct⟩

def pop (dict : Dict Key Value) (key : Key) : Dict Key Value :=
  ⟨discard key dict.entries, dict.distinct.sublist (List.filter_sublist.map Prod.fst)⟩

omit [DecidableEq Key] in
@[simp] theorem keys_empty : (empty : Dict Key Value).keys = [] := rfl

@[simp] theorem get_empty (key : Key) : (empty : Dict Key Value).get key = none := rfl

theorem get_set (dict : Dict Key Value) (key probe : Key) (value : Value) :
    (dict.set key value).get probe = if probe = key then some value else dict.get probe :=
  lookup_assign key probe value dict.entries

theorem get_pop (dict : Dict Key Value) (key probe : Key) :
    (dict.pop key).get probe = if probe = key then none else dict.get probe :=
  lookup_discard key probe dict.entries

theorem get_eq_some_iff (dict : Dict Key Value) (key : Key) (value : Value) :
    dict.get key = some value ↔ (key, value) ∈ dict.entries :=
  lookup_eq_some_iff_mem dict.entries dict.distinct key value

theorem mem_keys_iff (dict : Dict Key Value) (key : Key) :
    key ∈ dict.keys ↔ ∃ value, dict.get key = some value := by
  constructor
  · intro member
    obtain ⟨⟨_, value⟩, held, rfl⟩ := List.mem_map.mp member
    exact ⟨value, (dict.get_eq_some_iff _ value).mpr held⟩
  · rintro ⟨value, held⟩
    exact List.mem_map.mpr ⟨(key, value), (dict.get_eq_some_iff key value).mp held, rfl⟩

theorem mem_keys_set (dict : Dict Key Value) (key probe : Key) (value : Value) :
    probe ∈ (dict.set key value).keys ↔ probe = key ∨ probe ∈ dict.keys :=
  assign_keys key probe value dict.entries

def assigned (entries : List (Key × Value)) : Dict Key Value :=
  ⟨assignAll entries [], assignAll_distinct entries [] List.nodup_nil⟩

theorem get_assigned_of_mem {entries : List (Key × Value)} (distinct : (entries.map Prod.fst).Nodup)
    {key : Key} {value : Value} (member : (key, value) ∈ entries) :
    (assigned entries).get key = some value :=
  lookup_assignAll_of_mem entries [] distinct key value member

theorem mem_of_get_assigned {entries : List (Key × Value)} {key : Key} {value : Value}
    (held : (assigned entries).get key = some value) : (key, value) ∈ entries :=
  assignAll_forall (· ∈ entries) entries [] (fun _ member => member)
    (fun _ none => absurd none List.not_mem_nil)
    (key, value) ((get_eq_some_iff _ key value).mp held)

section Counting
variable (holds : Key → Value → Bool)

def count (dict : Dict Key Value) : Nat := dict.entries.countP fun entry => holds entry.1 entry.2

omit [DecidableEq Key] in
@[simp] theorem count_empty : (empty : Dict Key Value).count holds = 0 := rfl

theorem count_set_fresh (dict : Dict Key Value) (key : Key) (value : Value)
    (absent : dict.get key = none) :
    (dict.set key value).count holds = dict.count holds + if holds key value then 1 else 0 := by
  have appended : (dict.set key value).entries = dict.entries ++ [(key, value)] :=
    assign_fresh key value dict.entries absent
  simp [count, appended, List.countP_append, List.countP_cons]

theorem count_set_same (dict : Dict Key Value) (key : Key) (old value : Value)
    (held : dict.get key = some old) (same : holds key value = holds key old) :
    (dict.set key value).count holds = dict.count holds :=
  countP_assign _ key old value dict.entries held same

theorem count_pop (dict : Dict Key Value) (key : Key) (value : Value)
    (held : dict.get key = some value) :
    dict.count holds = (dict.pop key).count holds + if holds key value then 1 else 0 :=
  countP_discard _ key value dict.entries dict.distinct held

theorem count_pos_iff (dict : Dict Key Value) :
    0 < dict.count holds ↔ ∃ key value, dict.get key = some value ∧ holds key value = true := by
  unfold count
  rw [List.countP_pos_iff]
  constructor
  · rintro ⟨⟨key, value⟩, member, passes⟩
    exact ⟨key, value, (dict.get_eq_some_iff key value).mpr member, passes⟩
  · rintro ⟨key, value, held, passes⟩
    exact ⟨(key, value), (dict.get_eq_some_iff key value).mp held, passes⟩

theorem unique_of_count (dict : Dict Key Value) (single : dict.count holds ≤ 1) {left right : Key}
    {first second : Value} (atLeft : dict.get left = some first) (passes : holds left first = true)
    (atRight : dict.get right = some second) (also : holds right second = true) : left = right := by
  by_contra different
  have rest : (dict.pop left).get right = some second := by
    simpa [get_pop, Ne.symm different] using atRight
  have others := (count_pos_iff holds (dict.pop left)).mpr ⟨right, second, rest, also⟩
  have counted := dict.count_pop holds left first atLeft
  simp only [passes, ↓reduceIte] at counted
  omega

end Counting

end Dict

end Dockermock.Library
