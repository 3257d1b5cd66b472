import Mathlib.Data.List.Dedup
import Mathlib.Data.List.Induction
import Dockermock.Library.Dict

/-!
Histories of keyed writes. `latest` reads a history as the finite map it leaves
behind; a store that starts empty and whose write changes exactly the written
key is described by `latest`, whatever its own representation.
-/

namespace Dockermock.Library

variable {Key Value : Type} [DecidableEq Key]

def latest (history : List (Key × Value)) (key : Key) : Option Value :=
  history.reverse.lookup key

def writtenKeys (history : List (Key × Value)) : List Key := (history.map Prod.fst).dedup

@[simp] theorem latest_nil (key : Key) : latest ([] : List (Key × Value)) key = none := rfl

theorem latest_concat (history : List (Key × Value)) (key probe : Key) (value : Value) :
    latest (history ++ [(key, value)]) probe =
      if probe = key then some value else latest history probe := by
  unfold latest
  rw [List.reverse_append, List.reverse_singleton, List.singleton_append, List.lookup_cons]
  by_cases same : probe = key
  · simp [same]
  · have test : (probe == key) = false := beq_eq_false_iff_ne.mpr same
    simp [test, same]

theorem latest_of_first (key : Key) (value : Value) (later : List (Key × Value))
    (others : ∀ write ∈ later, write.1 ≠ key) :
    latest ((key, value) :: later) key = some value := by
  induction later using List.reverseRecOn with
  | nil => simp [latest]
  | append_singleton earlier write ih =>
      have different : key ≠ write.1 := (others write (by simp)).symm
      rw [← List.cons_append, latest_concat, if_neg different]
      exact ih fun other member => others other (List.mem_append_left _ member)

theorem latest_isSome_iff (history : List (Key × Value)) (key : Key) :
    (∃ value, latest history key = some value) ↔ key ∈ history.map Prod.fst := by
  induction history using List.reverseRecOn with
  | nil => simp
  | append_singleton earlier write ih =>
      obtain ⟨written, value⟩ := write
      simp only [latest_concat, List.map_append, List.mem_append, List.map_singleton,
        List.mem_singleton]
      by_cases same : key = written
      · simp [same]
      · simp [same, ih]

theorem mem_of_latest (history : List (Key × Value)) (key : Key) (value : Value)
    (last : latest history key = some value) : (key, value) ∈ history := by
  induction history using List.reverseRecOn with
  | nil => cases last
  | append_singleton earlier write ih =>
      obtain ⟨written, stored⟩ := write
      rw [latest_concat] at last
      by_cases same : key = written
      · rw [if_pos same] at last
        cases last
        simp [same]
      · rw [if_neg same] at last
        exact List.mem_append_left _ (ih last)

theorem mem_writtenKeys (history : List (Key × Value)) (key : Key) :
    key ∈ writtenKeys history ↔ ∃ value, latest history key = some value := by
  rw [latest_isSome_iff, writtenKeys, List.mem_dedup]

/-- The finite map a history leaves behind, one entry for each written key. -/
def current (history : List (Key × Value)) : List (Key × Value) :=
  (writtenKeys history).filterMap fun key => (latest history key).map fun value => (key, value)

theorem mem_current (history : List (Key × Value)) (key : Key) (value : Value) :
    (key, value) ∈ current history ↔ latest history key = some value := by
  rw [current, List.mem_filterMap]
  constructor
  · rintro ⟨written, _, held⟩
    obtain ⟨stored, found, same⟩ := Option.map_eq_some_iff.mp held
    cases same
    exact found
  · intro found
    exact ⟨key, (mem_writtenKeys history key).mpr ⟨value, found⟩, by simp [found]⟩

theorem current_nodup (history : List (Key × Value)) : (current history).Nodup := by
  apply List.Nodup.filterMap _ (List.nodup_dedup _)
  intro left right entry atLeft atRight
  obtain ⟨_, _, rfl⟩ := Option.map_eq_some_iff.mp atLeft
  obtain ⟨_, _, same⟩ := Option.map_eq_some_iff.mp atRight
  exact (congrArg Prod.fst same).symm

theorem latest_rename {Renamed : Type} [DecidableEq Renamed] (rename : Key → Renamed)
    (history : List (Key × Value)) (key : Key)
    (apart : ∀ written ∈ history.map Prod.fst, rename written = rename key → written = key) :
    latest (history.map fun write => (rename write.1, write.2)) (rename key) =
      latest history key := by
  induction history using List.reverseRecOn with
  | nil => rfl
  | append_singleton earlier write ih =>
      obtain ⟨written, value⟩ := write
      have earlierApart := ih fun other member => apart other (by simp at member ⊢; tauto)
      rw [List.map_append, List.map_singleton, latest_concat, latest_concat, earlierApart]
      have last := apart written (by simp)
      by_cases same : key = written
      · simp [same]
      · have renamedApart : rename key ≠ rename written := fun equal => same (last equal.symm).symm
        simp [same, renamedApart]

theorem latest_map {Converted : Type} (convert : Value → Converted) (history : List (Key × Value))
    (key : Key) : latest (history.map fun write => (write.1, convert write.2)) key =
        (latest history key).map convert := by
  induction history using List.reverseRecOn with
  | nil => rfl
  | append_singleton earlier write ih =>
      rw [List.map_append, List.map_singleton, latest_concat, latest_concat, ih]
      split <;> rfl

section Stores
variable {Store Entry : Type}

/-- A store whose write changes what is read under one key, and only there, holds the latest
value of every key after a history of writes. -/
theorem replay_reads_latest (read : Store → Key → Option Value) (write : Store → Entry → Store)
    (item : Entry → Key × Value) (initial : Store) (blank : ∀ key, read initial key = none)
    (updates : ∀ store entry probe, read (write store entry) probe =
      if probe = (item entry).1 then some (item entry).2 else read store probe)
    (history : List Entry) (key : Key) :
    read (history.foldl write initial) key = latest (history.map item) key := by
  induction history using List.reverseRecOn with
  | nil => exact blank key
  | append_singleton earlier entry ih =>
      rw [List.foldl_append, List.foldl_cons, List.foldl_nil, updates, ih, List.map_append,
        List.map_singleton, latest_concat]

theorem lookup_assignAll (history : List (Key × Value)) (key : Key) :
    (assignAll history []).lookup key = latest history key := by
  have reads := replay_reads_latest (fun store key => List.lookup key store)
    (fun store (write : Key × Value) => assign write.1 write.2 store) id [] (fun _ => rfl)
    (fun store write probe => lookup_assign write.1 probe write.2 store) history key
  rwa [List.map_id] at reads

end Stores

end Dockermock.Library
