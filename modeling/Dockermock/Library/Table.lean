import Dockermock.Library.Dict

/-!
Tables with an automatically incremented key, and a connection that shows its
own uncommitted changes. The sequence of a table never falls below a key in use,
so a new row always comes last and under a key no other row has.
-/

namespace Dockermock.Library

structure Table (Row : Type) where
  rows : Dict Nat Row
  sequence : Nat
  bounded : ∀ id ∈ rows.keys, id ≤ sequence

namespace Table

variable {Row : Type}

def empty : Table Row := ⟨.empty, 0, by simp⟩

def nextId (table : Table Row) : Nat := table.sequence + 1

def insert (table : Table Row) (row : Row) : Table Row where
  rows := table.rows.set table.nextId row
  sequence := table.nextId
  bounded := by
    intro id member
    rcases (Dict.mem_keys_set _ _ _ _).mp member with same | old
    · exact Nat.le_of_eq same
    · exact Nat.le_succ_of_le (table.bounded id old)

/-- An INSERT that a UNIQUE constraint may refuse. -/
def insertUnless (table : Table Row) (conflicts : Row → Bool) (row : Row) : Option (Table Row) :=
  if table.rows.entries.any (fun entry => conflicts entry.2) then none else some (table.insert row)

/-- An INSERT OR IGNORE that is ignored: the key it would have had is not given out again. -/
def skip (table : Table Row) : Table Row where
  rows := table.rows
  sequence := table.nextId
  bounded := fun id member => Nat.le_succ_of_le (table.bounded id member)

/-- A DELETE; the sequence stays, so that no id is given out again. -/
def delete (table : Table Row) (where' : Nat → Row → Bool) : Table Row where
  rows := ⟨table.rows.entries.filter fun entry => !where' entry.1 entry.2,
    table.rows.distinct.sublist (List.filter_sublist.map Prod.fst)⟩
  sequence := table.sequence
  bounded := by
    intro id member
    rcases List.mem_map.mp member with ⟨entry, kept, rfl⟩
    exact table.bounded _ (List.mem_map_of_mem (List.mem_filter.mp kept).1)

def select (table : Table Row) (where' : Row → Bool) : List (Nat × Row) :=
  table.rows.entries.filter fun entry => where' entry.2

theorem nextId_absent (table : Table Row) : table.nextId ∉ table.rows.keys := fun member =>
  absurd (table.bounded _ member) (Nat.not_succ_le_self _)

theorem insert_entries (table : Table Row) (row : Row) :
    (table.insert row).rows.entries = table.rows.entries ++ [(table.nextId, row)] := by
  apply assign_fresh
  by_contra present
  rcases Option.ne_none_iff_exists'.mp present with ⟨old, held⟩
  exact table.nextId_absent ((Dict.mem_keys_iff _ _).mpr ⟨old, held⟩)

theorem select_insert (table : Table Row) (where' : Row → Bool) (row : Row) :
    (table.insert row).select where' =
      table.select where' ++ if where' row then [(table.nextId, row)] else [] := by
  rw [select, insert_entries, List.filter_append]
  by_cases wanted : where' row <;> simp [select, wanted]

theorem select_ids_nodup (table : Table Row) (where' : Row → Bool) :
    ((table.select where').map Prod.fst).Nodup :=
  table.rows.distinct.sublist (List.filter_sublist.map Prod.fst)

theorem mem_select (table : Table Row) (where' : Row → Bool) (id : Nat) (row : Row) :
    (id, row) ∈ table.select where' ↔ table.rows.get id = some row ∧ where' row = true := by
  rw [select, List.mem_filter, Dict.get_eq_some_iff]

theorem insertUnless_eq_some_iff (table : Table Row) (conflicts : Row → Bool) (row : Row)
    (after : Table Row) : table.insertUnless conflicts row = some after ↔
      (∀ entry ∈ table.rows.entries, conflicts entry.2 = false) ∧ after = table.insert row := by
  unfold insertUnless
  by_cases refused : table.rows.entries.any (fun entry => conflicts entry.2)
  · simp only [refused, ↓reduceIte, reduceCtorEq, false_iff, not_and]
    rcases List.any_eq_true.mp refused with ⟨entry, member, conflict⟩
    intro free
    rw [free entry member] at conflict
    cases conflict
  · simp only [refused, Bool.false_eq_true, ↓reduceIte, Option.some.injEq,
      @eq_comm _ (table.insert row)]
    simp only [List.any_eq_true, not_exists, not_and, Bool.not_eq_true] at refused
    exact (and_iff_right refused).symm

end Table

/-- What has been committed, and what every statement of the connection sees. -/
structure Connection (Tables : Type) where
  committed : Tables
  view : Tables

namespace Connection

variable {Tables : Type}

def commit (connection : Connection Tables) : Connection Tables :=
  ⟨connection.view, connection.view⟩

def rollback (connection : Connection Tables) : Connection Tables :=
  ⟨connection.committed, connection.committed⟩

def write (connection : Connection Tables) (tables : Tables) : Connection Tables :=
  ⟨connection.committed, tables⟩

end Connection

end Dockermock.Library
