import Mathlib.Logic.Function.Basic

/-!
The descriptor table of a process. An open takes the least free number, and what
it opens is closed on exec; a duplicate under another number is inherited, and one
onto the same number changes nothing. The table carries a number behind which all
are free, so that there always is a least one.
-/

namespace Dockermock.Library

structure Descriptor (File : Type) where
  file : File
  inheritable : Bool
  deriving DecidableEq, Repr

structure Descriptors (File : Type) where
  slot : Nat → Option (Descriptor File)
  bound : Nat
  free : ∀ fd, bound ≤ fd → slot fd = none

namespace Descriptors

variable {File : Type}

def none : Descriptors File := ⟨fun _ => .none, 0, fun _ _ => rfl⟩

section Operations

def put (table : Descriptors File) (fd : Nat) (entry : Option (Descriptor File)) :
    Descriptors File where
  slot := Function.update table.slot fd entry
  bound := max table.bound (fd + 1)
  free := fun other behind => by
    rw [Function.update_of_ne (by omega), table.free other (by omega)]

/-- The least free number from `fd` on, among so many. -/
def leastFrom (slot : Nat → Option (Descriptor File)) : Nat → Nat → Nat
  | 0, fd => fd
  | count + 1, fd => if (slot fd).isNone then fd else leastFrom slot count (fd + 1)

def least (table : Descriptors File) : Nat := leastFrom table.slot table.bound 0

def opened (table : Descriptors File) (file : File) : Descriptors File :=
  table.put table.least (some ⟨file, false⟩)

/-- `os.dup2(old, new)`, nothing for a number that is free -/
def dup2 (table : Descriptors File) (old new : Nat) : Option (Descriptors File) :=
  (table.slot old).map fun entry => if old = new then table
    else table.put new (some ⟨entry.file, true⟩)

def close (table : Descriptors File) (fd : Nat) : Option (Descriptors File) :=
  (table.slot fd).map fun _ => table.put fd .none

/-- The files that a program finds open after exec. -/
def inherited (table : Descriptors File) (fd : Nat) : Option File :=
  (table.slot fd).bind fun entry => if entry.inheritable then some entry.file else .none

end Operations

section Slots
variable (table : Descriptors File)

theorem put_slot (fd other : Nat) (entry : Option (Descriptor File)) :
    (table.put fd entry).slot other = if other = fd then entry else table.slot other :=
  Function.update_apply table.slot fd entry other

theorem leastFrom_spec (slot : Nat → Option (Descriptor File)) (count fd : Nat)
    (end' : slot (fd + count) = .none) (below : ∀ other < fd, slot other ≠ .none) :
    slot (leastFrom slot count fd) = .none ∧ ∀ other < leastFrom slot count fd,
        slot other ≠ .none := by
  induction count generalizing fd with
  | zero => exact ⟨end', below⟩
  | succ count ih =>
      rw [leastFrom]
      split
      · rename_i here
        exact ⟨Option.isNone_iff_eq_none.mp here, below⟩
      · rename_i taken
        refine ih (fd + 1) ?_ fun other less => ?_
        · rw [Nat.add_assoc, Nat.add_comm 1]
          exact end'
        · rcases Nat.lt_succ_iff_lt_or_eq.mp less with less | rfl
          · exact below other less
          · exact fun empty => taken (Option.isNone_iff_eq_none.mpr empty)

theorem least_free : table.slot table.least = .none :=
  (leastFrom_spec table.slot table.bound 0 (table.free _ (Nat.le_add_left _ _)) (by simp)).1

theorem taken_below {fd : Nat} (below : fd < table.least) : table.slot fd ≠ .none :=
  (leastFrom_spec table.slot table.bound 0 (table.free _ (Nat.le_add_left _ _)) (by simp)).2 fd
    below

theorem least_le {fd : Nat} (free : table.slot fd = .none) : table.least ≤ fd :=
  Nat.le_of_not_lt fun below => table.taken_below below free

theorem opened_slot (file : File) (fd : Nat) :
    (table.opened file).slot fd = if fd = table.least then some ⟨file, false⟩ else table.slot fd :=
  table.put_slot _ _ _

theorem least_opened (file : File) : table.least < (table.opened file).least := by
  refine Nat.lt_of_not_le fun reached => ?_
  have free := (table.opened file).least_free
  rw [opened_slot] at free
  split at free
  · cases free
  · rename_i other
    exact table.taken_below (Nat.lt_of_le_of_ne reached other) free

theorem dup2_spec {old : Nat} {entry : Descriptor File} (held : table.slot old = some entry)
    (new : Nat) : ∃ after, table.dup2 old new = some after ∧
      ∀ fd, after.slot fd = if fd = new ∧ old ≠ new then some ⟨entry.file, true⟩
          else table.slot fd := by
  rw [dup2, held, Option.map_some]
  by_cases same : old = new
  · exact ⟨table, by rw [if_pos same], fun fd => by simp [same]⟩
  · refine ⟨_, by rw [if_neg same], fun fd => ?_⟩
    rw [put_slot]
    simp [same]

theorem close_spec {fd : Nat} {entry : Descriptor File} (held : table.slot fd = some entry) :
    ∃ after, table.close fd = some after ∧
      ∀ other, after.slot other = if other = fd then .none else table.slot other := by
  rw [close, held, Option.map_some]
  exact ⟨_, rfl, fun other => table.put_slot fd other .none⟩

theorem inherited_opened (file : File) : (table.opened file).inherited = table.inherited := by
  funext fd
  rw [inherited, inherited, opened_slot]
  split
  · rename_i here
    rw [here, table.least_free]
    rfl
  · rfl

theorem inherited_openedAll (files : List File) :
    (files.foldl opened table).inherited = table.inherited := by
  induction files generalizing table with
  | nil => rfl
  | cons file rest ih => rw [List.foldl_cons, ih, inherited_opened]

end Slots

end Descriptors

end Dockermock.Library
