import Mathlib.Data.List.Basic

/-!
Mounts as a stack, the newest first. A mount hides the older ones on its
directory and below it, and unmounting takes away the topmost mount at a path if
nothing hides it.
-/

namespace Dockermock.Library

variable {Name Source : Type}

structure Mounted (Name Source : Type) where
  path : List Name
  source : Source
  deriving DecidableEq, Repr

/-- Somewhere in the stack, with no newer mount on its path or above it. -/
def Visible (stack : List (Mounted Name Source)) (mounted : Mounted Name Source) : Prop :=
  ∃ newer older, stack = newer ++ mounted :: older ∧ ∀ other ∈ newer, ¬ other.path <+: mounted.path

def unmount [DecidableEq Name] (path : List Name) :
    List (Mounted Name Source) → List (Mounted Name Source)
  | [] => []
  | mounted :: older =>
      if mounted.path = path then older
      else if mounted.path <+: path then mounted :: older
      else mounted :: unmount path older

def mountAll (mounts stack : List (Mounted Name Source)) : List (Mounted Name Source) :=
  mounts.foldl (fun stack mounted => mounted :: stack) stack

def unmountAll [DecidableEq Name] (paths : List (List Name)) (stack : List (Mounted Name Source)) :
    List (Mounted Name Source) :=
  paths.foldl (fun stack path => unmount path stack) stack

/-- No mount comes to lie on an earlier one of the list, or above it. -/
def Unhidden (mounts : List (Mounted Name Source)) : Prop :=
  mounts.Pairwise fun earlier later => ¬ later.path <+: earlier.path

theorem mountAll_cons (mounted : Mounted Name Source) (rest stack : List (Mounted Name Source)) :
    mountAll (mounted :: rest) stack = mountAll rest (mounted :: stack) := rfl

theorem unmountAll_cons [DecidableEq Name] (path : List Name) (rest : List (List Name))
    (stack : List (Mounted Name Source)) :
    unmountAll (path :: rest) stack = unmountAll rest (unmount path stack) := rfl

theorem mountAll_eq (mounts stack : List (Mounted Name Source)) :
    mountAll mounts stack = mounts.reverse ++ stack := by
  induction mounts generalizing stack with
  | nil => rfl
  | cons mounted rest ih =>
      rw [List.reverse_cons, List.append_assoc]
      exact ih (mounted :: stack)

theorem visible_mountAll_iff (after stack : List (Mounted Name Source))
    (mounted : Mounted Name Source) (distinct : ∀ other ∈ after, other.path ≠ mounted.path) :
    Visible (mountAll after (mounted :: stack)) mounted ↔
        ∀ later ∈ after, ¬ later.path <+: mounted.path := by
  rw [mountAll_eq]
  constructor
  · rintro ⟨newer, older, split, free⟩ later member hides
    rcases List.append_eq_append_iff.mp split with ⟨middle, rfl, tail⟩ | ⟨middle, cut, tail⟩
    · exact free later (List.mem_append_left _ (List.mem_reverse.mpr member)) hides
    · cases middle with
      | nil =>
          rw [List.append_nil] at cut
          exact free later (cut ▸ List.mem_reverse.mpr member) hides
      | cons head rest =>
          have same : mounted = head := (List.cons.inj tail).1
          have among : mounted ∈ after := by
            rw [← List.mem_reverse, cut, same]
            exact List.mem_append_right _ List.mem_cons_self
          exact distinct mounted among rfl
  · intro free
    exact ⟨after.reverse, _, rfl, fun other member => free other (List.mem_reverse.mp member)⟩

theorem all_visible_iff (mounts stack : List (Mounted Name Source))
    (distinct : (mounts.map Mounted.path).Nodup) :
    (∀ mounted ∈ mounts, Visible (mountAll mounts stack) mounted) ↔ Unhidden mounts := by
  induction mounts generalizing stack with
  | nil => simp [Unhidden]
  | cons mounted rest ih =>
      rw [List.map_cons, List.nodup_cons] at distinct
      have others : ∀ other ∈ rest, other.path ≠ mounted.path := fun other member same =>
        distinct.1 (List.mem_map.mpr ⟨other, member, same⟩)
      rw [List.forall_mem_cons, Unhidden, List.pairwise_cons]
      exact and_congr (visible_mountAll_iff rest stack mounted others)
        (ih (mounted :: stack) distinct.2)

theorem unmount_free [DecidableEq Name] (newer older : List (Mounted Name Source))
    (mounted : Mounted Name Source) (free : ∀ other ∈ newer, ¬ other.path <+: mounted.path) :
    unmount mounted.path (newer ++ mounted :: older) = newer ++ older := by
  induction newer with
  | nil => simp [unmount]
  | cons other rest ih =>
      rw [List.forall_mem_cons] at free
      have different : other.path ≠ mounted.path := fun same => free.1 (same ▸ List.prefix_rfl)
      rw [List.cons_append, unmount, if_neg different, if_neg free.1, ih free.2]
      rfl

/-- Taking the mounts away in the order they were made restores the stack, if none hides an
earlier one: each is still visible when its turn comes. -/
theorem unmountAll_mountAll [DecidableEq Name] (mounts stack : List (Mounted Name Source))
    (unhidden : Unhidden mounts) :
    unmountAll (mounts.map Mounted.path) (mountAll mounts stack) = stack := by
  induction mounts with
  | nil => rfl
  | cons mounted rest ih =>
      rw [Unhidden, List.pairwise_cons] at unhidden
      have first : unmount mounted.path (mountAll (mounted :: rest) stack) =
          mountAll rest stack := by
        rw [mountAll_eq, mountAll_eq, List.reverse_cons, List.append_assoc]
        exact unmount_free _ _ _ fun other member => unhidden.1 other (List.mem_reverse.mp member)
      calc unmountAll ((mounted :: rest).map Mounted.path) (mountAll (mounted :: rest) stack)
          = unmountAll (rest.map Mounted.path)
              (unmount mounted.path (mountAll (mounted :: rest) stack)) :=
            unmountAll_cons _ _ _
        _ = unmountAll (rest.map Mounted.path) (mountAll rest stack) := by rw [first]
        _ = stack := ih unhidden.2

end Dockermock.Library
