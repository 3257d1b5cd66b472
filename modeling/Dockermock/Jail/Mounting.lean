import Dockermock.Jail.Nesting
import Dockermock.Jail.Confinement

/-!
handle_mounts is looked at three times: for what create_jail acquires, for the
order in which the mounts come to lie on one another, and for the directories it
makes on the way. What is mounted is the same each time, and so is what
handle_unmount takes away.
-/

namespace Dockermock.Jail.Mounting

open Library Database Confinement

def mountedDir : Effect → Option (List String)
  | .mounted dir => some dir
  | _ => none

def mountedDirs (effects : List Effect) : List (List String) := effects.filterMap mountedDir

section Turns

variable (root : String)

def result (turn : Turn) : MountResult :=
  if (handleMount root turn).2 = false then .raised
  else if turn.goesThrough then .mounted
  else .failed

def userMount (turn : Turn) : UserMount := ⟨some turn.mount.source, result root turn⟩

variable {root}

theorem mountedDirs_append (left right : List Effect) :
    mountedDirs (left ++ right) = mountedDirs left ++ mountedDirs right := List.filterMap_append

theorem mountedDirs_inside (dirs : List (List String)) : mountedDirs (dirs.map .inside) = [] := by
  simp [mountedDirs, mountedDir]

theorem mountedDirs_target (volume : Bool) (dirs : List (List String)) :
    mountedDirs (dirs.map (.target volume)) = [] := by
  simp [mountedDirs, mountedDir]

/-- The effects of a turn mount on `path` if the turn comes back and the mount goes through. -/
def MountsOn (turn : Turn) (path : String) (done : List Effect × Bool) : Prop :=
  mountedDirs done.1 = if done.2 = true ∧ turn.goesThrough = true then [resolve path] else []

theorem mountsOn_raised (turn : Turn) (path : String) {effects : List Effect}
    (none : mountedDirs effects = []) : MountsOn turn path (effects, false) := by
  simp [MountsOn, none]

theorem finish_mountsOn (turn : Turn) (path : String) {effects : List Effect}
    (none : mountedDirs effects = []) : MountsOn turn path (finish turn path effects) := by
  rw [MountsOn, finish, mountedDirs_append, none]
  cases turn.goesThrough <;> simp [mountedDirs, mountedDir]

theorem makeDest_mountsOn (turn : Turn) (path : String) (made : List (List String))
    {effects : List Effect} (none : mountedDirs effects = []) :
    MountsOn turn path (makeDest turn path made effects) := by
  have still : mountedDirs (effects ++ (turn.fs.makedirsAfter made path).1.map .inside) = [] := by
    rw [mountedDirs_append, none, mountedDirs_inside, List.nil_append]
  rw [makeDest]
  split
  · exact finish_mountsOn turn path still
  · exact mountsOn_raised turn path still

theorem handleMount_mountsOn (turn : Turn) :
    MountsOn turn (mountDest root turn.mount.source) (handleMount root turn) := by
  rw [handleMount]
  dsimp only
  split
  · exact mountsOn_raised turn _ rfl
  · split
    · exact finish_mountsOn turn _ rfl
    · split
      · exact makeDest_mountsOn turn _ [] rfl
      · exact makeDest_mountsOn turn _ [] rfl
      · split
        · exact makeDest_mountsOn turn _ _ (mountedDirs_target _ _)
        · exact mountsOn_raised turn _ (mountedDirs_target _ _)

/-- create_jail acquires what the turns mount, and comes back when they do. -/
theorem handleMounts_acquired (turns : List Turn) (jail : State) :
    ∃ dests : List String, Jail.handleMounts root (turns.map (userMount root)) jail =
        ({ jail with acquired := jail.acquired ++ dests.map .mount },
          (Confinement.handleMounts root turns).2) ∧
      dests.map resolve = mountedDirs (Confinement.handleMounts root turns).1 := by
  induction turns generalizing jail with
  | nil => exact ⟨[], by simp [Jail.handleMounts, Confinement.handleMounts], rfl⟩
  | cons turn rest ih =>
      have mounts : MountsOn turn (mountDest root turn.mount.source) (handleMount root turn) :=
        handleMount_mountsOn turn
      rw [List.map_cons, Confinement.handleMounts]
      cases came : (handleMount root turn).2 with
      | false =>
          refine ⟨[], ?_, ?_⟩
          · simp [Jail.handleMounts, userMount, result, came]
          · simpa [MountsOn, came] using mounts.symm
      | true =>
          cases through : turn.goesThrough with
          | false =>
              obtain ⟨dests, acquired, dirs⟩ := ih jail
              refine ⟨dests, ?_, ?_⟩
              · simp [Jail.handleMounts, userMount, result, came, through, ← acquired]
              · simp only [MountsOn, through, Bool.false_eq_true, and_false, if_false] at mounts
                simp [mountedDirs_append, mounts, dirs]
          | true =>
              obtain ⟨dests, acquired, dirs⟩ :=
                ih (jail.acquire (.mount (mountDest root turn.mount.source)))
              refine ⟨mountDest root turn.mount.source :: dests, ?_, ?_⟩
              · simp only [Jail.handleMounts, userMount, result, came, through, acquired]
                simp [State.acquire]
              · simp only [MountsOn, came, through, and_self, if_true] at mounts
                simp [mountedDirs_append, mounts, dirs]

/-- The mounts that go through lie on one another in the order of the turns. -/
theorem handleMounts_stacked (turns : List Turn)
    (came : (Confinement.handleMounts root turns).2 = true) (stack : List (Mounted String Mount)) :
    (Nesting.handleMounts root ((turns.filter Turn.goesThrough).map Turn.mount) stack).map
      Mounted.path =
      (mountedDirs (Confinement.handleMounts root turns).1).reverse ++ stack.map Mounted.path := by
  induction turns generalizing stack with
  | nil => rfl
  | cons turn rest ih =>
      have mounts : MountsOn turn (mountDest root turn.mount.source) (handleMount root turn) :=
        handleMount_mountsOn turn
      rw [Confinement.handleMounts] at came ⊢
      dsimp only at came ⊢
      split at came
      · rename_i here
        rw [if_pos here, mountedDirs_append, List.reverse_append]
        rw [MountsOn, here] at mounts
        by_cases through : turn.goesThrough = true
        · rw [List.filter_cons_of_pos through, List.map_cons, Nesting.handleMounts, ih came, mounts]
          simp [through, Nesting.mounted, Nesting.dest]
        · rw [List.filter_cons_of_neg through, ih came, mounts]
          simp [through]
      · rename_i raised
        exact absurd came raised

end Turns

/-- handle_unmount is handed the directories that are taken off the stack. -/
theorem handleUnmount_unstacked (root : String) (results : Mount → MountResult)
    (mounts : List Mount) : ∃ dests : List String,
      Jail.handleUnmount root (mounts.map fun mount => ⟨some mount.source, results mount⟩) =
        dests.map .mount ∧
      ∀ stack, Nesting.handleUnmount root mounts stack = unmountAll (dests.map resolve) stack := by
  refine ⟨mounts.map fun mount => mountDest root mount.source, ?_, fun stack => ?_⟩
  · induction mounts with
    | nil => rfl
    | cons mount rest ih =>
        rw [List.map_cons, Jail.handleUnmount, ih]
        rfl
  · simp only [Nesting.handleUnmount_eq, List.map_map, Function.comp_def,
      Nesting.mounted, Nesting.dest]

end Dockermock.Jail.Mounting
