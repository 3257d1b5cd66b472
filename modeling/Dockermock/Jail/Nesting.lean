import Dockermock.Library.MountStack
import Dockermock.Database.Atomicity
import Dockermock.Jail.Setup

/-!
User mounts below one another. handle_container_mounts sorts by the key of the
request's map, the host path or volume name, in descending order; handle_mounts
mounts in this order at the path in the container, and handle_unmount takes the
mounts away in the same order.
-/

namespace Dockermock.Jail.Nesting

open Library Database

def dest (root : String) (mount : Mount) : List String := resolve (mountDest root mount.source)

def mounted (root : String) (mount : Mount) : Mounted String Mount := ⟨dest root mount, mount⟩

/-- handle_mounts, with every mount going through. -/
def handleMounts (root : String) :
    List Mount → List (Mounted String Mount) → List (Mounted String Mount)
  | [], stack => stack
  | mount :: rest, stack => handleMounts root rest (mounted root mount :: stack)

def handleUnmount (root : String) :
    List Mount → List (Mounted String Mount) → List (Mounted String Mount)
  | [], stack => stack
  | mount :: rest, stack => handleUnmount root rest (unmount (dest root mount) stack)

theorem handleMounts_eq (root : String) (mounts : List Mount)
    (stack : List (Mounted String Mount)) :
    handleMounts root mounts stack = mountAll (mounts.map (mounted root)) stack := by
  induction mounts generalizing stack with
  | nil => rfl
  | cons mount rest ih => rw [handleMounts, ih, List.map_cons, mountAll_cons]

theorem handleUnmount_eq (root : String) (mounts : List Mount)
    (stack : List (Mounted String Mount)) : handleUnmount root mounts stack =
        unmountAll ((mounts.map (mounted root)).map Mounted.path) stack := by
  induction mounts generalizing stack with
  | nil => rfl
  | cons mount rest ih =>
      rw [handleUnmount, ih, List.map_cons, List.map_cons, unmountAll_cons, mounted]

/-- After handle_mounts every mount is visible in the jail, and handle_unmount leaves none. -/
structure SetUpAndTakenDown (root : String) (mounts : List Mount)
    (stack : List (Mounted String Mount)) : Prop where
  visible : ∀ mount ∈ mounts, resolve root <+: dest root mount ∧
    Visible (handleMounts root mounts stack) (mounted root mount)
  removed : handleUnmount root mounts (handleMounts root mounts stack) = stack

/-- The paths in the container stay in the jail, and the keys sort as the paths nest. -/
structure OuterFirst (root : String) (mounts : List Mount) : Prop where
  inside : ∀ mount ∈ mounts, resolve root <+: dest root mount
  sorted : ∀ outer ∈ mounts, ∀ inner ∈ mounts, dest root outer <+: dest root inner →
    dest root outer ≠ dest root inner → inner.target < outer.target

/-- In the order of the keys, no mount hides an earlier one exactly if the keys sort as the
paths nest. -/
theorem unhidden_iff (root : String) (mounts : List Mount)
    (distinct : (mounts.map (dest root)).Nodup)
    (descending : mounts.Pairwise fun earlier later => later.target < earlier.target) :
    Unhidden (mounts.map (mounted root)) ↔ ∀ outer ∈ mounts, ∀ inner ∈ mounts,
      dest root outer <+: dest root inner → dest root outer ≠ dest root inner →
          inner.target < outer.target := by
  simp only [Unhidden, List.pairwise_map, mounted]
  constructor
  · intro unhidden outer outerIn inner innerIn above apart
    have different : outer ≠ inner := fun same => apart (congrArg (dest root) same)
    rcases pairwise_either (descending.and unhidden) outerIn innerIn different with
      outerEarlier | innerEarlier
    · exact outerEarlier.1
    · exact absurd above innerEarlier.2
  · intro sorted
    have separate : mounts.Pairwise fun first second => dest root first ≠ dest root second :=
      List.pairwise_map.mp distinct
    refine (descending.and separate).imp_of_mem
      fun {earlier later} earlierIn laterIn both hides => ?_
    have reversed := sorted later laterIn earlier earlierIn hides both.2.symm
    exact String.lt_asymm both.1 reversed

/-- Start and stop handle nested mounts exactly where the keys sort as the paths nest. -/
theorem setUpAndTakenDown_iff (host : Database.Host) (imageVolumes : List (String × Bool))
    (userMounts : List (String × MountSpec)) (mounts : List Mount)
    (made : handleContainerMounts host imageVolumes userMounts = some mounts) (root : String)
    (distinct : (mounts.map (dest root)).Nodup) (stack : List (Mounted String Mount)) :
    SetUpAndTakenDown root mounts stack ↔ OuterFirst root mounts := by
  have descending := handleContainerMounts_sorted made
  have paths : ((mounts.map (mounted root)).map Mounted.path).Nodup := by
    have same : Mounted.path ∘ mounted root = dest root := funext fun mount => by
      rw [Function.comp_apply, mounted]
    rwa [List.map_map, same]
  have seen := all_visible_iff (mounts.map (mounted root)) stack paths
  rw [List.forall_mem_map, ← handleMounts_eq, unhidden_iff root mounts distinct descending] at seen
  constructor
  · intro setUp
    exact ⟨fun mount member => (setUp.visible mount member).1,
      seen.mp fun mount member => (setUp.visible mount member).2⟩
  · intro outerFirst
    refine ⟨fun mount member =>
      ⟨outerFirst.inside mount member, seen.mpr outerFirst.sorted mount member⟩, ?_⟩
    rw [handleUnmount_eq, handleMounts_eq]
    exact unmountAll_mountAll
      _ _ ((unhidden_iff root mounts distinct descending).mpr outerFirst.sorted)

section Instances

def twoMounts (data logs : String) : List (String × MountSpec) :=
  [(data, ⟨some "bind", some "/data", false⟩), (logs, ⟨some "bind", some "/data/logs", false⟩)]

def dataMount (target : String) : Mount := ⟨"bind", "/data", target, false⟩

def logsMount (target : String) : Mount := ⟨"bind", "/data/logs", target, false⟩

theorem setUpAndTakenDown_of_descending :
    SetUpAndTakenDown "/jails/containers/1/root" [dataMount "/srv/b", logsMount "/srv/a"] [] :=
  (setUpAndTakenDown_iff workingHost [] (twoMounts "/srv/b" "/srv/a") [dataMount "/srv/b",
    logsMount "/srv/a"] (by decide +kernel) "/jails/containers/1/root" (by decide +kernel) []).mpr
      ⟨by decide +kernel, by decide +kernel⟩

/-- The other way round the logs are mounted first, and the data directory hides them. The
unmount of the logs then finds no mount, and they stay. -/
theorem logs_hidden_and_left :
    handleContainerMounts workingHost [] (twoMounts "/srv/a" "/srv/b") =
        some [logsMount "/srv/b", dataMount "/srv/a"] ∧
      ([logsMount "/srv/b", dataMount "/srv/a"].map (dest "/jails/containers/1/root")).Nodup ∧
      ¬ SetUpAndTakenDown "/jails/containers/1/root" [logsMount "/srv/b",
          dataMount "/srv/a"] [] := by
  refine ⟨by decide +kernel, by decide +kernel, fun setUp => ?_⟩
  have stays : handleUnmount "/jails/containers/1/root" [logsMount "/srv/b", dataMount "/srv/a"]
      (handleMounts "/jails/containers/1/root" [logsMount "/srv/b", dataMount "/srv/a"] []) ≠
        [] := by decide +kernel
  exact stays setUp.removed

end Instances

end Dockermock.Jail.Nesting
