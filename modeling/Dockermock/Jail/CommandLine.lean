import Dockermock.Jail.VolumeNames

/-!
The volume arguments of the create command. classify_mount tells a directory
from a volume, on a system it does not know by another test than on Linux; the
mounts are collected in a map whose keys are what stands in front of the first
colon, and a third field is looked at only where there is no fourth.
-/

namespace Dockermock.Jail.VolumeNames

open Library Database

section Fallback

def mountSource (mount : String) : String := String.ofList ((mount.toList.splitOn ':').headD [])

/-- classify_mount of a mount string; nothing where it raises ValueError -/
def classifyMountStr (system : System) (mount : String) : Option String :=
  if (mount.toList.splitOn ':').length < 2 then none
    else some (classifyMount system (mountSource mount))

theorem splitOn_colon {mount : String} (colon : ':' ∈ mount.toList) :
    ¬ (mount.toList.splitOn ':').length < 2 := by
  obtain ⟨front, rest, whole, free⟩ := List.eq_append_cons_of_mem colon
  rw [whole, List.splitOn_append_cons_self_of_not_mem free, List.length_cons]
  have some := List.length_pos_iff.mpr (List.splitOn_ne_nil ':' rest)
  omega

/-- On an unknown system a mount is classified as on Linux exactly when its source does not begin
with a dot, or has a slash in it. -/
theorem classifyMountStr_fallback_iff (mount : String) (colon : ':' ∈ mount.toList) :
    classifyMountStr .other mount = classifyMountStr .linux mount ↔
      (mountSource mount).toList.head? ≠ some '.' ∨ '/' ∈ (mountSource mount).toList := by
  rw [classifyMountStr, classifyMountStr, if_neg (splitOn_colon colon),
    if_neg (splitOn_colon colon), Option.some.injEq]
  generalize mountSource mount = source
  by_cases slash : '/' ∈ source.toList
  · simp [classifyMount, slash]
  · have relative : source.toList.head? ≠ some '/' :=
      fun first => slash (List.mem_of_mem_head? first)
    by_cases dot : source.toList.head? = some '.'
    · simp [classifyMount, slash, dot]
    · simp [classifyMount, slash, dot, relative]

theorem classifyMountStr_fallback_named :
    classifyMountStr .other "./data:/data" = classifyMountStr .linux "./data:/data" :=
  (classifyMountStr_fallback_iff "./data:/data" (by decide)).mpr (by decide)

/-- The working directory itself becomes a volume. -/
theorem working_directory_volume : classifyMountStr .linux ".:/app" = some "bind" ∧
    classifyMountStr .other ".:/app" = some "volume" ∧
    ¬ ∀ mount : String, ':' ∈ mount.toList →
        classifyMountStr .other mount = classifyMountStr .linux mount := by
  refine ⟨by decide, by decide, fun claimed => ?_⟩
  exact absurd (claimed ".:/app" (by decide)) (by decide)

end Fallback

section Volumes

structure VolumeSpec where
  source : String
  path : String
  flags : List String
  deriving DecidableEq

def specOf (argument : String) : Option VolumeSpec :=
  match (argument.toList.splitOn ':').map String.ofList with
  | source :: path :: flags => some ⟨source, path, flags⟩
  | _ => none

def VolumeSpec.key (system : System) (abspath : String → String) (spec : VolumeSpec) : String :=
  mountKey system abspath spec.source

/-- The mount that an argument asks for. -/
def VolumeSpec.mount (system : System) (spec : VolumeSpec) : MountSpec :=
  ⟨some (classifyMount system spec.source), some spec.path, spec.flags.head? = some "ro"⟩

/-- What the loop enters for an argument that it takes. -/
def VolumeSpec.entered (system : System) (abspath : String → String) (spec : VolumeSpec) :
    String × MountSpec :=
  (spec.key system abspath,
    ⟨some (classifyMount system spec.source), some spec.path, spec.flags = ["ro"]⟩)

/-- There are three fields, and the third is none of those that are allowed. -/
def VolumeSpec.badFlag (spec : VolumeSpec) : Prop :=
  spec.flags.length = 1 ∧ spec.flags.head? ∉ [some "", some "ro", some "rw"]

instance (spec : VolumeSpec) : Decidable spec.badFlag := inferInstanceAs (Decidable (_ ∧ _))

/-- A volume is made as soon as its argument is read; `created` says where that comes back. -/
def VolumeSpec.comesBack (system : System) (created : String → Bool) (spec : VolumeSpec) : Prop :=
  classifyMount system spec.source = "volume" → created spec.source = true

instance (system : System) (created : String → Bool) (spec : VolumeSpec) :
    Decidable (spec.comesBack system created) := inferInstanceAs (Decidable (_ → _))

/-- The mounts of the request that create_container sends, if it sends one: a bad argument and a
volume that cannot be made both end it before. -/
def sentMounts (system : System) (abspath : String → String) (created : String → Bool)
    (arguments : List String) : Option (List (String × MountSpec)) :=
  if ∀ spec ∈ arguments.filterMap specOf, spec.comesBack system created then
    cliVolumes system abspath arguments []
  else none

variable (system : System) (abspath : String → String) (created : String → Bool)
  (arguments : List String)

structure Carries : Prop where
  carried : ∀ mounts, sentMounts system abspath created arguments = some mounts →
    ∀ argument ∈ arguments, ∃ spec, specOf argument = some spec ∧
      mounts.lookup (spec.key system abspath) = some (spec.mount system)
  refused : ∀ argument ∈ arguments, ∀ spec, specOf argument = some spec →
    1 < spec.flags.length ∨ (∃ flag ∈ spec.flags.head?, flag ∉ ["", "ro", "rw"]) →
    sentMounts system abspath created arguments = none

def GoesThrough : Prop :=
  ∀ argument ∈ arguments, ∃ spec, specOf argument = some spec ∧ ¬ spec.badFlag ∧
    spec.comesBack system created

/-- No argument has a fourth field, and those with one source ask for the same. -/
def Compatible : Prop :=
  ∀ spec ∈ arguments.filterMap specOf, spec.flags.length ≤ 1 ∧
    ∀ other ∈ arguments.filterMap specOf, other.key system abspath = spec.key system abspath →
      other.mount system = spec.mount system

variable {system abspath created arguments}

theorem cliVolumes_cons (argument : String) (rest : List String)
    (volumes : List (String × MountSpec)) : cliVolumes system abspath (argument :: rest) volumes =
      (specOf argument).bind fun spec =>
        if spec.badFlag then none
        else cliVolumes system abspath rest
          (assign (spec.entered system abspath).1 (spec.entered system abspath).2 volumes) := by
  rw [cliVolumes, specOf]
  rcases (argument.toList.splitOn ':').map String.ofList with _ | ⟨source, _ | ⟨path, flags⟩⟩
  · rfl
  · rfl
  · rcases flags with _ | ⟨flag, _ | ⟨more, others⟩⟩
    · simp [VolumeSpec.badFlag, VolumeSpec.entered, VolumeSpec.key]
    · by_cases empty : flag = ""
      · simp [VolumeSpec.badFlag, VolumeSpec.entered, VolumeSpec.key, empty]
      · by_cases readonly : flag = "ro"
        · simp [VolumeSpec.badFlag, VolumeSpec.entered, VolumeSpec.key, readonly]
        · by_cases writable : flag = "rw"
          · simp [VolumeSpec.badFlag, VolumeSpec.entered, VolumeSpec.key, writable]
          · simp [VolumeSpec.badFlag, empty, readonly, writable]
    · simp [VolumeSpec.badFlag, VolumeSpec.entered, VolumeSpec.key]

theorem cliVolumes_eq_some (volumes : List (String × MountSpec))
    (taken : ∀ argument ∈ arguments, ∃ spec, specOf argument = some spec ∧ ¬ spec.badFlag) :
    cliVolumes system abspath arguments volumes =
      some (assignAll ((arguments.filterMap specOf).map fun spec => spec.entered system abspath)
          volumes) := by
  induction arguments generalizing volumes with
  | nil => rfl
  | cons argument rest ih =>
      rw [List.forall_mem_cons] at taken
      obtain ⟨⟨spec, read, good⟩, others⟩ := taken
      rw [cliVolumes_cons, read, Option.bind_some, if_neg good, ih _ others,
        List.filterMap_cons_some read]
      rfl

theorem cliVolumes_eq_none (volumes : List (String × MountSpec)) (argument : String)
    (member : argument ∈ arguments) (bad : ∀ spec, specOf argument = some spec → spec.badFlag) :
    cliVolumes system abspath arguments volumes = none := by
  induction arguments generalizing volumes with
  | nil => cases member
  | cons first rest ih =>
      rw [cliVolumes_cons]
      cases read : specOf first with
      | none => rfl
      | some spec =>
          rw [Option.bind_some]
          split_ifs with flagged
          · rfl
          · rcases List.mem_cons.mp member with rfl | later
            · exact absurd (bad spec read) flagged
            · exact ih _ later

theorem sentMounts_of_goesThrough (abspath : String → String)
    (goes : GoesThrough system created arguments) :
    sentMounts system abspath created arguments =
      some (assignAll ((arguments.filterMap specOf).map fun spec => spec.entered system abspath)
        []) := by
  rw [sentMounts, if_pos, cliVolumes_eq_some]
  · intro argument member
    obtain ⟨spec, read, good, _⟩ := goes argument member
    exact ⟨spec, read, good⟩
  · intro spec member
    obtain ⟨argument, given, read⟩ := List.mem_filterMap.mp member
    obtain ⟨other, same, _, back⟩ := goes argument given
    exact Option.some.inj (same.symm.trans read) ▸ back

theorem sentMounts_of_not_goesThrough (abspath : String → String)
    (stops : ¬ GoesThrough system created arguments) :
    sentMounts system abspath created arguments = none := by
  rw [GoesThrough, not_forall] at stops
  obtain ⟨argument, stops⟩ := stops
  rw [Classical.not_imp] at stops
  obtain ⟨member, stuck⟩ := stops
  rw [sentMounts]
  split_ifs with back
  · refine cliVolumes_eq_none [] argument member fun spec read => ?_
    by_contra good
    exact stuck ⟨spec, read, good, back spec (List.mem_filterMap.mpr ⟨argument, member, read⟩)⟩
  · rfl

theorem VolumeSpec.entered_eq {spec : VolumeSpec} (short : spec.flags.length ≤ 1) :
    spec.entered system abspath = (spec.key system abspath, spec.mount system) := by
  obtain ⟨source, path, _ | ⟨flag, _ | ⟨more, others⟩⟩⟩ := spec
  · simp [VolumeSpec.entered, VolumeSpec.mount]
  · simp [VolumeSpec.entered, VolumeSpec.mount]
  · simp at short

theorem lookup_of_compatible (compatible : Compatible system abspath arguments) (spec : VolumeSpec)
    (member : spec ∈ arguments.filterMap specOf) (start : List (String × MountSpec)) :
    (assignAll ((arguments.filterMap specOf).map fun spec => spec.entered system abspath)
      start).lookup (spec.key system abspath) = some (spec.mount system) := by
  have entered : ∀ other ∈ arguments.filterMap specOf,
      other.entered system abspath = (other.key system abspath, other.mount system) :=
    fun other among => VolumeSpec.entered_eq (compatible other among).1
  rw [List.map_congr_left entered]
  refine lookup_assignAll_of_agree _ _ _ _ ?_ ?_
  · rw [List.map_map]
    exact List.mem_map_of_mem member
  · intro entry among same
    obtain ⟨other, given, rfl⟩ := List.mem_map.mp among
    exact (compatible spec member).2 other given same

/-- The mounts carry every argument, and the bad ones end the command, exactly where the command
ends anyway or no argument has a fourth field and none takes the place of another. -/
theorem carries_iff (system : System) (abspath : String → String) (created : String → Bool)
    (arguments : List String) : Carries system abspath created arguments ↔
      ¬ GoesThrough system created arguments ∨ Compatible system abspath arguments := by
  constructor
  · intro carries
    refine or_iff_not_imp_left.mpr fun goes => ?_
    rw [not_not] at goes
    have sent := sentMounts_of_goesThrough abspath goes
    -- every argument is found again under its key
    have found : ∀ spec ∈ arguments.filterMap specOf, ∃ mounts,
        sentMounts system abspath created arguments = some mounts ∧
          mounts.lookup (spec.key system abspath) = some (spec.mount system) := by
      intro spec member
      obtain ⟨argument, given, read⟩ := List.mem_filterMap.mp member
      obtain ⟨other, same, held⟩ := carries.carried _ sent argument given
      exact ⟨_, sent, Option.some.inj (same.symm.trans read) ▸ held⟩
    intro spec member
    obtain ⟨argument, given, read⟩ := List.mem_filterMap.mp member
    constructor
    · by_contra long
      rw [carries.refused argument given spec read (.inl (Nat.lt_of_not_ge long))] at sent
      cases sent
    · intro other among same
      obtain ⟨mounts, here, held⟩ := found spec member
      obtain ⟨_, there, held'⟩ := found other among
      cases here.symm.trans there
      rw [same, held] at held'
      exact (Option.some.inj held').symm
  · intro condition
    by_cases goes : GoesThrough system created arguments
    · have compatible := condition.resolve_left (not_not.mpr goes)
      refine ⟨fun mounts sent argument given => ?_, fun argument given spec read bad => ?_⟩
      · cases (sentMounts_of_goesThrough abspath goes).symm.trans sent
        obtain ⟨spec, read, _⟩ := goes argument given
        exact ⟨spec, read,
          lookup_of_compatible compatible spec (List.mem_filterMap.mpr ⟨argument, given, read⟩) []⟩
      · have short := (compatible spec (List.mem_filterMap.mpr ⟨argument, given, read⟩)).1
        obtain ⟨other, same, good, _⟩ := goes argument given
        cases same.symm.trans read
        obtain ⟨flag, first, unknown⟩ := bad.resolve_left (Nat.not_lt.mpr short)
        obtain ⟨source, path, _ | ⟨third, rest⟩⟩ := spec
        · cases first
        · cases first
          refine absurd ⟨Nat.le_antisymm short (Nat.succ_pos _), ?_⟩ good
          simpa using unknown
    · have nothing := sentMounts_of_not_goesThrough abspath goes
      exact ⟨fun mounts sent => (nomatch nothing.symm.trans sent), fun _ _ _ _ _ => nothing⟩

/-- The second of two arguments with one source takes the place of the first. -/
theorem shared_source_lost : sentMounts .other id (fun _ => true) ["data:/a", "data:/b"] =
      some [("data", ⟨some "volume", some "/b", false⟩)] ∧
    ¬ ∀ arguments, Carries .other id (fun _ => true) arguments := by
  refine ⟨by decide, fun claimed => ?_⟩
  obtain ⟨spec, read, held⟩ := (claimed ["data:/a", "data:/b"]).carried
    [("data", ⟨some "volume", some "/b", false⟩)] (by decide) "data:/a" (by decide)
  cases (show specOf "data:/a" = some ⟨"data", "/a", []⟩ from by decide).symm.trans read
  exact absurd held (by decide)

end Volumes

end Dockermock.Jail.VolumeNames
