import Dockermock.Library.Paths
import Dockermock.Database.Atomicity

/-!
By what name a volume mount is known: to validate_container_options when the
request comes in, to link_container_volumes when the container is made, and to
handle_mounts when it starts. The map is as the command line sends it, with the
volume's name for the key and the path in the container for the source.
-/

namespace Dockermock.Jail.VolumeNames

open Library Database

section CommandLine

inductive System where
  | linux | darwin | windows | other
  deriving DecidableEq, Repr

/-- classify_mount. What stands in front of the first colon is never a drive, and a network
share has backslashes. -/
def classifyMount (system : System) (source : String) : String :=
  match system with
  | .linux | .darwin =>
      if source.toList.head? = some '/' then "bind"
      else if source.toList.head? = some '.' ∨ '/' ∈ source.toList then "bind"
      else "volume"
  | .windows => if '\\' ∈ source.toList ∨ '/' ∈ source.toList then "bind" else "volume"
  | .other => if '/' ∈ source.toList then "bind" else "volume"

/-- A volume goes by its name, a directory by its absolute path. -/
def mountKey (system : System) (abspath : String → String) (source : String) : String :=
  if classifyMount system source = "volume" then source else abspath source

/-- The loop of create_container over its volume arguments; nothing where it prints an error
and returns. -/
def cliVolumes (system : System) (abspath : String → String) :
    List String → List (String × MountSpec) → Option (List (String × MountSpec))
  | [], volumes => some volumes
  | argument :: rest, volumes =>
      match (argument.toList.splitOn ':').map String.ofList with
      | source :: path :: flags =>
          let entered := fun readonly => cliVolumes system abspath rest
            (assign (mountKey system abspath source) ⟨some (classifyMount system source), some path,
              readonly⟩ volumes)
          match flags with
          | [flag] =>
              if flag = "" then entered false
              else if flag = "ro" ∨ flag = "rw" then entered (flag = "ro")
              else none
          | _ => entered false
      | _ => none

structure CliForm (volumes : List (String × MountSpec)) : Prop where
  distinct : (volumes.map Prod.fst).Nodup
  named : ∀ entry ∈ volumes, entry.2.type = some "volume" → '/' ∉ entry.1.toList

theorem classifyMount_volume (system : System) (source : String)
    (volume : classifyMount system source = "volume") : '/' ∉ source.toList := by
  intro slash
  cases system <;> simp [classifyMount, slash] at volume

theorem CliForm.enter {volumes : List (String × MountSpec)} (form : CliForm volumes)
    (system : System) (abspath : String → String) (source path : String) (readonly : Bool) :
    CliForm (assign (mountKey system abspath source)
      ⟨some (classifyMount system source), some path, readonly⟩ volumes) where
  distinct := assign_distinct _ _ _ form.distinct
  named := by
    refine assign_forall (fun entry : String × MountSpec => entry.2.type = some "volume" →
      '/' ∉ entry.1.toList) _ _ _ (fun typed => ?_) form.named
    have volume : classifyMount system source = "volume" := Option.some.inj typed
    rw [mountKey, if_pos volume]
    exact classifyMount_volume system source volume

theorem cliVolumes_form (system : System) (abspath : String → String) (arguments : List String)
    (volumes made : List (String × MountSpec)) (form : CliForm volumes)
    (sent : cliVolumes system abspath arguments volumes = some made) : CliForm made := by
  induction arguments generalizing volumes with
  | nil =>
      cases sent
      exact form
  | cons argument rest ih =>
      rw [cliVolumes] at sent
      split at sent
      · rename_i source path flags _
        dsimp only at sent
        split at sent
        · split_ifs at sent
          · exact ih _ (form.enter system abspath source path _) sent
          · exact ih _ (form.enter system abspath source path _) sent
        · exact ih _ (form.enter system abspath source path _) sent
      · cases sent

end CommandLine

section Readings

def volumeMountRoot : String := "/jails/volumes"

def lookedUp (userMounts : List (String × MountSpec)) : List String :=
  (userMounts.filter fun entry => entry.2.type = some "volume").map Prod.fst

theorem validateContainerOptions_lookedUp (tables : Tables) (networks : List String)
    (userMounts : List (String × MountSpec)) (networkIds : List Nat)
    (accepted : validateContainerOptions tables networks (some userMounts) =
      some (none, networkIds)) :
    ∀ name ∈ lookedUp userMounts, ∃ entry ∈ tables.volumes.rows.entries, entry.2.name = name := by
  rw [validateContainerOptions, Option.bind_some] at accepted
  dsimp only at accepted
  split_ifs at accepted with typed complete
  · intro name member
    have found := mem_of_namesNotIn_nil _ _ complete.2 name member
    rcases List.mem_map.mp found with ⟨entry, selected, same⟩
    exact ⟨entry, (List.mem_filter.mp selected).1, same⟩
  · simp at accepted

/-- The turn of a mount in link_container_volumes links a volume of this name, and no other. -/
def LinkedAs (mount : Mount) (name : String) : Prop :=
  ∀ host cid tables after, linkContainerVolumes host cid [mount] tables = (after, true) →
    ∀ link, Table.holds after.volumeContainers link → ¬ Table.holds tables.volumeContainers link →
      ∃ row, after.volumes.rows.get link.volumeId = some row ∧ row.name = name

def volumeTarget (mount : Mount) : String := joinPath volumeMountRoot mount.target

/-- The three readings of every volume entry name the volume of its key. -/
structure NamesAgree (userMounts : List (String × MountSpec)) (mounts : List Mount) : Prop where
  validated : ∀ entry ∈ userMounts, entry.2.type = some "volume" → entry.1 ∈ lookedUp userMounts
  linked : ∀ entry ∈ userMounts, entry.2.type = some "volume" →
    ∀ mount ∈ mounts, mount.target = entry.1 → LinkedAs mount entry.1
  mounted : ∀ entry ∈ userMounts, entry.2.type = some "volume" →
    ∀ mount ∈ mounts, mount.target = entry.1 →
      volumeTarget mount = volumeMountRoot ++ "/" ++ entry.1

theorem linkedAs_iff (mount : Mount) (volume : mount.type = "volume") (name : String) :
    LinkedAs mount name ↔ mount.source = name := by
  constructor
  · intro linkedAs
    -- one run of the loop on fresh tables is enough to read the name off
    let tables := Tables.fresh .empty .empty
    rcases volumeId_ensureVolume tables.volumes mount.source with ⟨id, known⟩
    have none : ∀ row, ¬ Table.holds tables.volumeContainers row :=
      fun row ⟨_, member⟩ => absurd member List.not_mem_nil
    rcases linkContainerVolumes_volume workingHost 1 mount [] tables id volume known with
      ⟨made, _⟩ | ⟨_, present, _⟩ | ⟨_, _, result⟩
    · cases made
    · exact absurd present (none _)
    · have entered :
          Table.holds (linkVolume tables mount.source ⟨id, 1⟩).volumeContainers ⟨id, 1⟩ :=
        (holds_insert _ _ _).mpr (.inr rfl)
      rcases linkedAs workingHost 1 tables _ result ⟨id, 1⟩ entered (none _) with ⟨row, held, named⟩
      rcases get_of_volumeId _ _ _ known with ⟨other, held', named'⟩
      have same : row = other := Option.some.inj (held.symm.trans held')
      rw [← named', ← same, named]
  · rintro rfl host cid tables after linked link present absent
    rcases volumeId_ensureVolume tables.volumes mount.source with ⟨id, known⟩
    rcases linkContainerVolumes_volume host cid mount [] tables id volume known with
      ⟨_, result⟩ | ⟨_, _, result⟩ | ⟨_, _, result⟩
    · rw [result] at linked
      cases linked
    · rw [result] at linked
      cases linked
    · rw [result] at linked
      cases linked
      rcases (holds_insert _ _ _).mp present with old | rfl
      · exact absurd old absent
      · exact get_of_volumeId _ _ _ known

theorem volumeTarget_eq (mount : Mount) (named : '/' ∉ mount.target.toList) :
    volumeTarget mount = volumeMountRoot ++ "/" ++ mount.target := by
  have relative : mount.target.toList.head? ≠ some '/' :=
    fun first => named (List.mem_of_mem_head? first)
  have open' : ¬ (volumeMountRoot = "" ∨ volumeMountRoot.toList.getLast? = some '/') := by decide
  rw [volumeTarget, joinPath, if_neg relative, if_neg open']

/-- The three agree where the path in the container is the name of the volume. -/
theorem namesAgree_iff (host : Database.Host) (imageVolumes : List (String × Bool))
    (userMounts : List (String × MountSpec)) (mounts : List Mount) (form : CliForm userMounts)
    (made : handleContainerMounts host imageVolumes userMounts = some mounts) :
    NamesAgree userMounts mounts ↔
      ∀ entry ∈ userMounts, entry.2.type = some "volume" → entry.2.source = some entry.1 := by
  constructor
  · rintro agree ⟨key, spec⟩ member typed
    rcases handleContainerMounts_given made form.distinct key spec member with
      ⟨type, source, typed', sourced, only⟩
    have volume : type = "volume" := Option.some.inj (typed'.symm.trans typed)
    rcases (only _).mpr rfl with ⟨among, target⟩
    have linked := agree.linked _ member typed _ among target
    exact sourced.trans (congrArg some ((linkedAs_iff _ volume key).mp linked))
  · intro same
    refine ⟨fun entry member typed => ?_, ?_, ?_⟩
    · exact List.mem_map.mpr ⟨entry, List.mem_filter.mpr ⟨member, by simpa using typed⟩, rfl⟩
    · rintro ⟨key, spec⟩ member typed mount among target
      rcases handleContainerMounts_given made form.distinct key spec member with
        ⟨type, source, typed', sourced, only⟩
      have volume : type = "volume" := Option.some.inj (typed'.symm.trans typed)
      have named : source = key := Option.some.inj (sourced.symm.trans (same _ member typed))
      cases (only mount).mp ⟨among, target⟩
      exact (linkedAs_iff _ volume key).mpr named
    · rintro ⟨key, spec⟩ member typed mount among rfl
      exact volumeTarget_eq mount (form.named _ member typed)

section Instances

def twoVolumes : List (String × MountSpec) :=
  [("data", ⟨some "volume", some "/var/lib", false⟩),
    ("data2", ⟨some "volume", some "data2", false⟩)]

def twoVolumeMounts : List Mount :=
  [⟨"volume", "data2", "data2", false⟩, ⟨"volume", "/var/lib", "data", false⟩]

theorem twoVolumes_sent :
    cliVolumes .other id ["data:/var/lib", "data2:data2"] [] = some twoVolumes := by decide

theorem twoVolumes_form : CliForm twoVolumes :=
  cliVolumes_form .other id ["data:/var/lib", "data2:data2"] [] twoVolumes
    ⟨by simp, by simp⟩ twoVolumes_sent

theorem namesAgree_two : NamesAgree twoVolumes twoVolumeMounts ↔
    ∀ entry ∈ twoVolumes, entry.2.type = some "volume" → entry.2.source = some entry.1 :=
  namesAgree_iff workingHost [] twoVolumes twoVolumeMounts twoVolumes_form (by decide)

/-- The container is linked to a volume by the name of its own path. -/
theorem names_differ : handleContainerMounts workingHost [] twoVolumes = some twoVolumeMounts ∧
    ¬ NamesAgree twoVolumes twoVolumeMounts := by
  refine ⟨by decide, fun agree => ?_⟩
  have linked := agree.linked ("data", ⟨some "volume", some "/var/lib", false⟩) (by decide) rfl
    ⟨"volume", "/var/lib", "data", false⟩ (by decide) rfl
  have same := (linkedAs_iff _ rfl _).mp linked
  simp at same

end Instances

end Readings

end Dockermock.Jail.VolumeNames
