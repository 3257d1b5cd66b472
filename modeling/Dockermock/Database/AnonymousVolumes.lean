import Dockermock.Database.Atomicity

/-!
The mounts of create_container_json. The merge of image volumes and user mounts
is sound; what is passed to it and what is done with it is not: absent mounts
are a list, which has no `items`, and create_anamous_volumes raises at the first
volume mount with a UUID, which every volume of the image brings along.
-/

namespace Dockermock.Database

open Library

section Merge

variable {host : Host} {volumes : List (String × Bool)} {userMounts : List (String × MountSpec)}
  {mounts : List Mount}

theorem given_keys {given : List (String × Mount)}
    (mapped : userMounts.mapM givenMount = some given) :
    given.map Prod.fst = userMounts.map Prod.fst := by
  refine mapM_map_eq Prod.fst Prod.fst ?_ mapped
  intro entry made same
  rcases (givenMount_eq_some_iff _ _).mp same with ⟨_, _, _, _, rfl⟩
  rfl

theorem declared_keys (host : Host) (volumes : List (String × Bool)) :
    (volumes.map (declaredMount host)).map Prod.fst = volumes.map Prod.fst := by
  rw [List.map_map]
  rfl

theorem mem_targets_iff (made : handleContainerMounts host volumes userMounts = some mounts)
    (key : String) :
    key ∈ mounts.map Mount.target ↔ key ∈ volumes.map Prod.fst ∨ key ∈ userMounts.map Prod.fst := by
  rcases handleContainerMounts_eq_some_iff.mp made with ⟨given, mapped, rfl⟩
  have distinct := assignAll_distinct (volumes.map (declaredMount host) ++ given) [] List.nodup_nil
  have keyed : ∀ entry ∈ assignAll (volumes.map (declaredMount host) ++ given) [],
      entry.2.target = entry.1 :=
    entries_keyed mapped
  have keys : key ∈ (assignAll (volumes.map (declaredMount host) ++ given) []).map Prod.fst ↔
      key ∈ volumes.map Prod.fst ∨ key ∈ userMounts.map Prod.fst := by
    rw [assignAll_keys, List.map_append, List.mem_append, declared_keys, given_keys mapped]
    exact or_iff_left List.not_mem_nil
  rw [← keys, List.mem_map, List.mem_map]
  constructor
  · rintro ⟨mount, member, rfl⟩
    rcases (mem_orderedMounts_iff _ distinct mount).mp member with ⟨under, held⟩
    exact ⟨(under, mount), held, (keyed _ held).symm⟩
  · rintro ⟨⟨under, mount⟩, held, rfl⟩
    exact ⟨mount, (mem_orderedMounts_iff _ distinct mount).mpr ⟨under, held⟩, keyed _ held⟩

theorem targets_nodup (made : handleContainerMounts host volumes userMounts = some mounts) :
    (mounts.map Mount.target).Nodup := by
  refine List.pairwise_map.mpr ((handleContainerMounts_sorted made).imp ?_)
  intro earlier later below same
  rw [same] at below
  exact String.lt_irrefl _ below

theorem declared_mem (made : handleContainerMounts host volumes userMounts = some mounts)
    (distinct : (volumes.map Prod.fst).Nodup) (volume : String × Bool) (member : volume ∈ volumes)
    (free : volume.1 ∉ userMounts.map Prod.fst) : (declaredMount host volume).2 ∈ mounts := by
  rcases handleContainerMounts_eq_some_iff.mp made with ⟨given, mapped, rfl⟩
  have unique := assignAll_distinct (volumes.map (declaredMount host) ++ given) [] List.nodup_nil
  rw [mem_orderedMounts_iff _ unique]
  refine ⟨volume.1, (lookup_eq_some_iff_mem _ unique _ _).mp ?_⟩
  rw [assignAll, List.foldl_append]
  have absent : volume.1 ∉ given.map Prod.fst := by rwa [given_keys mapped]
  refine (lookup_assignAll_of_absent given _ volume.1 absent).trans ?_
  exact lookup_assignAll_of_mem _ _ (by rwa [declared_keys]) _ _ (List.mem_map_of_mem member)

theorem handleContainerMounts_isSome (host : Host) (volumes : List (String × Bool))
    (typed : ∀ entry ∈ userMounts, entry.2.type.isSome = true ∧ entry.2.source.isSome = true) :
    ∃ mounts, handleContainerMounts host volumes userMounts = some mounts := by
  have all : (userMounts.mapM givenMount).isSome = true := by
    refine (mapM_isSome_iff _ _).mpr fun entry member => ?_
    rcases typed entry member with ⟨typed, sourced⟩
    rcases Option.isSome_iff_exists.mp typed with ⟨type, typed⟩
    rcases Option.isSome_iff_exists.mp sourced with ⟨source, sourced⟩
    rw [(givenMount_eq_some_iff entry _).mpr ⟨type, source, typed, sourced, rfl⟩]
    exact Option.some_ne_none _
  rcases Option.isSome_iff_exists.mp all with ⟨given, mapped⟩
  exact ⟨_, handleContainerMounts_eq_some_iff.mpr ⟨given, mapped, rfl⟩⟩

end Merge

/-- The mounts of a request as they should come: a map, each entry with a type and a source. -/
structure WellFormed (userMounts : List (String × MountSpec)) : Prop where
  distinct : (userMounts.map Prod.fst).Nodup
  typed : ∀ entry ∈ userMounts, entry.2.type.isSome = true ∧ entry.2.source.isSome = true

/-- What the volumes of the image and the user's mounts should come to: one entry a key, the
user's one where there is one, and otherwise a volume that is in the table. -/
structure MountsLaw (host : Host) (tables : Tables) (volumes : List (String × Bool))
    (userMounts : List (String × MountSpec)) (mounts : List Mount) : Prop where
  once : (mounts.map Mount.target).Nodup
  keys : ∀ key, key ∈ mounts.map Mount.target ↔
    key ∈ volumes.map Prod.fst ∨ key ∈ userMounts.map Prod.fst
  user : ∀ key spec, (key, spec) ∈ userMounts → ∃ type source,
    spec.type = some type ∧ spec.source = some source ∧ ⟨type, source, key, spec.readonly⟩ ∈ mounts
  image : ∀ volume ∈ volumes, volume.1 ∉ userMounts.map Prod.fst →
    (declaredMount host volume).2 ∈ mounts ∧
    ∃ entry ∈ tables.volumes.rows.entries, entry.2.name = host.anonymousSource volume.1

/-- create_container_json returns, and its mounts follow the law. It has inserted nothing when it
does, so the table of volumes is the one before. -/
def Mounts (host : Host) (tables : Tables) (image : ImageJson) (request : Request)
    (volumes : List (String × Bool)) : Prop :=
  ∃ config, createContainerJson host image request = some config ∧
    MountsLaw host tables volumes (request.mounts.getD []) config.mounts

/-- There are mounts, those of the user cover the volumes of the image, and no volume among them
has a UUID for its name. -/
structure Covered (host : Host) (volumes : List (String × Bool)) (request : Request) : Prop where
  given : request.mounts.isSome = true
  covers : ∀ volume ∈ volumes, volume.1 ∈ (request.mounts.getD []).map Prod.fst
  named : ∀ entry ∈ request.mounts.getD [], entry.2.type = some "volume" →
    ∀ source, entry.2.source = some source → host.isUuid source = false

section Returning

variable {host : Host} {tables : Tables} {image : ImageJson} {request : Request}
  {volumes : List (String × Bool)}

theorem createContainerJson_returned_iff (declared : image.volumes = some volumes)
    (mounts : List Mount) :
    (∃ config, createContainerJson host image request = some config ∧ config.mounts = mounts) ↔
      ∃ userMounts, request.mounts = some userMounts ∧
        handleContainerMounts host volumes userMounts = some mounts ∧
            createAnamousVolumes host mounts = true := by
  constructor
  · rintro ⟨config, made, rfl⟩
    rcases Option.bind_eq_some_iff.mp made with ⟨others, same, made⟩
    cases declared.symm.trans same
    rcases Option.bind_eq_some_iff.mp made with ⟨userMounts, given, made⟩
    rcases Option.bind_eq_some_iff.mp made with ⟨mounts, merged, made⟩
    rcases Option.ite_none_right_eq_some.mp made with ⟨passes, same⟩
    rw [← Option.some.inj same]
    exact ⟨userMounts, given, merged, passes⟩
  · rintro ⟨userMounts, given, merged, passes⟩
    rw [createContainerJson, declared, Option.bind_some, given, Option.bind_some, merged,
      Option.bind_some, if_pos passes]
    exact ⟨_, rfl, rfl⟩

theorem covered_of_mounts (declared : image.volumes = some volumes)
    (distinct : (volumes.map Prod.fst).Nodup)
    (anonymous : ∀ key, host.isUuid (host.anonymousSource key) = true)
    (wellFormed : ∀ userMounts, request.mounts = some userMounts → WellFormed userMounts)
    (mounts : Mounts host tables image request volumes) : Covered host volumes request := by
  rcases mounts with ⟨config, made, _⟩
  rcases (createContainerJson_returned_iff declared config.mounts).mp ⟨config, made, rfl⟩ with
    ⟨userMounts, given, merged, passes⟩
  have plain := List.all_eq_true.mp passes
  have whole : request.mounts.getD [] = userMounts := by rw [given, Option.getD_some]
  constructor
  · rw [given, Option.isSome_some]
  · intro volume member
    rw [whole]
    by_contra free
    have raises := plain _ (declared_mem merged distinct volume member free)
    simp [declaredMount, anonymous] at raises
  · rintro ⟨key, spec⟩ member isVolume source sourced
    rw [whole] at member
    rcases handleContainerMounts_given merged (wellFormed userMounts given).distinct key
        spec member with
      ⟨type, other, typed, same, unique⟩
    cases isVolume.symm.trans typed
    cases sourced.symm.trans same
    have raises := plain _ ((unique _).mpr rfl).1
    simpa using raises

theorem own_of_covers {userMounts : List (String × MountSpec)} {mounts : List Mount}
    (formed : WellFormed userMounts)
    (merged : handleContainerMounts host volumes userMounts = some mounts)
    (covers : ∀ volume ∈ volumes, volume.1 ∈ userMounts.map Prod.fst) {mount : Mount}
    (member : mount ∈ mounts) :
    ∃ entry ∈ userMounts, entry.2.type = some mount.type ∧ entry.2.source = some mount.source := by
  have key := (mem_targets_iff merged mount.target).mp (List.mem_map_of_mem member)
  have user : mount.target ∈ userMounts.map Prod.fst := by
    rcases key with image | user
    · rcases List.mem_map.mp image with ⟨volume, listed, same⟩
      exact same ▸ covers volume listed
    · exact user
  rcases List.mem_map.mp user with ⟨⟨_, spec⟩, entry, rfl⟩
  rcases handleContainerMounts_given merged formed.distinct mount.target spec entry with
    ⟨type, source, typed, sourced, unique⟩
  have same := (unique mount).mp ⟨member, rfl⟩
  refine ⟨_, entry, ?_, ?_⟩
  · rw [typed, same]
  · rw [sourced, same]

theorem mounts_of_covered (declared : image.volumes = some volumes)
    (wellFormed : ∀ userMounts, request.mounts = some userMounts → WellFormed userMounts)
    (covered : Covered host volumes request) : Mounts host tables image request volumes := by
  rcases Option.isSome_iff_exists.mp covered.given with ⟨userMounts, given⟩
  have formed := wellFormed userMounts given
  rcases handleContainerMounts_isSome host volumes formed.typed with ⟨mounts, merged⟩
  have covers := covered.covers
  have named := covered.named
  rw [given, Option.getD_some] at covers named
  -- no volume among the mounts is named by a UUID, so that nothing is to be created
  have passes : createAnamousVolumes host mounts = true := by
    refine List.all_eq_true.mpr fun mount member => ?_
    rcases own_of_covers formed merged covers member with ⟨entry, listed, typed, sourced⟩
    by_cases isVolume : mount.type = "volume"
    · have plain := named entry listed (isVolume ▸ typed) mount.source sourced
      simp [plain]
    · simp [isVolume]
  rcases (createContainerJson_returned_iff declared mounts).mpr
      ⟨userMounts, given, merged, passes⟩ with
    ⟨config, made, rfl⟩
  refine ⟨config, made, targets_nodup merged, ?_, ?_, ?_⟩
  · rw [given]
    exact mem_targets_iff merged
  · intro key spec member
    rw [given] at member
    rcases handleContainerMounts_given merged formed.distinct key spec member with
      ⟨type, source, typed, sourced, unique⟩
    exact ⟨type, source, typed, sourced, ((unique _).mpr rfl).1⟩
  · intro volume member free
    rw [given] at free
    exact absurd (covers volume member) free

end Returning

/-- create_container_json deals with the volumes of an image exactly when there are user mounts
that cover them and do not name a volume by a UUID. -/
theorem createContainerJson_mounts_iff (host : Host) (tables : Tables) (image : ImageJson)
    (request : Request) (volumes : List (String × Bool)) (declared : image.volumes = some volumes)
    (distinct : (volumes.map Prod.fst).Nodup)
    (anonymous : ∀ key, host.isUuid (host.anonymousSource key) = true)
    (wellFormed : ∀ userMounts, request.mounts = some userMounts → WellFormed userMounts) :
    Mounts host tables image request volumes ↔ Covered host volumes request :=
  ⟨covered_of_mounts declared distinct anonymous wellFormed, mounts_of_covered declared wellFormed⟩

section Example

def someUuid : String := "1b4e28ba-2fa1-11d2-883f-0016d3cca427"

def uuidHost : Host :=
  { workingHost with
    anonymousSource := fun _ => someUuid, isUuid := fun text => text = someUuid }

def dataVolume : List (String × Bool) := [("/data", false)]

def dataImage : ImageJson := ⟨["sh"], [], ["/bin"], [], none, none, some dataVolume⟩

def dataRequest (mounts : Option (List (String × MountSpec))) : Request :=
  { alpineRequest "web" [] with mounts := mounts }

def dataMount : String × MountSpec := ("/data", ⟨some "nullfs", some "/srv/data", false⟩)

theorem createContainerJson_mounts_iff_covered :
    Mounts uuidHost (.fresh .empty .empty) dataImage (dataRequest (some [dataMount])) dataVolume :=
  (createContainerJson_mounts_iff uuidHost (.fresh .empty .empty) dataImage
    (dataRequest (some [dataMount])) dataVolume
    rfl (by decide) (by simp [uuidHost]) (by rintro _ ⟨⟩; exact ⟨by decide, by decide⟩)).mpr
      ⟨rfl, by decide, by decide⟩

/-- The volume of the image is to be made under VOLUME_ROOT, which is not defined. -/
theorem image_volume_raises :
    ¬ ∀ host tables image request volumes, image.volumes = some volumes →
      (volumes.map Prod.fst).Nodup → (∀ key, host.isUuid (host.anonymousSource key) = true) →
      (∀ userMounts, request.mounts = some userMounts → WellFormed userMounts) →
        Mounts host tables image request volumes := by
  intro claimed
  rcases claimed uuidHost (.fresh .empty .empty) dataImage (dataRequest (some [])) dataVolume rfl
    (by decide)
    (by simp [uuidHost]) (by rintro _ ⟨⟩; exact ⟨by decide, by decide⟩) with ⟨config, made, _⟩
  have raised : createContainerJson uuidHost dataImage (dataRequest (some [])) = none := by decide
  rw [raised] at made
  cases made

end Example

end Dockermock.Database
