import Mathlib.Data.List.Dedup
import Mathlib.Data.List.Sort
import Dockermock.Library.Dict
import Dockermock.Library.Lists
import Dockermock.Database.Schema

/-!
The part of create_container before its first INSERT: the checks of the request
and create_container_json. It reads the database and writes nothing. Where the
code raises, the model gives `raised`; `None` and the empty list, which Python's
`or` and `if` treat alike, are the empty list.
-/

namespace Dockermock.Database

open Library Network

/-- One entry of the request's mounts map; the code requires type and source. -/
structure MountSpec where
  type : Option String
  source : Option String
  readonly : Bool
  deriving DecidableEq, Repr

/-- POST /api/containers. An absent name is the empty one; absent mounts are a
list, which has no `items`. -/
structure Request where
  name : String
  image : Option String
  networks : List String
  mounts : Option (List (String × MountSpec))
  env : List (String × String)
  command : List String
  entrypoint : List String
  user : Option String
  workingDir : Option String
  ports : List Port
  restart : String
  rm : Bool
  project : String
  service : String

inductive CloneResult where
  | cloned | failed | raised
  deriving DecidableEq, Repr

structure Host where
  isUuid : String → Bool
  anonymousSource : String → String
  gid : String
  makedirs : String → Bool
  getDataset : String → Bool
  cloneDataset : String → String → CloneResult
  ipv6Text : Nat → String

inductive Refusal where
  | emptyName
  | missing (networks volumes : List String)
  | invalidImage (image : String)
  | cloneFailed
  deriving DecidableEq, Repr

def Refusal.message : Refusal → String
  | .emptyName => "Name cannot be empty"
  | .missing networks volumes =>
      let lines :=
        (if networks.isEmpty then [] else ["Missing networks: " ++ ", ".intercalate networks]) ++
        (if volumes.isEmpty then [] else ["Missing volumes: " ++ ", ".intercalate volumes])
      "\n".intercalate lines
  | .invalidImage image => "Invalid image: " ++ image
  | .cloneFailed => "Failed to create container"

structure Accepted where
  row : ContainerRow
  imageGid : String
  networkIds : List Nat
  deriving DecidableEq, Repr

inductive Preparation where
  | refused (refusal : Refusal)
  | raised
  | ready (accepted : Accepted)
  deriving DecidableEq, Repr

def namesNotIn (wanted found : List String) : List String :=
  wanted.dedup.filter fun name => name ∉ found

/-- The rows that `name IN (..)` finds: they come from the index of the UNIQUE column, name after
name. -/
def inNameOrder (rows : List (Nat × NetworkRow)) : List (Nat × NetworkRow) :=
  rows.insertionSort fun left right => left.2.name ≤ right.2.name

theorem perm_inNameOrder (rows : List (Nat × NetworkRow)) : (inNameOrder rows).Perm rows :=
  List.perm_insertionSort _ rows

/-- validate_container_options; it is called only for a request with networks. -/
def validateContainerOptions (tables : Tables) (networks : List String)
    (mounts : Option (List (String × MountSpec))) : Option (Option Refusal × List Nat) :=
  mounts.bind fun mounts =>
    if mounts.all (fun entry => entry.2.type.isSome) then
      let networkRows := inNameOrder (tables.networks.select fun row => row.name ∈ networks)
      let volumeMounts := (mounts.filter fun entry => entry.2.type = some "volume").map Prod.fst
      let volumeRows := tables.volumes.select fun row => row.name ∈ volumeMounts
      let missingNetworks := namesNotIn networks (networkRows.map fun entry => entry.2.name)
      let missingVolumes := namesNotIn volumeMounts (volumeRows.map fun entry => entry.2.name)
      let refusal :=
        if missingNetworks = [] ∧ missingVolumes = [] then none
        else some (.missing missingNetworks missingVolumes)
      some (refusal, networkRows.map Prod.fst)
    else none

theorem mem_of_namesNotIn_nil (wanted found : List String) (nothing : namesNotIn wanted found = [])
    (name : String) (member : name ∈ wanted) : name ∈ found := by
  have present := List.filter_eq_nil_iff.mp nothing name (List.mem_dedup.mpr member)
  simpa using present

theorem validateContainerOptions_accepts (tables : Tables) (networks : List String)
    (mounts : Option (List (String × MountSpec))) (networkIds : List Nat)
    (accepted : validateContainerOptions tables networks mounts = some (none, networkIds)) :
    networkIds.Nodup ∧ ∀ name ∈ networks, ∃ networkId ∈ networkIds, ∃ row,
      tables.networks.rows.get networkId = some row ∧ row.name = name := by
  rcases Option.bind_eq_some_iff.mp accepted with ⟨mounts, _, checked⟩
  dsimp only at checked
  split_ifs at checked with typed complete
  · cases checked
    refine ⟨((perm_inNameOrder _).map _).nodup_iff.mpr (Table.select_ids_nodup _ _),
      fun name member => ?_⟩
    have found := mem_of_namesNotIn_nil _ _ complete.1 name member
    rcases List.mem_map.mp found with ⟨⟨networkId, row⟩, ordered, rfl⟩
    have selected := (Table.mem_select _ _ _ _).mp ((perm_inNameOrder _).mem_iff.mp ordered)
    exact ⟨networkId, List.mem_map.mpr ⟨_, ordered, rfl⟩, row, selected.1, rfl⟩
  · simp at checked

/-- handle_container_mounts: a user's mount replaces the image's under the same key. -/
def handleContainerMounts (host : Host) (imageVolumes : List (String × Bool))
    (userMounts : List (String × MountSpec)) : Option (List Mount) :=
  let declared : List (String × Mount) := imageVolumes.map fun entry =>
    (entry.1, ⟨"volume", host.anonymousSource entry.1, entry.1, entry.2⟩)
  let given : Option (List (String × Mount)) := userMounts.mapM fun entry =>
    entry.2.type.bind fun type => entry.2.source.map fun source =>
      (entry.1, ⟨type, source, entry.1, entry.2.readonly⟩)
  given.map fun given =>
    let mounts := (declared ++ given).foldl (fun entries entry => assign entry.1 entry.2 entries) []
    ((mounts.map Prod.fst).insertionSort (fun left right => right ≤ left)).filterMap fun key =>
      List.lookup key mounts

section ContainerMounts

def declaredMount (host : Host) (entry : String × Bool) : String × Mount :=
  (entry.1, ⟨"volume", host.anonymousSource entry.1, entry.1, entry.2⟩)

def givenMount (entry : String × MountSpec) : Option (String × Mount) :=
  entry.2.type.bind fun type => entry.2.source.map fun source =>
    (entry.1, ⟨type, source, entry.1, entry.2.readonly⟩)

/-- `[mounts[key] for key in sorted(mounts, reverse=True)]` -/
def orderedMounts (mounts : List (String × Mount)) : List Mount :=
  ((mounts.map Prod.fst).insertionSort (fun left right => right ≤ left)).filterMap fun key =>
    List.lookup key mounts

theorem givenMount_eq_some_iff (entry : String × MountSpec) (made : String × Mount) :
    givenMount entry = some made ↔
      ∃ type source, entry.2.type = some type ∧ entry.2.source = some source ∧
        made = (entry.1, ⟨type, source, entry.1, entry.2.readonly⟩) := by
  unfold givenMount
  cases entry.2.type <;> cases entry.2.source <;> simp [eq_comm]

variable {host : Host} {imageVolumes : List (String × Bool)}
  {userMounts : List (String × MountSpec)} {mounts : List Mount}

theorem handleContainerMounts_eq_some_iff :
    handleContainerMounts host imageVolumes userMounts = some mounts ↔
      ∃ given, userMounts.mapM givenMount = some given ∧
        mounts = orderedMounts (assignAll (imageVolumes.map (declaredMount host) ++ given) []) := by
  refine Option.map_eq_some_iff.trans (exists_congr fun given => and_congr_right fun _ => ?_)
  exact eq_comm

theorem descending_keys (keys : List String) (distinct : keys.Nodup) :
    (keys.insertionSort fun left right => right ≤ left).Pairwise fun earlier later =>
        later < earlier := by
  have sorted : (keys.insertionSort (· ≥ ·)).Pairwise (· ≥ ·) := List.pairwise_insertionSort _ _
  have apart : (keys.insertionSort (· ≥ ·)).Nodup :=
    (List.perm_insertionSort _ keys).nodup_iff.mpr distinct
  refine (sorted.and apart).imp fun both => Decidable.of_not_not fun stays => ?_
  exact both.2 (String.le_antisymm (String.not_lt.mp stays) both.1)

theorem mem_orderedMounts_iff (entries : List (String × Mount))
    (distinct : (entries.map Prod.fst).Nodup) (mount : Mount) :
    mount ∈ orderedMounts entries ↔ ∃ key, (key, mount) ∈ entries := by
  rw [orderedMounts, List.mem_filterMap]
  refine exists_congr fun key => ?_
  rw [List.mem_insertionSort, lookup_eq_some_iff_mem entries distinct]
  exact and_iff_right_of_imp fun member => List.mem_map.mpr ⟨_, member, rfl⟩

theorem entries_keyed {given : List (String × Mount)}
    (mapped : userMounts.mapM givenMount = some given) :
    ∀ entry ∈ assignAll (imageVolumes.map (declaredMount host) ++ given) [],
        entry.2.target = entry.1 := by
  refine assignAll_forall (fun entry : String × Mount => entry.2.target = entry.1) _ _ ?_ (by simp)
  intro entry member
  rcases List.mem_append.mp member with declared | user
  · rcases List.mem_map.mp declared with ⟨_, _, rfl⟩
    rfl
  · rcases mem_of_mapM mapped user with ⟨source, _, same⟩
    rcases (givenMount_eq_some_iff _ _).mp same with ⟨_, _, _, _, rfl⟩
    rfl

theorem handleContainerMounts_sorted
    (made : handleContainerMounts host imageVolumes userMounts = some mounts) :
    mounts.Pairwise fun earlier later => later.target < earlier.target := by
  rcases handleContainerMounts_eq_some_iff.mp made with ⟨given, mapped, rfl⟩
  have distinct :=
    assignAll_distinct (imageVolumes.map (declaredMount host) ++ given) [] List.nodup_nil
  have keyed : ∀ entry ∈ assignAll (imageVolumes.map (declaredMount host) ++ given) [],
      entry.2.target = entry.1 :=
    entries_keyed mapped
  refine List.pairwise_filterMap.mpr ((descending_keys _ distinct).imp ?_)
  intro earlier later ordered mount found other found'
  have first := keyed _ ((lookup_eq_some_iff_mem _ distinct _ _).mp found)
  have second := keyed _ ((lookup_eq_some_iff_mem _ distinct _ _).mp found')
  rwa [first, second]

theorem handleContainerMounts_given
    (made : handleContainerMounts host imageVolumes userMounts = some mounts)
    (distinct : (userMounts.map Prod.fst).Nodup) (key : String) (spec : MountSpec)
    (member : (key, spec) ∈ userMounts) :
    ∃ type source, spec.type = some type ∧ spec.source = some source ∧
      ∀ mount, mount ∈ mounts ∧ mount.target = key ↔
          mount = ⟨type, source, key, spec.readonly⟩ := by
  rcases handleContainerMounts_eq_some_iff.mp made with ⟨given, mapped, rfl⟩
  rcases mapM_mem mapped member with ⟨entry, among, same⟩
  rcases (givenMount_eq_some_iff _ _).mp same with ⟨type, source, typed, sourced, rfl⟩
  refine ⟨type, source, typed, sourced, fun mount => ?_⟩
  have keys : given.map Prod.fst = userMounts.map Prod.fst := by
    refine mapM_map_eq Prod.fst Prod.fst ?_ mapped
    intro entry made same
    rcases (givenMount_eq_some_iff _ _).mp same with ⟨_, _, _, _, rfl⟩
    rfl
  set entries := assignAll (imageVolumes.map (declaredMount host) ++ given) [] with whole
  have unique :=
    assignAll_distinct (imageVolumes.map (declaredMount host) ++ given) [] List.nodup_nil
  -- the entries of the request are assigned last, and their keys are distinct
  have stored : entries.lookup key = some ⟨type, source, key, spec.readonly⟩ := by
    rw [whole, assignAll, List.foldl_append]
    exact lookup_assignAll_of_mem given _ (keys ▸ distinct) _ _ among
  rw [mem_orderedMounts_iff entries unique]
  constructor
  · rintro ⟨⟨other, here⟩, target⟩
    have under : mount.target = other := entries_keyed mapped _ here
    rw [← under, target, ← lookup_eq_some_iff_mem entries unique, stored] at here
    exact (Option.some.inj here).symm
  · rintro rfl
    exact ⟨⟨key, (lookup_eq_some_iff_mem entries unique _ _).mp stored⟩, rfl⟩

end ContainerMounts

/-- create_anamous_volumes: the directory constant it uses does not exist, so the
first volume mount with a UUID for its source raises. -/
def createAnamousVolumes (host : Host) (mounts : List Mount) : Bool :=
  mounts.all fun mount => mount.type ≠ "volume" || !host.isUuid mount.source

def mergeEnv (image user : List (String × String)) : List (String × String) :=
  user.foldl (fun entries entry => assign entry.1 entry.2 entries) image

/-- Python's `or` on two values that may be absent or empty. -/
def firstGiven (first second : Option String) : Option String :=
  (first.filter fun text => text ≠ "").or (second.filter fun text => text ≠ "")

def createContainerJson (host : Host) (image : ImageJson) (request : Request) : Option Config :=
  image.volumes.bind fun volumes => request.mounts.bind fun userMounts =>
    (handleContainerMounts host volumes userMounts).bind fun mounts =>
      if createAnamousVolumes host mounts then
        some {
          command := if request.command = [] then image.command else request.command
          entrypoint := if request.entrypoint = [] then image.entrypoint else request.entrypoint
          env := assign "PATH" (":".intercalate image.path) (mergeEnv image.env request.env)
          user := firstGiven request.user image.user
          workingDir := firstGiven request.workingDir image.workingDir
          mounts := mounts
          ports := request.ports
          restart := request.restart
          rm := request.rm }
      else none

def splitImage (image : String) : Option (String × String) :=
  match image.toList.splitOn ':' with
  | [name, tag] => some (String.ofList name, String.ofList tag)
  | _ => none

def findImage (tables : Tables) (name tag : String) : Option (Nat × ImageRow) :=
  (tables.images.select fun row => row.name = name && row.tag = tag).head?

def prepareRow (host : Host) (request : Request) (networkIds : List Nat) (imageId : Nat)
    (image : ImageRow) : Option Accepted :=
  image.json.bind fun json => (createContainerJson host json request).map fun config =>
    { row := ⟨request.name, imageId, config, request.project, request.service, host.gid⟩
      imageGid := image.gid
      networkIds := networkIds }

/-- create_container up to insert_container. -/
def prepare (host : Host) (tables : Tables) (request : Request) : Preparation :=
  if request.name = "" then .refused .emptyName
  else
    match request.image with
    | none => .raised
    | some image =>
      match splitImage image with
      | none => .raised
      | some (imageName, tag) =>
        let validated :=
          if request.networks = [] then some (none, [])
          else validateContainerOptions tables request.networks request.mounts
        match validated with
        | none => .raised
        | some (some refusal, _) => .refused refusal
        | some (none, networkIds) =>
          match findImage tables imageName tag with
          | none => .refused (.invalidImage image)
          | some (imageId, row) =>
            match prepareRow host request networkIds imageId row with
            | none => .raised
            | some accepted => .ready accepted

theorem prepareRow_networkIds (host : Host) (request : Request) (networkIds : List Nat)
    (imageId : Nat) (image : ImageRow) (accepted : Accepted)
    (made : prepareRow host request networkIds imageId image = some accepted) :
    accepted.networkIds = networkIds := by
  rcases Option.bind_eq_some_iff.mp made with ⟨json, _, mapped⟩
  rcases Option.map_eq_some_iff.mp mapped with ⟨config, _, rfl⟩
  rfl

theorem prepare_ready (host : Host) (tables : Tables) (request : Request) (accepted : Accepted)
    (ready : prepare host tables request = .ready accepted) :
    accepted.networkIds.Nodup ∧ ∀ name ∈ request.networks, ∃ networkId ∈ accepted.networkIds, ∃ row,
      tables.networks.rows.get networkId = some row ∧ row.name = name := by
  unfold prepare at ready
  split at ready
  · cases ready
  · split at ready
    · cases ready
    · split at ready
      · cases ready
      · dsimp only at ready
        split at ready
        · cases ready
        · cases ready
        · rename_i networkIds validated
          split at ready
          · cases ready
          · split at ready
            · cases ready
            · rename_i made
              cases ready
              rw [prepareRow_networkIds _ _ _ _ _ _ made]
              by_cases bare : request.networks = []
              · rw [if_pos bare] at validated
                cases validated
                simp [bare]
              · rw [if_neg bare] at validated
                exact validateContainerOptions_accepts _ _ _ _ validated

end Dockermock.Database
