import Dockermock.Library.Paths
import Dockermock.Database.Atomicity
import Dockermock.Lifecycle.Server

/-!
remove_container. Its path to the dataset is made of `res[2]`, but the row is in
`cont`, and `res` is a local variable that is assigned only afterwards: every
call that gets there raises. With the row's own column the three DELETEs would
take back what create_container has inserted.
-/

namespace Dockermock.Database

open Library Network Lifecycle

inductive Driver where
  | zfs | ufs
  deriving DecidableEq, Repr

def Driver.containerRoot : Driver → String
  | .zfs => "zroot/jails/containers"
  | .ufs => "/jails/containers"

/-- What remove_container gets from outside the database, and the status column of containers. -/
structure Storage where
  driver : Driver
  status : Nat → Status
  jailGetId : String → Int
  deleteDataset : String → Int × Option String

inductive Removal where
  | returned (error : Option String)
  | raised
  deriving DecidableEq, Repr

/-- The gid is the third column of the row. -/
def datasetPath (driver : Driver) (gid : String) : String :=
  match driver with
  | .ufs => joinPath driver.containerRoot (joinPath gid "root")
  | .zfs => joinPath driver.containerRoot gid

def unlink (tables : Tables) (cid : Nat) : Tables :=
  { tables with
    volumeContainers := tables.volumeContainers.delete fun _ row => row.containerId = cid
    containerNetworks := tables.containerNetworks.delete fun _ row => row.containerId = cid
    containers := tables.containers.delete fun id _ => id = cid }

/-- From the path on. `res` is the third column of the variable of that name, if it is bound. -/
def removeRow (storage : Storage) (conn : Conn) (cid : Nat) (res : Option String) :
    Removal × Conn :=
  match res with
  | none => (.raised, conn)
  | some gid =>
      match storage.deleteDataset (datasetPath storage.driver gid) with
      | (code, error) =>
          if code < 0 then (.returned error, conn)
          else (.returned none, (conn.write (unlink conn.view cid)).commit)

def removeContainer (storage : Storage) (conn : Conn) (name : String) : Removal × Conn :=
  match (conn.view.containers.select fun row => row.name = name).head? with
  | none => (.returned (some ("Container " ++ name ++ " not found")), conn)
  | some (cid, _) =>
      if storage.status cid = .running ∧ storage.jailGetId name ≠ -1 then
        (.returned (some "Container is running. Stop and retry"), conn)
      -- Nothing has been assigned to `res` here; the SELECT went into `cont`.
      else removeRow storage conn cid none

section Property

structure Unlinked (before after : Tables) (cid : Nat) : Prop where
  containers : after.containers.rows.entries = before.containers.rows.entries.filter
    fun entry => entry.1 ≠ cid
  containerNetworks : after.containerNetworks.rows.entries =
    before.containerNetworks.rows.entries.filter fun entry => entry.2.containerId ≠ cid
  volumeContainers : after.volumeContainers.rows.entries =
    before.volumeContainers.rows.entries.filter fun entry => entry.2.containerId ≠ cid
  networks : after.networks = before.networks
  allocatedSubnets : after.allocatedSubnets = before.allocatedSubnets
  volumes : after.volumes = before.volumes
  images : after.images = before.images

/-- `None` is returned, the rows are gone for good, and the addresses can be given out again. -/
structure Removes (before : Conn) (cid : Nat) (result : Removal × Conn) : Prop where
  returned : result.1 = .returned none
  view : Unlinked before.view result.2.view cid
  committed : result.2.committed = result.2.view
  freed : ∀ networkId, usedIps result.2.view networkId =
    ((before.view.containerNetworks.select fun row => row.networkId = networkId).filter
      fun entry => entry.2.containerId ≠ cid).map fun entry => entry.2.ipAddress

end Property

/-- No container that is not running is ever removed. -/
theorem remove_container_never (storage : Storage) (conn : Conn) (name : String) (cid : Nat)
    (row : ContainerRow)
    (listed : (conn.view.containers.select fun row => row.name = name).head? = some (cid, row))
    (stopped : storage.status cid ≠ .running) :
    ¬ Removes conn cid (removeContainer storage conn name) := by
  have raises : removeContainer storage conn name = (.raised, conn) := by
    rw [removeContainer, listed]
    simp only [stopped, false_and, if_false]
    rfl
  intro removes
  have returned := removes.returned
  rw [raises] at returned
  cases returned

section Intended

theorem unlink_unlinked (tables : Tables) (cid : Nat) :
    Unlinked tables (unlink tables cid) cid := by
  constructor <;> simp [unlink, Table.delete]

theorem removeRow_bound (storage : Storage) (conn : Conn) (cid : Nat) (gid : String)
    (deleted : 0 ≤ (storage.deleteDataset (datasetPath storage.driver gid)).1) :
    Removes conn cid (removeRow storage conn cid (some gid)) := by
  have result : removeRow storage conn cid (some gid) =
      (.returned none, (conn.write (unlink conn.view cid)).commit) := by
    simp only [removeRow, if_neg (Int.not_lt.mpr deleted)]
  rw [result]
  refine ⟨rfl, unlink_unlinked conn.view cid, rfl, fun networkId => ?_⟩
  simp only [usedIps, Table.select, Connection.commit, Connection.write, unlink, Table.delete,
    List.filter_filter]
  congr 2
  funext entry
  simp [Bool.and_comm]

def GrowsBy {Row : Type} (own : Row → Bool) (before after : Table Row) : Prop :=
  ∃ added, after.rows.entries = before.rows.entries ++ added ∧ ∀ entry ∈ added, own entry.2 = true

theorem growsBy_refl {Row : Type} (own : Row → Bool) (table : Table Row) :
    GrowsBy own table table :=
  ⟨[], (List.append_nil _).symm, nofun⟩

theorem GrowsBy.insert {Row : Type} {own : Row → Bool} {before after : Table Row}
    (grows : GrowsBy own before after) (row : Row) (owned : own row = true) :
    GrowsBy own before (after.insert row) := by
  rcases grows with ⟨added, same, all⟩
  refine ⟨added ++ [(after.nextId, row)], ?_, ?_⟩
  · rw [Table.insert_entries, same, List.append_assoc]
  · exact List.forall_mem_append.mpr ⟨all, List.forall_mem_singleton.mpr owned⟩

theorem GrowsBy.delete {Row : Type} {own : Row → Bool} {before after : Table Row}
    (grows : GrowsBy own before after)
    (foreign : ∀ entry ∈ before.rows.entries, own entry.2 = false) :
    (after.delete fun _ row => own row).rows.entries = before.rows.entries := by
  rcases grows with ⟨added, same, all⟩
  have kept : before.rows.entries.filter (fun entry => !own entry.2) = before.rows.entries := by
    rw [List.filter_eq_self]
    intro entry member
    rw [foreign entry member]
    rfl
  have gone : added.filter (fun entry => !own entry.2) = [] := by
    rw [List.filter_eq_nil_iff]
    intro entry member
    rw [all entry member]
    decide
  have filtered : (after.delete fun _ row => own row).rows.entries =
      after.rows.entries.filter fun entry => !own entry.2 := rfl
  rw [filtered, same, List.filter_append, kept, gone, List.append_nil]

theorem insertContainerNetworks_grows (cid : Nat) (rows : List ContainerNetworkRow)
    (before tables : Tables) (own : ∀ row ∈ rows, row.containerId = cid)
    (grows : GrowsBy (fun row => row.containerId = cid) before.containerNetworks
      tables.containerNetworks) :
    GrowsBy (fun row => row.containerId = cid) before.containerNetworks
      (insertContainerNetworks rows tables).1.containerNetworks := by
  induction rows generalizing tables with
  | nil => exact grows
  | cons row rest ih =>
      rw [insertContainerNetworks]
      cases taken : tables.insertContainerNetwork row with
      | none => exact grows
      | some inserted =>
          rcases (insertContainerNetwork_eq_some_iff _ _ _).mp taken with ⟨_, rfl⟩
          have owned := own row List.mem_cons_self
          refine ih _ (fun other member => own other (List.mem_cons_of_mem _ member)) ?_
          exact grows.insert row (decide_eq_true owned)

theorem linkContainerVolumes_grows (host : Host) (cid : Nat) (mounts : List Mount)
    (before tables : Tables)
    (grows : GrowsBy (fun row => row.containerId = cid) before.volumeContainers
      tables.volumeContainers) :
    GrowsBy (fun row => row.containerId = cid) before.volumeContainers
      (linkContainerVolumes host cid mounts tables).1.volumeContainers := by
  apply linkContainerVolumes_preserves host cid fun after =>
    GrowsBy (fun row => row.containerId = cid) before.volumeContainers after.volumeContainers
  · exact fun _ _ kept => kept
  · exact fun _ _ id kept => kept.insert ⟨id, cid⟩ (decide_eq_true rfl)
  · exact grows

theorem linkContainer_grows (host : Host) (accepted : Accepted) (cid : Nat) (tables : Tables) :
    GrowsBy (fun row => row.containerId = cid) tables.containerNetworks
        (linkContainer host accepted cid tables).1.containerNetworks ∧
      GrowsBy (fun row => row.containerId = cid) tables.volumeContainers
        (linkContainer host accepted cid tables).1.volumeContainers := by
  unfold linkContainer
  split
  · exact ⟨growsBy_refl _ _, growsBy_refl _ _⟩
  · rename_i rows addressed
    have own := (networkIds_of_addressed host tables cid accepted.networkIds rows
      ((networkRows_eq_some_iff host tables cid _ _).mp addressed)).2
    have networks := insertContainerNetworks_grows cid rows tables tables own (growsBy_refl _ _)
    rcases insertContainerNetworks_frame rows tables with ⟨links, frame⟩
    split
    · rename_i networked failed
      rw [failed] at networks frame
      exact ⟨networks, by rw [frame]; exact growsBy_refl _ _⟩
    · rename_i networked entered
      rw [entered] at networks frame
      dsimp only at networks frame
      rcases linkContainerVolumes_frame host cid accepted.row.config.mounts networked
        with ⟨volumes, volumeLinks, same⟩
      refine ⟨by rw [same]; exact networks, ?_⟩
      have start : GrowsBy (fun row => row.containerId = cid) tables.volumeContainers
          networked.volumeContainers := by
        rw [frame]
        exact growsBy_refl _ _
      exact linkContainerVolumes_grows host cid _ tables networked start

/-- After a successful create_container the three DELETEs give back the tables from before it. -/
theorem unlink_undoes_create (host : Host) (conn after : Conn) (request : Request) (cid : Nat)
    (created : createContainer host conn request = (.returned cid, after))
    (unlinked : ∀ entry ∈ conn.view.containerNetworks.rows.entries,
      entry.2.containerId ≠ conn.view.containers.nextId)
    (unmounted : ∀ entry ∈ conn.view.volumeContainers.rows.entries,
      entry.2.containerId ≠ conn.view.containers.nextId) :
    (unlink after.view cid).containers.rows.entries = conn.view.containers.rows.entries ∧
      (unlink after.view cid).containerNetworks.rows.entries =
        conn.view.containerNetworks.rows.entries ∧
        (unlink after.view cid).volumeContainers.rows.entries =
            conn.view.volumeContainers.rows.entries := by
  rw [createContainer] at created
  cases ready : prepare host conn.view request with
  | refused refusal => simp [ready] at created
  | raised => simp [ready] at created
  | ready accepted =>
      simp only [ready] at created
      rcases createAccepted_cases host conn accepted (prepare_ready host _ _ _ ready).1 with
        ⟨_, result⟩ | ⟨_, _, result⟩ | ⟨_, _, _, result⟩ | ⟨_, _, _, _, result⟩
      -- only the last way of create_container returns an id
      · simp [result] at created
      · simp [result] at created
      · simp [result] at created
      · rw [result] at created
        cases created
        rcases linkContainer_grows host accepted conn.view.containers.nextId
          (withContainer conn.view accepted.row) with ⟨networks, volumes⟩
        rcases linking_frame host conn accepted with ⟨_, _, _, frame⟩
        refine ⟨?_, ?_, ?_⟩
        · have inserted : ((conn.write (linking host conn accepted).1).commit).view.containers =
              conn.view.containers.insert accepted.row := by
            rw [Connection.commit, Connection.write, frame]
            rfl
          rw [(unlink_unlinked _ _).containers, inserted, Table.insert_entries, List.filter_append]
          -- the new key was not in use, so that the DELETE takes the new row alone
          have kept : conn.view.containers.rows.entries.filter
              (fun entry => entry.1 ≠ conn.view.containers.nextId) =
                  conn.view.containers.rows.entries := by
            rw [List.filter_eq_self]
            intro entry member
            refine decide_eq_true fun same => conn.view.containers.nextId_absent ?_
            exact same ▸ List.mem_map_of_mem member
          rw [kept]
          simp
        · exact networks.delete fun entry member => decide_eq_false (unlinked entry member)
        · exact volumes.delete fun entry member => decide_eq_false (unmounted entry member)

end Intended

section Example

def datasetGone : Storage := ⟨.zfs, fun _ => .created, fun _ => -1, fun _ => (0, none)⟩

def webCreated : Conn := (createContainer workingHost stocked (alpineRequest "web" [])).2

theorem web_listed : ∃ row,
    (webCreated.view.containers.select fun row => row.name = "web").head? = some (1, row) := by
  have found : ((webCreated.view.containers.select fun row => row.name = "web").head?).map
      Prod.fst = some 1 := by
    decide
  rcases Option.map_eq_some_iff.mp found with ⟨⟨cid, row⟩, listed, rfl⟩
  exact ⟨row, listed⟩

theorem remove_container_never_web : ∃ row,
    (webCreated.view.containers.select fun row => row.name = "web").head? = some (1, row) ∧
      ¬ Removes webCreated 1 (removeContainer datasetGone webCreated "web") :=
  web_listed.imp fun row listed =>
    ⟨listed, remove_container_never datasetGone webCreated "web" 1 row listed (by decide)⟩

/-- The container that has just been created cannot be removed. -/
theorem created_container_not_removed :
    ¬ ∀ storage conn name cid row, (∀ path, 0 ≤ (storage.deleteDataset path).1) →
      (conn.view.containers.select fun row => row.name = name).head? = some (cid, row) →
        storage.status cid ≠ .running → Removes conn cid (removeContainer storage conn name) := by
  intro claimed
  rcases web_listed with ⟨row, listed⟩
  have removes :=
    claimed datasetGone webCreated "web" 1 row (fun _ => Int.le_refl 0) listed (by decide)
  have raised : (removeContainer datasetGone webCreated "web").1 = .raised := by decide
  exact absurd (raised.symm.trans removes.returned) (by decide)

end Example

end Dockermock.Database
