import Mathlib.Logic.Relation
import Dockermock.Database.Interleaved
import Dockermock.Database.Removal
import Dockermock.Jail.Confinement

/-!
What the handlers of the server can do to the records. Each of them inserts rows
one after another, every row under the checks that its table makes, and then
commits, rolls back or leaves the rows open; no row is ever changed or deleted.
The foreign keys that the connection does not enforce hold all the same.
-/

namespace Dockermock.Api

open Library Network Database

section Rows

/-- One INSERT that its constraints let through, with rows there for its foreign keys, or one
into volumes that is ignored. -/
inductive Inserted (tables : Tables) : Tables → Prop where
  | container (row : ContainerRow) (image : row.imageId ∈ tables.images.rows.keys)
      (free : ¬ NameTaken tables row.name) : Inserted tables (withContainer tables row)
  | allocated (net : IpNetwork) (free : net ∉ allocatedValues tables) :
      Inserted tables (withAllocated tables net)
  | network (name : String) (net : IpNetwork) (free : nameFree tables (some name) = true) :
      Inserted tables (withNetwork tables name net)
  | attachment (row : ContainerNetworkRow) (network : row.networkId ∈ tables.networks.rows.keys)
      (container : row.containerId ∈ tables.containers.rows.keys)
      (apart : linked tables row.networkId row.containerId = false) :
      Inserted tables { tables with containerNetworks := tables.containerNetworks.insert row }
  | volume (row : VolumeRow) (free : volumeId tables.volumes row.name = none) :
      Inserted tables { tables with volumes := tables.volumes.insert row }
  | ignored : Inserted tables { tables with volumes := tables.volumes.skip }
  | mounted (row : VolumeContainerRow) (volume : row.volumeId ∈ tables.volumes.rows.keys)
      (container : row.containerId ∈ tables.containers.rows.keys)
      (apart : ¬ Table.holds tables.volumeContainers row) :
      Inserted tables { tables with volumeContainers := tables.volumeContainers.insert row }

abbrev Filled : Tables → Tables → Prop := Relation.ReflTransGen Inserted

inductive Handled (conn : Conn) : Conn → Bool → Prop where
  | left (tables : Tables) (filled : Filled conn.view tables) :
      Handled conn (conn.write tables) false
  | undone : Handled conn conn.rollback false
  | done (tables : Tables) (filled : Filled conn.view tables) :
      Handled conn (conn.write tables).commit true

theorem Handled.untouched (conn : Conn) : Handled conn conn false := .left conn.view .refl

def Lasts {Row : Type} (before after : Table Row) : Prop :=
  before.rows.entries <+: after.rows.entries

theorem lasts_refl {Row : Type} (table : Table Row) : Lasts table table := List.prefix_rfl

theorem Lasts.trans {Row : Type} {before middle after : Table Row} (first : Lasts before middle)
    (second : Lasts middle after) : Lasts before after := List.IsPrefix.trans first second

theorem lasts_insert {Row : Type} (table : Table Row) (row : Row) :
    Lasts table (table.insert row) := by
  rw [Lasts, Table.insert_entries]
  exact List.prefix_append _ _

theorem Lasts.get {Row : Type} {before after : Table Row} (lasts : Lasts before after) {id : Nat}
    {row : Row} (held : before.rows.get id = some row) : after.rows.get id = some row :=
  (Dict.get_eq_some_iff _ _ _).mpr (lasts.subset ((Dict.get_eq_some_iff _ _ _).mp held))

theorem Lasts.keys {Row : Type} {before after : Table Row} (lasts : Lasts before after) {id : Nat}
    (present : id ∈ before.rows.keys) : id ∈ after.rows.keys := (lasts.map Prod.fst).subset present

theorem Lasts.select {Row : Type} {before after : Table Row} (lasts : Lasts before after)
    (where' : Row → Bool) :
    before.select where' <+: after.select where' := List.IsPrefix.filter _ lasts

structure Kept (before after : Tables) : Prop where
  containers : Lasts before.containers after.containers
  networks : Lasts before.networks after.networks
  allocatedSubnets : Lasts before.allocatedSubnets after.allocatedSubnets
  containerNetworks : Lasts before.containerNetworks after.containerNetworks
  volumes : Lasts before.volumes after.volumes
  volumeContainers : Lasts before.volumeContainers after.volumeContainers
  images : after.images = before.images

theorem kept_refl (tables : Tables) : Kept tables tables :=
  ⟨lasts_refl _, lasts_refl _, lasts_refl _, lasts_refl _, lasts_refl _, lasts_refl _, rfl⟩

theorem Kept.trans {before middle after : Tables} (first : Kept before middle)
    (second : Kept middle after) : Kept before after where
  containers := first.containers.trans second.containers
  networks := first.networks.trans second.networks
  allocatedSubnets := first.allocatedSubnets.trans second.allocatedSubnets
  containerNetworks := first.containerNetworks.trans second.containerNetworks
  volumes := first.volumes.trans second.volumes
  volumeContainers := first.volumeContainers.trans second.volumeContainers
  images := second.images.trans first.images

theorem Inserted.kept {before after : Tables} (inserted : Inserted before after) :
    Kept before after := by
  cases inserted with
  | container row _ _ => exact { kept_refl before with containers := lasts_insert _ row }
  | allocated net _ => exact { kept_refl before with allocatedSubnets := lasts_insert _ net }
  | network name net _ =>
      exact { kept_refl before with networks := lasts_insert _ (⟨name, some net⟩ : NetworkRow) }
  | attachment row _ _ _ => exact { kept_refl before with containerNetworks := lasts_insert _ row }
  | volume row _ => exact { kept_refl before with volumes := lasts_insert _ row }
  | ignored => exact { kept_refl before with volumes := lasts_refl before.volumes }
  | mounted row _ _ _ => exact { kept_refl before with volumeContainers := lasts_insert _ row }

theorem kept_of_filled {before after : Tables} (filled : Filled before after) :
    Kept before after := by
  induction filled with
  | refl => exact kept_refl before
  | tail _ inserted ih => exact ih.trans inserted.kept

end Rows

section CreateContainer
variable {host : Host} {request : Request}

theorem prepare_made {tables : Tables} {accepted : Accepted}
    (ready : prepare host tables request = .ready accepted) :
    ∃ networkIds imageName tag imageId image,
      (if request.networks = [] then some (none, [])
        else validateContainerOptions tables request.networks request.mounts) =
          some (none, networkIds) ∧
      findImage tables imageName tag = some (imageId, image) ∧
      prepareRow host request networkIds imageId image = some accepted := by
  unfold prepare at ready
  split at ready
  · cases ready
  · split at ready
    · cases ready
    · split at ready
      · cases ready
      · dsimp only at ready
        split at ready
        · cases ready
        · cases ready
        · rename_i networkIds validated
          split at ready
          · cases ready
          · rename_i imageId image found
            split at ready
            · cases ready
            · rename_i made
              cases ready
              exact ⟨networkIds, _, _, imageId, image, validated, found, made⟩

theorem prepareRow_made {networkIds : List Nat} {imageId : Nat} {image : ImageRow}
    {accepted : Accepted}
    (made : prepareRow host request networkIds imageId image = some accepted) :
    accepted.row.name = request.name ∧ accepted.row.imageId = imageId ∧
        accepted.networkIds = networkIds := by
  rcases Option.bind_eq_some_iff.mp made with ⟨json, _, mapped⟩
  rcases Option.map_eq_some_iff.mp mapped with ⟨config, _, rfl⟩
  exact ⟨rfl, rfl, rfl⟩

theorem prepare_known {tables : Tables} {accepted : Accepted}
    (ready : prepare host tables request = .ready accepted) :
    accepted.row.imageId ∈ tables.images.rows.keys ∧
      ∀ networkId ∈ accepted.networkIds, networkId ∈ tables.networks.rows.keys := by
  rcases prepare_made ready with ⟨networkIds, _, _, imageId, image, validated, found, made⟩
  rcases prepareRow_made made with ⟨_, rfl, rfl⟩
  have listed := (Table.mem_select _ _ _ _).mp (List.mem_of_mem_head? found)
  refine ⟨(Dict.mem_keys_iff _ _).mpr ⟨image, listed.1⟩, fun networkId member => ?_⟩
  split at validated
  · simp only [Option.some.injEq, Prod.mk.injEq, true_and] at validated
    rw [← validated] at member
    cases member
  · rcases Option.bind_eq_some_iff.mp validated with ⟨mounts, _, checked⟩
    dsimp only at checked
    split_ifs at checked with typed complete
    · simp only [Option.some.injEq, Prod.mk.injEq, true_and] at checked
      rw [← checked] at member
      rcases List.mem_map.mp member with ⟨⟨_, row⟩, ordered, rfl⟩
      have selected := (Table.mem_select _ _ _ _).mp ((perm_inNameOrder _).mem_iff.mp ordered)
      exact (Dict.mem_keys_iff _ _).mpr ⟨row, selected.1⟩
    · simp at checked

theorem insertContainerNetworks_filled (rows : List ContainerNetworkRow) (tables : Tables)
    (known : ∀ row ∈ rows, row.networkId ∈ tables.networks.rows.keys ∧
      row.containerId ∈ tables.containers.rows.keys) :
    Filled tables (insertContainerNetworks rows tables).1 := by
  induction rows generalizing tables with
  | nil => exact .refl
  | cons row rest ih =>
      rw [insertContainerNetworks]
      cases entered : tables.insertContainerNetwork row with
      | none => exact .refl
      | some inserted =>
          rcases (insertContainerNetwork_eq_some_iff _ _ _).mp entered with ⟨apart, rfl⟩
          have here := known row List.mem_cons_self
          exact .head (.attachment row here.1 here.2 apart)
            (ih _ fun other member => known other (List.mem_cons_of_mem _ member))

theorem ensureVolume_filled (tables : Tables) (source : String) :
    Filled tables { tables with volumes := Tables.ensureVolume tables.volumes source } := by
  rw [ensureVolume_eq]
  split
  · rename_i absent
    exact .single (.volume ⟨source, "local", source⟩ absent)
  · exact .single .ignored

theorem linkContainerVolumes_filled (host : Host) (cid : Nat) (mounts : List Mount)
    (tables : Tables) (container : cid ∈ tables.containers.rows.keys) :
    Filled tables (linkContainerVolumes host cid mounts tables).1 := by
  induction mounts generalizing tables with
  | nil => exact .refl
  | cons mount rest ih =>
      by_cases volume : mount.type = "volume"
      · rcases volumeId_ensureVolume tables.volumes mount.source with ⟨id, known⟩
        rcases linkContainerVolumes_volume host cid mount rest tables id volume known with
          ⟨_, result⟩ | ⟨_, _, result⟩ | ⟨_, apart, result⟩
        · rw [result]
        · rw [result]
          exact ensureVolume_filled tables mount.source
        · rw [result]
          rcases get_of_volumeId _ _ _ known with ⟨row, held, _⟩
          refine (ensureVolume_filled tables mount.source).trans (.head ?_ (ih _ container))
          exact .mounted ⟨id, cid⟩ ((Dict.mem_keys_iff _ _).mpr ⟨row, held⟩) container apart
      · rw [linkContainerVolumes_skip host cid mount rest tables volume]
        exact ih tables container

theorem linkContainer_filled (host : Host) (accepted : Accepted) (cid : Nat) (tables : Tables)
    (container : cid ∈ tables.containers.rows.keys)
    (networks : ∀ networkId ∈ accepted.networkIds, networkId ∈ tables.networks.rows.keys) :
    Filled tables (linkContainer host accepted cid tables).1 := by
  unfold linkContainer
  split
  · exact .refl
  · rename_i rows addressed
    have own :=
      networkIds_of_addressed host tables cid
        _ _ ((networkRows_eq_some_iff host _ _ _ _).mp addressed)
    have entered : Filled tables (insertContainerNetworks rows tables).1 := by
      apply insertContainerNetworks_filled
      intro row member
      refine ⟨networks _ (own.1 ▸ List.mem_map_of_mem member), ?_⟩
      rw [own.2 row member]
      exact container
    split
    · rename_i networked failed
      rwa [failed] at entered
    · rename_i networked completed
      rw [completed] at entered
      exact entered.trans
        (linkContainerVolumes_filled host cid
          _ _ ((kept_of_filled entered).containers.keys container))

theorem linking_filled (host : Host) (conn : Conn) (request : Request) (accepted : Accepted)
    (ready : prepare host conn.view request = .ready accepted)
    (free : ¬ NameTaken conn.view accepted.row.name) :
    Filled conn.view (linking host conn accepted).1 := by
  rcases prepare_known ready with ⟨image, networks⟩
  refine .head (.container accepted.row image free)
    (linkContainer_filled host accepted _ _ ?_ networks)
  exact (Dict.mem_keys_set _ _ _ _).mpr (Or.inl rfl)

def succeeds : Outcome → Bool
  | .returned _ => true
  | .refused _ | .raised => false

theorem createContainer_handled (host : Host) (conn : Conn) (request : Request) :
    Handled conn (createContainer host conn request).2
        (succeeds (createContainer host conn request).1) := by
  unfold createContainer
  cases ready : prepare host conn.view request with
  | refused refusal => exact .untouched conn
  | raised => exact .untouched conn
  | ready accepted =>
      rcases createAccepted_cases host conn accepted (prepare_ready host _ _ _ ready).1 with
        ⟨_, result⟩ | ⟨free, _, result⟩ | ⟨free, _, _, result⟩ | ⟨free, _, _, _, result⟩
      · simp only [result]
        exact .untouched conn
      · simp only [result]
        exact .left _ (linking_filled host conn request accepted ready free)
      · simp only [result]
        exact .undone
      · simp only [result]
        exact .done _ (linking_filled host conn request accepted ready free)

end CreateContainer

section OtherHandlers

theorem attachNetwork_handled (host : Host) (conn : Conn) (containerName networkName : String) :
    Handled conn (attachNetwork host conn containerName networkName).2
      (succeeds (attachNetwork host conn containerName networkName).1) := by
  unfold attachNetwork
  split
  · exact .untouched conn
  · rename_i cid container containerFound
    split
    · exact .untouched conn
    · rename_i networkId network networkFound
      split
      · exact .untouched conn
      · split
        · exact .untouched conn
        · exact .undone
        · rename_i address _
          split
          · exact .undone
          · rename_i inserted entered
            rcases (insertContainerNetwork_eq_some_iff _ _ _).mp entered with ⟨apart, rfl⟩
            have cidHeld := ((Table.mem_select _ _ _ _).mp (List.mem_of_mem_head? containerFound)).1
            have networkHeld :=
              ((Table.mem_select _ _ _ _).mp (List.mem_of_mem_head? networkFound)).1
            refine .done _ (.single (.attachment ⟨networkId, cid, address⟩ ?_ ?_ apart))
            · exact (Dict.mem_keys_iff _ _).mpr ⟨network, networkHeld⟩
            · exact (Dict.mem_keys_iff _ _).mpr ⟨container, cidHeld⟩

/-- A statement of create_network ends with success exactly when it is the commit. -/
theorem advance_handled (conn : Conn) (phase : Phase) :
    match advance conn phase with
    | (after, .continues _) => Handled conn after false
    | (after, .ends report) => Handled conn after (!report.failed) := by
  cases phase with
  | asked request =>
      rw [advance]
      split_ifs
      · exact .untouched conn
      · cases request.subnet with
        | absent => exact .untouched conn
        | invalid => exact .untouched conn
        | parsed net =>
            dsimp only
            split_ifs
            · exact .untouched conn
            · exact .untouched conn
  | unnumbered request =>
      rw [advance]
      cases allocateSubnet (allocatedValues conn.view) <;> exact .untouched conn
  | chosen request net =>
      rw [advance]
      cases reserved : conn.view.insertAllocated net with
      | none => exact .untouched conn
      | some allocated =>
          rcases (insertAllocated_eq_some_iff _ _ _).mp reserved with ⟨free, rfl⟩
          exact .left _ (.single (.allocated net free))
  -- the reserved row is in the transaction already, and the network comes to it
  | reserved request net row =>
      rw [advance]
      cases entered : request.name.bind fun name => conn.view.insertNetwork ⟨name, some net⟩ with
      | none => exact .untouched conn
      | some inserted =>
          rcases Option.bind_eq_some_iff.mp entered with ⟨name, _, entered⟩
          rcases (insertNetwork_eq_some_iff _ _ _ _).mp entered with ⟨free, rfl⟩
          exact .left _ (.single (.network name net free))
  | inserted request net row => exact .done conn.view .refl

open Jail.Confinement in
theorem createVolume_handled (fs : FileSystem) (conn : Conn) (name : String) :
    match createVolume fs conn name with
    | (.created _, after, _) => Handled conn after true
    | (_, after, _) => Handled conn after false := by
  unfold createVolume
  cases known : volumeId conn.view.volumes name with
  | some id => exact .untouched conn
  | none =>
      dsimp only
      cases entered : conn.view.volumes.insertUnless (fun row => row.name = name) ⟨name, "nullfs",
          volumePath name⟩ with
      | none => exact .untouched conn
      | some volumes =>
          obtain ⟨_, rfl⟩ := (Table.insertUnless_eq_some_iff _ _ _ _).mp entered
          have filled : Filled conn.view
              { conn.view with volumes :=
                conn.view.volumes.insert ⟨name, "nullfs", volumePath name⟩ } :=
            .single (.volume ⟨name, "nullfs", volumePath name⟩ known)
          dsimp only
          cases (fs.makedirs (volumePath name)).2 with
          | false => exact .left _ filled
          | true => exact .done _ filled

theorem removeContainer_fails (storage : Storage) (conn : Conn) (name : String) :
    (removeContainer storage conn name).1 ≠ .returned none ∧
        (removeContainer storage conn name).2 = conn := by
  unfold removeContainer
  split
  · exact ⟨nofun, rfl⟩
  · split_ifs
    · exact ⟨nofun, rfl⟩
    · exact ⟨nofun, rfl⟩

end OtherHandlers

section Integrity

/-- The UNIQUE constraints and the foreign keys of db/01_init.sql. -/
structure Intact (tables : Tables) : Prop where
  containers : (tables.containers.rows.entries.map fun entry => entry.2.name).Nodup
  networks : (tables.networks.rows.entries.map fun entry => entry.2.name).Nodup
  allocatedSubnets : (tables.allocatedSubnets.rows.entries.map Prod.snd).Nodup
  volumes : (tables.volumes.rows.entries.map fun entry => entry.2.name).Nodup
  attached : (tables.containerNetworks.rows.entries.map
    fun entry => (entry.2.networkId, entry.2.containerId)).Nodup
  mounted : (tables.volumeContainers.rows.entries.map Prod.snd).Nodup
  images : ∀ entry ∈ tables.containers.rows.entries, entry.2.imageId ∈ tables.images.rows.keys
  attachments : ∀ entry ∈ tables.containerNetworks.rows.entries,
    entry.2.networkId ∈ tables.networks.rows.keys ∧
      entry.2.containerId ∈ tables.containers.rows.keys
  mounts : ∀ entry ∈ tables.volumeContainers.rows.entries,
    entry.2.volumeId ∈ tables.volumes.rows.keys ∧ entry.2.containerId ∈ tables.containers.rows.keys

theorem nodup_insert {Row Value : Type} (table : Table Row) (row : Row) (column : Nat × Row → Value)
    (distinct : (table.rows.entries.map column).Nodup)
    (fresh : ∀ entry ∈ table.rows.entries, column entry ≠ column (table.nextId, row)) :
    ((table.insert row).rows.entries.map column).Nodup := by
  rw [Table.insert_entries, List.map_append, List.map_singleton, ← List.concat_eq_append]
  refine distinct.concat fun member => ?_
  rcases List.mem_map.mp member with ⟨entry, listed, same⟩
  exact fresh entry listed same

theorem forall_insert {Row : Type} (table : Table Row) (row : Row) (holds : Nat × Row → Prop)
    (before : ∀ entry ∈ table.rows.entries, holds entry) (new : holds (table.nextId, row)) :
    ∀ entry ∈ (table.insert row).rows.entries, holds entry := by
  rw [Table.insert_entries]
  exact List.forall_mem_append.mpr ⟨before, List.forall_mem_singleton.mpr new⟩

theorem Inserted.intact {before after : Tables} (inserted : Inserted before after)
    (intact : Intact before) : Intact after := by
  -- a new row can break its own constraints only; the tables that refer to it have grown
  cases inserted with
  | container row image free =>
      refine { intact with containers := ?_, images := ?_, attachments := ?_, mounts := ?_ }
      · exact nodup_insert _ row _ intact.containers fun entry listed same =>
          free ⟨entry, listed, same⟩
      · exact forall_insert _ row _ intact.images image
      · exact fun entry listed =>
          (intact.attachments entry listed).imp_right (lasts_insert _ row).keys
      · exact fun entry listed => (intact.mounts entry listed).imp_right (lasts_insert _ row).keys
  | allocated net free =>
      refine { intact with allocatedSubnets := ?_ }
      exact nodup_insert _ net _ intact.allocatedSubnets fun entry listed same =>
        free (List.mem_map.mpr ⟨entry, listed, same⟩)
  | network name net free =>
      simp only [nameFree, Option.any_some, List.all_eq_true, decide_eq_true_eq] at free
      refine { intact with networks := ?_, attachments := ?_ }
      · exact nodup_insert _ ⟨name, some net⟩ (fun entry => entry.2.name) intact.networks
            fun entry listed same =>
          free _ (List.mem_map_of_mem listed) same
      · exact fun entry listed => (intact.attachments entry listed).imp_left
          (lasts_insert _ (⟨name, some net⟩ : NetworkRow)).keys
  | attachment row network container apart =>
      refine { intact with attached := ?_, attachments := ?_ }
      · refine nodup_insert _ row _ intact.attached fun entry listed same => ?_
        have both := List.any_eq_false.mp apart entry listed
        rcases Prod.mk.injEq .. ▸ same with ⟨networks, containers⟩
        simp [networks, containers] at both
      · exact forall_insert _ row _ intact.attachments ⟨network, container⟩
  | volume row free =>
      refine { intact with volumes := ?_, mounts := ?_ }
      · exact nodup_insert _ row _ intact.volumes ((volumeId_eq_none_iff _ _).mp free)
      · exact fun entry listed => (intact.mounts entry listed).imp_left (lasts_insert _ row).keys
  | ignored => exact { intact with volumes := intact.volumes, mounts := intact.mounts }
  | mounted row volume container apart =>
      refine { intact with mounted := ?_, mounts := ?_ }
      · refine nodup_insert _ row _ intact.mounted fun entry listed same => apart ⟨entry.1, ?_⟩
        rw [← show entry.2 = row from same]
        exact listed
      · exact forall_insert _ row _ intact.mounts ⟨volume, container⟩

theorem intact_of_filled {before after : Tables} (filled : Filled before after)
    (intact : Intact before) : Intact after := by
  induction filled with
  | refl => exact intact
  | tail _ inserted ih => exact inserted.intact ih

/-- What the connection sees is all that is committed and more, and both are intact. -/
structure InOrder (conn : Conn) : Prop where
  committed : Intact conn.committed
  view : Intact conn.view
  ahead : Kept conn.committed conn.view

theorem InOrder.handled {before after : Conn} {success : Bool} (order : InOrder before)
    (handled : Handled before after success) : InOrder after := by
  cases handled with
  | left tables filled =>
      exact ⟨order.committed, intact_of_filled filled order.view,
        order.ahead.trans (kept_of_filled filled)⟩
  | undone => exact ⟨order.committed, order.committed, kept_refl _⟩
  | done tables filled =>
      have whole := intact_of_filled filled order.view
      exact ⟨whole, whole, kept_refl _⟩

/-- Committed rows stay whatever a handler does. -/
theorem InOrder.lasts {before after : Conn} {success : Bool} (order : InOrder before)
    (handled : Handled before after success) : Kept before.committed after.committed := by
  cases handled with
  | left tables filled => exact kept_refl _
  | undone => exact kept_refl _
  | done tables filled => exact order.ahead.trans (kept_of_filled filled)

end Integrity

end Dockermock.Api
