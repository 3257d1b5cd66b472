import Dockermock.Library.Lists
import Dockermock.Database.Operations

/-!
The two loops that insert a container's rows into the link tables. Each is
described by what it leaves alone, by exactly when it gets to its end, and by
the rows that are there when it does.
-/

namespace Dockermock.Database

open Library Network

def Table.holds {Row : Type} (table : Table Row) (row : Row) : Prop :=
  ∃ id, (id, row) ∈ table.rows.entries

instance {Row : Type} [DecidableEq Row] (table : Table Row) (row : Row) :
    Decidable (Table.holds table row) :=
  decidable_of_iff (row ∈ table.rows.entries.map Prod.snd) (by simp [Table.holds])

theorem holds_insert {Row : Type} (table : Table Row) (row other : Row) :
    Table.holds (table.insert row) other ↔ Table.holds table other ∨ other = row := by
  unfold Table.holds
  simp only [Table.insert_entries, List.mem_append, List.mem_singleton, Prod.mk.injEq]
  constructor
  · rintro ⟨id, old | ⟨_, same⟩⟩
    · exact Or.inl ⟨id, old⟩
    · exact Or.inr same
  · rintro (⟨id, old⟩ | same)
    · exact ⟨id, Or.inl old⟩
    · exact ⟨table.nextId, Or.inr ⟨rfl, same⟩⟩

section ContainerNetworks

def linked (tables : Tables) (networkId cid : Nat) : Bool :=
  tables.containerNetworks.rows.entries.any fun entry =>
    entry.2.networkId = networkId && entry.2.containerId = cid

theorem insertContainerNetwork_eq_some_iff (tables after : Tables) (row : ContainerNetworkRow) :
    tables.insertContainerNetwork row = some after ↔
      linked tables row.networkId row.containerId = false ∧
        after = { tables with containerNetworks := tables.containerNetworks.insert row } := by
  unfold Tables.insertContainerNetwork linked
  simp only [Option.map_eq_some_iff, Table.insertUnless_eq_some_iff, List.any_eq_false,
    Bool.not_eq_true]
  constructor
  · rintro ⟨_, ⟨free, rfl⟩, rfl⟩
    exact ⟨free, rfl⟩
  · rintro ⟨free, rfl⟩
    exact ⟨_, ⟨free, rfl⟩, rfl⟩

theorem insertContainerNetwork_eq_none_iff (tables : Tables) (row : ContainerNetworkRow) :
    tables.insertContainerNetwork row = none ↔
        linked tables row.networkId row.containerId = true := by
  rw [← Bool.not_eq_false, ← not_iff_not, not_not, ← ne_eq, Option.ne_none_iff_exists']
  simp [insertContainerNetwork_eq_some_iff]

theorem linked_insert (tables : Tables) (row : ContainerNetworkRow) (networkId cid : Nat) :
    linked { tables with containerNetworks := tables.containerNetworks.insert row } networkId cid =
      (linked tables networkId cid || (row.networkId = networkId && row.containerId = cid)) := by
  simp [linked, Table.insert_entries]

theorem insertContainerNetworks_frame (rows : List ContainerNetworkRow) (tables : Tables) :
    ∃ links,
        (insertContainerNetworks rows tables).1 = { tables with containerNetworks := links } := by
  induction rows generalizing tables with
  | nil => exact ⟨tables.containerNetworks, rfl⟩
  | cons row rest ih =>
      rw [insertContainerNetworks]
      split
      · exact ⟨tables.containerNetworks, rfl⟩
      · rename_i inserted taken
        rcases (insertContainerNetwork_eq_some_iff _ _ _).mp taken with ⟨_, rfl⟩
        rcases ih _ with ⟨links, same⟩
        exact ⟨links, same⟩

theorem insertContainerNetworks_completes (cid : Nat) (rows : List ContainerNetworkRow)
    (tables : Tables) (own : ∀ row ∈ rows, row.containerId = cid) :
    (insertContainerNetworks rows tables).2 = true ↔
      (rows.map ContainerNetworkRow.networkId).Nodup ∧
        ∀ row ∈ rows, linked tables row.networkId cid = false := by
  induction rows generalizing tables with
  | nil => simp [insertContainerNetworks]
  | cons row rest ih =>
      have ownRest : ∀ other ∈ rest, other.containerId = cid := fun other member =>
        own other (List.mem_cons_of_mem _ member)
      have ownFirst := own row List.mem_cons_self
      rw [insertContainerNetworks]
      split
      · rename_i refused
        have taken := (insertContainerNetwork_eq_none_iff _ _).mp refused
        rw [ownFirst] at taken
        simp [taken]
      · rename_i inserted entered
        rcases (insertContainerNetwork_eq_some_iff _ _ _).mp entered with ⟨free, rfl⟩
        rw [ownFirst] at free
        -- The row just inserted is in the way of a later one for the same network only.
        rw [ih _ ownRest]
        simp only [linked_insert, ownFirst, Bool.or_eq_false_iff, List.map_cons, List.nodup_cons,
          List.mem_cons, forall_eq_or_imp, free, true_and, decide_true, Bool.and_true,
            decide_eq_false_iff_not]
        constructor
        · rintro ⟨distinct, others⟩
          refine ⟨⟨?_, distinct⟩, fun other member => (others other member).1⟩
          intro repeated
          rcases List.mem_map.mp repeated with ⟨other, member, same⟩
          exact (others other member).2 same.symm
        · rintro ⟨⟨absent, distinct⟩, others⟩
          refine ⟨distinct, fun other member => ⟨others other member, ?_⟩⟩
          intro same
          exact absent (List.mem_map.mpr ⟨other, member, same.symm⟩)

theorem insertContainerNetworks_holds (rows : List ContainerNetworkRow) (tables : Tables)
    (row : ContainerNetworkRow)
    (present : Table.holds tables.containerNetworks row ∨
      (insertContainerNetworks rows tables).2 = true ∧ row ∈ rows) :
    Table.holds (insertContainerNetworks rows tables).1.containerNetworks row := by
  induction rows generalizing tables with
  | nil => simpa [insertContainerNetworks] using present
  | cons first rest ih =>
      rw [insertContainerNetworks] at present ⊢
      split
      · rename_i refused
        simpa [refused] using present
      · rename_i inserted entered
        rcases (insertContainerNetwork_eq_some_iff _ _ _).mp entered with ⟨_, rfl⟩
        apply ih
        simp only [entered] at present
        rcases present with old | ⟨completed, member⟩
        · exact Or.inl ((holds_insert _ _ _).mpr (Or.inl old))
        · rcases List.mem_cons.mp member with same | later
          · exact Or.inl ((holds_insert _ _ _).mpr (Or.inr same))
          · exact Or.inr ⟨completed, later⟩

end ContainerNetworks

section Volumes

/-- The sources of the mounts that link_container_volumes does not skip. -/
def volumeSources (mounts : List Mount) : List String :=
  (mounts.filter fun mount => mount.type = "volume").map Mount.source

/-- The ids that the volumes of these sources have, or get one after the other. -/
def volumeIds : Table VolumeRow → List String → List Nat
  | _, [] => []
  | volumes, source :: rest =>
      let ensured := Tables.ensureVolume volumes source
      (volumeId ensured source).toList ++ volumeIds ensured rest

theorem volumeId_eq_none_iff (volumes : Table VolumeRow) (source : String) :
    volumeId volumes source = none ↔ ∀ entry ∈ volumes.rows.entries, entry.2.name ≠ source := by
  simp [volumeId, Table.select]

theorem volumeId_insert (volumes : Table VolumeRow) (source : String) (row : VolumeRow) :
    volumeId (volumes.insert row) source =
      (volumeId volumes source).or (if row.name = source then some volumes.nextId else none) := by
  unfold volumeId
  rw [Table.select_insert]
  by_cases named : row.name = source
  · cases volumes.select _ <;> simp [named]
  · simp [named]

theorem ensureVolume_eq (volumes : Table VolumeRow) (source : String) :
    Tables.ensureVolume volumes source =
      if volumeId volumes source = none then volumes.insert ⟨source, "local", source⟩
          else volumes.skip := by
  unfold Tables.ensureVolume Table.insertUnless
  by_cases absent : volumeId volumes source = none
  · have free := (volumeId_eq_none_iff _ _).mp absent
    rw [if_pos absent, if_neg (by simpa using free)]
    rfl
  · have taken := (not_congr (volumeId_eq_none_iff _ _)).mp absent
    rw [if_neg absent, if_pos (by simpa using taken)]
    rfl

theorem volumeId_ensureVolume (volumes : Table VolumeRow) (source : String) :
    ∃ id, volumeId (Tables.ensureVolume volumes source) source = some id := by
  rw [ensureVolume_eq]
  split
  · rename_i absent
    exact ⟨volumes.nextId, by simp [volumeId_insert, absent]⟩
  · rename_i present
    exact Option.ne_none_iff_exists'.mp present

theorem volumeId_ensureVolume_of_some (volumes : Table VolumeRow) (source other : String) (id : Nat)
    (known : volumeId volumes source = some id) :
    volumeId (Tables.ensureVolume volumes other) source = some id := by
  rw [ensureVolume_eq]
  split
  · simp [volumeId_insert, known]
  · exact known

theorem get_of_volumeId (volumes : Table VolumeRow) (source : String) (id : Nat)
    (known : volumeId volumes source = some id) :
    ∃ row, volumes.rows.get id = some row ∧ row.name = source := by
  rcases Option.map_eq_some_iff.mp known with ⟨⟨_, row⟩, first, rfl⟩
  have selected := (Table.mem_select _ _ _ _).mp (List.mem_of_mem_head? first)
  exact ⟨row, selected.1, by simpa using selected.2⟩

theorem source_of_volumeId (volumes : Table VolumeRow) (source other : String) (id : Nat)
    (known : volumeId volumes source = some id) (same : volumeId volumes other = some id) :
    other = source := by
  rcases get_of_volumeId volumes source id known with ⟨row, held, rfl⟩
  rcases get_of_volumeId volumes other id same with ⟨_, again, rfl⟩
  rw [held] at again
  cases again
  rfl

theorem mem_volumeIds_iff (volumes : Table VolumeRow) (sources : List String) (source : String)
    (id : Nat) (known : volumeId volumes source = some id) :
    id ∈ volumeIds volumes sources ↔ source ∈ sources := by
  induction sources generalizing volumes with
  | nil => simp [volumeIds]
  | cons other rest ih =>
      have kept := volumeId_ensureVolume_of_some volumes source other id known
      rcases volumeId_ensureVolume volumes other with ⟨first, found⟩
      simp only [volumeIds, found, Option.toList_some, List.singleton_append,
        List.mem_cons, ih _ kept]
      constructor
      · rintro (rfl | later)
        · exact Or.inl (source_of_volumeId _ _ _ _ found kept)
        · exact Or.inr later
      · rintro (rfl | later)
        · exact Or.inl (Option.some.inj (kept.symm.trans found))
        · exact Or.inr later

/-- What the rest of the loop goes on with, once a volume mount has been linked. -/
def linkVolume (tables : Tables) (source : String) (row : VolumeContainerRow) : Tables :=
  { tables with
    volumes := Tables.ensureVolume tables.volumes source
    volumeContainers := tables.volumeContainers.insert row }

theorem insertVolumeContainer_eq_none (tables : Tables) (row : VolumeContainerRow)
    (present : Table.holds tables.volumeContainers row) :
    tables.insertVolumeContainer row = none := by
  rcases present with ⟨id, member⟩
  have refused : tables.volumeContainers.rows.entries.any
      (fun entry => decide (entry.2 = row)) = true :=
    List.any_eq_true.mpr ⟨(id, row), member, by simp⟩
  simp [Tables.insertVolumeContainer, Table.insertUnless, refused]

theorem insertVolumeContainer_eq_some (tables : Tables) (row : VolumeContainerRow)
    (absent : ¬ Table.holds tables.volumeContainers row) :
    tables.insertVolumeContainer row =
      some { tables with volumeContainers := tables.volumeContainers.insert row } := by
  refine Option.map_eq_some_iff.mpr ⟨_, (Table.insertUnless_eq_some_iff _ _ _ _).mpr ⟨?_, rfl⟩, rfl⟩
  intro entry member
  exact decide_eq_false fun same => absent ⟨entry.1, same ▸ member⟩

theorem linkContainerVolumes_skip (host : Host) (cid : Nat) (mount : Mount) (rest : List Mount)
    (tables : Tables) (other : mount.type ≠ "volume") :
    linkContainerVolumes host cid (mount :: rest) tables =
        linkContainerVolumes host cid rest tables := by
  rw [linkContainerVolumes, if_pos other]

/-- The three ways a volume mount can go: no directory, a link that is there already, or
a new link. -/
theorem linkContainerVolumes_volume (host : Host) (cid : Nat) (mount : Mount) (rest : List Mount)
    (tables : Tables) (id : Nat) (volume : mount.type = "volume")
    (known : volumeId (Tables.ensureVolume tables.volumes mount.source) mount.source = some id) :
    (host.makedirs mount.source = false ∧
      linkContainerVolumes host cid (mount :: rest) tables = (tables, false)) ∨
    (host.makedirs mount.source = true ∧ Table.holds tables.volumeContainers ⟨id, cid⟩ ∧
      linkContainerVolumes host cid (mount :: rest) tables =
        ({ tables with volumes := Tables.ensureVolume tables.volumes mount.source }, false)) ∨
    (host.makedirs mount.source = true ∧ ¬ Table.holds tables.volumeContainers ⟨id, cid⟩ ∧
      linkContainerVolumes host cid (mount :: rest) tables =
        linkContainerVolumes host cid rest (linkVolume tables mount.source ⟨id, cid⟩)) := by
  rw [linkContainerVolumes, if_neg (not_not_intro volume)]
  by_cases made : host.makedirs mount.source = false
  · exact Or.inl ⟨made, if_pos made⟩
  · rw [if_neg made]
    simp only [known]
    have made := Bool.not_eq_false _ |>.mp made
    by_cases present : Table.holds tables.volumeContainers ⟨id, cid⟩
    · have refused := insertVolumeContainer_eq_none
        { tables with volumes := Tables.ensureVolume tables.volumes mount.source } ⟨id, cid⟩ present
      exact Or.inr (Or.inl ⟨made, present, by rw [refused]⟩)
    · have entered := insertVolumeContainer_eq_some
        { tables with volumes := Tables.ensureVolume tables.volumes mount.source } ⟨id, cid⟩ present
      exact Or.inr (Or.inr ⟨made, present, by rw [entered]; rfl⟩)

theorem linkContainerVolumes_preserves (host : Host) (cid : Nat) (keeps : Tables → Prop)
    (ensuring : ∀ tables source, keeps tables →
      keeps { tables with volumes := Tables.ensureVolume tables.volumes source })
    (linking : ∀ tables source id, keeps tables → keeps (linkVolume tables source ⟨id, cid⟩))
    (mounts : List Mount) (tables : Tables) (kept : keeps tables) :
    keeps (linkContainerVolumes host cid mounts tables).1 := by
  induction mounts generalizing tables with
  | nil => exact kept
  | cons mount rest ih =>
      by_cases volume : mount.type = "volume"
      · rcases volumeId_ensureVolume tables.volumes mount.source with ⟨id, known⟩
        rcases linkContainerVolumes_volume host cid mount rest tables id volume known with
          ⟨_, result⟩ | ⟨_, _, result⟩ | ⟨_, _, result⟩
        · rw [result]
          exact kept
        · rw [result]
          exact ensuring _ _ kept
        · rw [result]
          exact ih _ (linking _ _ _ kept)
      · rw [linkContainerVolumes_skip host cid mount rest tables volume]
        exact ih tables kept

theorem linkContainerVolumes_frame (host : Host) (cid : Nat) (mounts : List Mount)
    (tables : Tables) : ∃ volumes links, (linkContainerVolumes host cid mounts tables).1 =
      { tables with volumes := volumes, volumeContainers := links } := by
  apply linkContainerVolumes_preserves host cid fun after =>
    ∃ volumes links, after = { tables with volumes := volumes, volumeContainers := links }
  · rintro _ source ⟨volumes, links, rfl⟩
    exact ⟨_, links, rfl⟩
  · rintro _ source row ⟨volumes, links, rfl⟩
    exact ⟨_, _, rfl⟩
  · exact ⟨tables.volumes, tables.volumeContainers, rfl⟩

theorem linkContainerVolumes_known (host : Host) (cid : Nat) (mounts : List Mount) (tables : Tables)
    (source : String) (id : Nat) (known : volumeId tables.volumes source = some id) :
    volumeId (linkContainerVolumes host cid mounts tables).1.volumes source = some id := by
  apply linkContainerVolumes_preserves host cid fun after => volumeId after.volumes source = some id
  · exact fun tables other => volumeId_ensureVolume_of_some _ _ other _
  · exact fun tables other _ => volumeId_ensureVolume_of_some _ _ other _
  · exact known

theorem linkContainerVolumes_keeps (host : Host) (cid : Nat) (mounts : List Mount) (tables : Tables)
    (row : VolumeContainerRow) (present : Table.holds tables.volumeContainers row) :
    Table.holds (linkContainerVolumes host cid mounts tables).1.volumeContainers row := by
  apply linkContainerVolumes_preserves host cid fun after => Table.holds after.volumeContainers row
  · exact fun _ _ kept => kept
  · exact fun _ _ _ kept => (holds_insert _ _ _).mpr (Or.inl kept)
  · exact present

theorem linkContainerVolumes_completes (host : Host) (cid : Nat) (mounts : List Mount)
    (tables : Tables) : (linkContainerVolumes host cid mounts tables).2 = true ↔
      (∀ source ∈ volumeSources mounts, host.makedirs source = true) ∧
        (volumeSources mounts).Nodup ∧ ∀ id ∈ volumeIds tables.volumes (volumeSources mounts),
          ¬ Table.holds tables.volumeContainers ⟨id, cid⟩ := by
  induction mounts generalizing tables with
  | nil => simp [linkContainerVolumes, volumeSources, volumeIds]
  | cons mount rest ih =>
      by_cases volume : mount.type = "volume"
      · have sources : volumeSources (mount :: rest) = mount.source :: volumeSources rest := by
          simp [volumeSources, volume]
        rcases volumeId_ensureVolume tables.volumes mount.source with ⟨id, known⟩
        have repeated := mem_volumeIds_iff _ (volumeSources rest) _ _ known
        simp only [sources, volumeIds, known, Option.toList_some, List.singleton_append,
          List.mem_cons, forall_eq_or_imp, List.nodup_cons]
        rcases linkContainerVolumes_volume host cid mount rest tables id volume known with
          ⟨made, result⟩ | ⟨made, present, result⟩ | ⟨made, absent, result⟩
        · simp [result, made]
        · simp [result, present]
        · -- The new link is in the way of the rest exactly if its source comes again.
          rw [result, ih]
          simp only [linkVolume, holds_insert, VolumeContainerRow.mk.injEq, and_true,
            not_or, made, absent, not_false_eq_true, true_and]
          constructor
          · rintro ⟨others, distinct, free⟩
            refine ⟨others, ⟨fun again => ?_, distinct⟩, fun other member => (free other member).1⟩
            exact (free id (repeated.mpr again)).2 rfl
          · rintro ⟨others, ⟨absentLater, distinct⟩, free⟩
            refine ⟨others, distinct, fun other member => ⟨free other member, ?_⟩⟩
            rintro rfl
            exact absentLater (repeated.mp member)
      · have sources : volumeSources (mount :: rest) = volumeSources rest := by
          simp [volumeSources, volume]
        rw [linkContainerVolumes_skip host cid mount rest tables volume, sources]
        exact ih tables

theorem linkContainerVolumes_holds (host : Host) (cid : Nat) (mounts : List Mount) (tables : Tables)
    (completed : (linkContainerVolumes host cid mounts tables).2 = true)
    (source : String) (member : source ∈ volumeSources mounts) :
    ∃ id, volumeId (linkContainerVolumes host cid mounts tables).1.volumes source = some id ∧
      Table.holds (linkContainerVolumes host cid mounts tables).1.volumeContainers ⟨id, cid⟩ := by
  induction mounts generalizing tables with
  | nil => simp [volumeSources] at member
  | cons mount rest ih =>
      by_cases volume : mount.type = "volume"
      · have sources : volumeSources (mount :: rest) = mount.source :: volumeSources rest := by
          simp [volumeSources, volume]
        rcases volumeId_ensureVolume tables.volumes mount.source with ⟨first, found⟩
        rcases linkContainerVolumes_volume host cid mount rest tables first volume found with
          ⟨_, result⟩ | ⟨_, _, result⟩ | ⟨_, _, result⟩
        · simp [result] at completed
        · simp [result] at completed
        · rw [result] at completed ⊢
          rcases List.mem_cons.mp (sources ▸ member) with rfl | later
          · refine ⟨first, linkContainerVolumes_known _ _ _ _ _ _ found, ?_⟩
            exact linkContainerVolumes_keeps _ _ _ _ _ ((holds_insert _ _ _).mpr (Or.inr rfl))
          · exact ih _ completed later
      · have sources : volumeSources (mount :: rest) = volumeSources rest := by
          simp [volumeSources, volume]
        rw [linkContainerVolumes_skip host cid mount rest tables volume] at completed ⊢
        exact ih tables completed (sources ▸ member)

end Volumes

section Container

variable (host : Host)

def AddressedBy (tables : Tables) (cid : Nat) (networkId : Nat) (row : ContainerNetworkRow) :
    Prop :=
  ∃ address, getFreeIpForNetwork host tables networkId = some address ∧
    ⟨networkId, cid, pyStr address⟩ = row

theorem networkRows_eq_some_iff (tables : Tables) (cid : Nat) (networkIds : List Nat)
    (rows : List ContainerNetworkRow) :
    networkRows host tables cid networkIds = some rows ↔
      List.Forall₂ (AddressedBy host tables cid) networkIds rows := by
  unfold networkRows
  rw [mapM_eq_some_iff]
  simp only [Option.map_eq_some_iff]
  rfl

theorem networkRows_isSome_iff (tables : Tables) (cid : Nat) (networkIds : List Nat) :
    (networkRows host tables cid networkIds).isSome = true ↔
      ∀ networkId ∈ networkIds, getFreeIpForNetwork host tables networkId ≠ none := by
  unfold networkRows
  rw [mapM_isSome_iff]
  simp

theorem networkIds_of_addressed (tables : Tables) (cid : Nat) (networkIds : List Nat)
    (rows : List ContainerNetworkRow)
    (addressed : List.Forall₂ (AddressedBy host tables cid) networkIds rows) :
    rows.map ContainerNetworkRow.networkId = networkIds ∧ ∀ row ∈ rows, row.containerId = cid := by
  induction addressed with
  | nil => simp
  | cons first _ ih =>
      rcases first with ⟨address, _, rfl⟩
      simpa using ih

theorem linkContainer_frame (accepted : Accepted) (cid : Nat) (tables : Tables) :
    ∃ links volumes volumeLinks, (linkContainer host accepted cid tables).1 =
      { tables with
        containerNetworks := links, volumes := volumes, volumeContainers := volumeLinks } := by
  unfold linkContainer
  split
  · exact ⟨_, _, _, rfl⟩
  · rename_i rows _
    rcases insertContainerNetworks_frame rows tables with ⟨links, networked⟩
    split
    · rename_i after failed
      rw [failed] at networked
      exact ⟨links, _, _, networked⟩
    · rename_i after entered
      rw [entered] at networked
      rcases linkContainerVolumes_frame host cid accepted.row.config.mounts after with
        ⟨volumes, volumeLinks, same⟩
      exact ⟨links, volumes, volumeLinks, by rw [same, show after = _ from networked]⟩

structure Linkable (accepted : Accepted) (cid : Nat) (tables : Tables) : Prop where
  addressed : ∀ networkId ∈ accepted.networkIds, getFreeIpForNetwork host tables networkId ≠ none
  unlinked : ∀ networkId ∈ accepted.networkIds, linked tables networkId cid = false
  made : ∀ source ∈ volumeSources accepted.row.config.mounts, host.makedirs source = true
  once : (volumeSources accepted.row.config.mounts).Nodup
  unmounted : ∀ id ∈ volumeIds tables.volumes (volumeSources accepted.row.config.mounts),
    ¬ Table.holds tables.volumeContainers ⟨id, cid⟩

instance (accepted : Accepted) (cid : Nat) (tables : Tables) :
    Decidable (Linkable host accepted cid tables) :=
  decidable_of_iff
    ((∀ networkId ∈ accepted.networkIds, getFreeIpForNetwork host tables networkId ≠ none) ∧
      (∀ networkId ∈ accepted.networkIds, linked tables networkId cid = false) ∧
      (∀ source ∈ volumeSources accepted.row.config.mounts, host.makedirs source = true) ∧
      (volumeSources accepted.row.config.mounts).Nodup ∧
      ∀ id ∈ volumeIds tables.volumes (volumeSources accepted.row.config.mounts),
        ¬ Table.holds tables.volumeContainers ⟨id, cid⟩)
    ⟨fun ⟨addressed, unlinked, made, once, unmounted⟩ =>
      ⟨addressed, unlinked, made, once, unmounted⟩,
      fun ⟨addressed, unlinked, made, once, unmounted⟩ =>
        ⟨addressed, unlinked, made, once, unmounted⟩⟩

theorem linkContainer_completes (accepted : Accepted) (cid : Nat) (tables : Tables)
    (distinct : accepted.networkIds.Nodup) :
    (linkContainer host accepted cid tables).2 = true ↔ Linkable host accepted cid tables := by
  have addressable := networkRows_isSome_iff host tables cid accepted.networkIds
  unfold linkContainer
  split
  · rename_i missing
    rw [missing] at addressable
    exact ⟨nofun, fun linkable => addressable.mpr linkable.addressed⟩
  · rename_i rows found
    rw [found] at addressable
    rcases networkIds_of_addressed host tables cid
        _ _ ((networkRows_eq_some_iff _ _ _ _ _).mp found) with
      ⟨ids, own⟩
    have completes := insertContainerNetworks_completes cid rows tables own
    have everyRow : (∀ row ∈ rows, linked tables row.networkId cid = false) ↔
        ∀ networkId ∈ accepted.networkIds, linked tables networkId cid = false := by
      rw [← ids, List.forall_mem_map]
    rw [ids, everyRow, and_iff_right distinct] at completes
    -- the rows of the networks are in; the loop over the volumes sees none of them
    rcases insertContainerNetworks_frame rows tables with ⟨links, networked⟩
    split
    · rename_i after failed
      rw [failed] at completes
      exact ⟨nofun, fun linkable => completes.mpr linkable.unlinked⟩
    · rename_i after entered
      rw [entered] at completes networked
      have unlinked := completes.mp rfl
      rw [linkContainerVolumes_completes, show after = _ from networked]
      constructor
      · rintro ⟨made, once, unmounted⟩
        exact ⟨addressable.mp rfl, unlinked, made, once, unmounted⟩
      · exact fun linkable => ⟨linkable.made, linkable.once, linkable.unmounted⟩

theorem linkContainer_holds (accepted : Accepted) (cid : Nat) (tables : Tables)
    (completed : (linkContainer host accepted cid tables).2 = true) :
    (∀ networkId ∈ accepted.networkIds, ∃ address,
      Table.holds (linkContainer host accepted cid tables).1.containerNetworks
        ⟨networkId, cid, address⟩) ∧
    ∀ source ∈ volumeSources accepted.row.config.mounts, ∃ id,
      volumeId (linkContainer host accepted cid tables).1.volumes source = some id ∧
      Table.holds (linkContainer host accepted cid tables).1.volumeContainers ⟨id, cid⟩ := by
  unfold linkContainer at completed ⊢
  split at completed
  · cases completed
  · rename_i rows found
    split at completed
    · cases completed
    · rename_i after entered
      refine ⟨fun networkId member => ?_, linkContainerVolumes_holds host cid _ after completed⟩
      rcases linkContainerVolumes_frame host cid accepted.row.config.mounts after with ⟨_, _, same⟩
      rw [same]
      rcases networkIds_of_addressed host tables cid
          _ _ ((networkRows_eq_some_iff _ _ _ _ _).mp found) with
        ⟨ids, own⟩
      rcases List.mem_map.mp (ids ▸ member) with ⟨row, listed, rfl⟩
      have present :=
        insertContainerNetworks_holds rows tables row (Or.inr ⟨by rw [entered], listed⟩)
      rw [entered] at present
      exact ⟨row.ipAddress, own row listed ▸ present⟩

end Container

end Dockermock.Database
