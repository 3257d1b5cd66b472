import Dockermock.Database.Links

/-!
What create_container leaves behind when it does not succeed. The container row
goes in first and only a clone that reports failure takes it out again, so every
exception after it leaves the row to the next commit.
-/

namespace Dockermock.Database

open Library Network

def watched (tables : Tables) : List (Nat × ContainerRow) × List (Nat × ContainerNetworkRow) ×
    List (Nat × VolumeRow) × List (Nat × VolumeContainerRow) :=
  (tables.containers.rows.entries, tables.containerNetworks.rows.entries,
    tables.volumes.rows.entries, tables.volumeContainers.rows.entries)

/-- Later statements, and the next commit, see the rows from before the call. -/
def Unchanged (before after : Conn) : Prop :=
  watched after.view = watched before.view ∧ watched after.commit.committed = watched before.view

structure Complete (request : Request) (cid : Nat) (row : ContainerRow)
    (tables : Tables) : Prop where
  container : tables.containers.rows.get cid = some row
  networks : ∀ name ∈ request.networks, ∃ networkId network address,
    tables.networks.rows.get networkId = some network ∧ network.name = name ∧
      Table.holds tables.containerNetworks ⟨networkId, cid, address⟩
  volumes : ∀ source ∈ volumeSources row.config.mounts, ∃ id,
    volumeId tables.volumes source = some id ∧ Table.holds tables.volumeContainers ⟨id, cid⟩

def Atomic (host : Host) (conn : Conn) (request : Request) : Prop :=
  match createContainer host conn request with
  | (.returned cid, after) => ∃ accepted, prepare host conn.view request = .ready accepted ∧
      Complete request cid accepted.row after.committed
  | (_, after) => Unchanged conn after

def NameTaken (tables : Tables) (name : String) : Prop :=
  ∃ entry ∈ tables.containers.rows.entries, entry.2.name = name

structure Unraised (host : Host) (tables : Tables) (accepted : Accepted) : Prop where
  linkable : Linkable host accepted tables.containers.nextId tables
  cloned : createDataset host accepted.imageGid accepted.row.gid ≠ .raised

instance (tables : Tables) (name : String) : Decidable (NameTaken tables name) :=
  inferInstanceAs (Decidable (∃ entry ∈ tables.containers.rows.entries, entry.2.name = name))

instance (host : Host) (tables : Tables) (accepted : Accepted) :
    Decidable (Unraised host tables accepted) :=
  decidable_of_iff (Linkable host accepted tables.containers.nextId tables ∧
      createDataset host accepted.imageGid accepted.row.gid ≠ .raised)
    ⟨fun ⟨linkable, cloned⟩ => ⟨linkable, cloned⟩, fun ⟨linkable, cloned⟩ => ⟨linkable, cloned⟩⟩

/-- A rollback forgets nothing that was there before the call. -/
def RollbackHarmless (host : Host) (conn : Conn) (accepted : Accepted) : Prop :=
  createDataset host accepted.imageGid accepted.row.gid = .failed →
    watched conn.committed = watched conn.view

def Undisturbed (host : Host) (conn : Conn) (request : Request) : Prop :=
  match prepare host conn.view request with
  | .ready accepted => NameTaken conn.view accepted.row.name ∨
      (Unraised host conn.view accepted ∧ RollbackHarmless host conn accepted)
  | _ => True

def withContainer (tables : Tables) (row : ContainerRow) : Tables :=
  { tables with containers := tables.containers.insert row }

theorem insertContainer_taken (tables : Tables) (row : ContainerRow)
    (taken : NameTaken tables row.name) : tables.insertContainer row = none := by
  rcases taken with ⟨entry, member, same⟩
  have refused : tables.containers.rows.entries.any
      (fun other => decide (other.2.name = row.name)) = true :=
    List.any_eq_true.mpr ⟨entry, member, by simpa using same⟩
  simp [Tables.insertContainer, Table.insertUnless, refused]

theorem insertContainer_free (tables : Tables) (row : ContainerRow)
    (free : ¬ NameTaken tables row.name) :
    tables.insertContainer row = some (withContainer tables row) := by
  refine Option.map_eq_some_iff.mpr ⟨_, (Table.insertUnless_eq_some_iff _ _ _ _).mpr ⟨?_, rfl⟩, rfl⟩
  intro entry member
  exact decide_eq_false fun same => free ⟨entry, member, same⟩

theorem unchanged_refl (conn : Conn) : Unchanged conn conn := ⟨rfl, rfl⟩

theorem unchanged_rollback (before : Conn) (tables : Tables) :
    Unchanged before (before.write tables).rollback ↔
        watched before.committed = watched before.view :=
  and_self_iff

section Accepted

variable (host : Host) (conn : Conn) (accepted : Accepted)

def linking : Tables × Bool :=
  linkContainer host accepted conn.view.containers.nextId (withContainer conn.view accepted.row)

theorem linking_frame :
    ∃ links volumes volumeLinks, (linking host conn accepted).1 =
      { withContainer conn.view accepted.row with
        containerNetworks := links, volumes := volumes, volumeContainers := volumeLinks } :=
  linkContainer_frame host accepted _ _

theorem linking_completes (distinct : accepted.networkIds.Nodup) :
    (linking host conn accepted).2 = true ↔
      Linkable host accepted conn.view.containers.nextId conn.view := by
  rw [linking, linkContainer_completes host accepted _ _ distinct]
  -- The new row is in none of the tables that the loops depend on.
  constructor
  · exact fun linkable => ⟨linkable.1, linkable.2, linkable.3, linkable.4, linkable.5⟩
  · exact fun linkable => ⟨linkable.1, linkable.2, linkable.3, linkable.4, linkable.5⟩

theorem createAccepted_cases (distinct : accepted.networkIds.Nodup) :
    (NameTaken conn.view accepted.row.name ∧ createAccepted host conn accepted = (.raised, conn)) ∨
    (¬ NameTaken conn.view accepted.row.name ∧ ¬ Unraised host conn.view accepted ∧
      createAccepted host conn accepted = (.raised, conn.write (linking host conn accepted).1)) ∨
    (¬ NameTaken conn.view accepted.row.name ∧ Unraised host conn.view accepted ∧
      createDataset host accepted.imageGid accepted.row.gid = .failed ∧
      createAccepted host conn accepted =
        (.refused Refusal.cloneFailed.message,
          (conn.write (linking host conn accepted).1).rollback)) ∨
    (¬ NameTaken conn.view accepted.row.name ∧ Unraised host conn.view accepted ∧
      createDataset host accepted.imageGid accepted.row.gid = .cloned ∧
      (linking host conn accepted).2 = true ∧
      createAccepted host conn accepted =
        (.returned conn.view.containers.nextId,
            (conn.write (linking host conn accepted).1).commit)) := by
  by_cases taken : NameTaken conn.view accepted.row.name
  · exact Or.inl ⟨taken, by rw [createAccepted, insertContainer_taken _ _ taken]⟩
  have completes := linking_completes host conn accepted distinct
  rw [createAccepted, insertContainer_free _ _ taken]
  dsimp only
  rw [show linkContainer host accepted _ _ = linking host conn accepted from rfl]
  generalize linking host conn accepted = result at completes ⊢
  rcases result with ⟨linked, completed⟩
  cases completed with
  | false =>
      -- an exception behind insert_container leaves its rows in the transaction
      have unlinkable : ¬ Unraised host conn.view accepted := fun unraised =>
        Bool.false_ne_true (completes.mpr unraised.linkable)
      exact Or.inr (Or.inl ⟨taken, unlinkable, rfl⟩)
  | true =>
      have linkable := completes.mp rfl
      cases outcome : createDataset host accepted.imageGid accepted.row.gid with
      | raised => exact Or.inr (Or.inl ⟨taken, fun unraised => unraised.cloned outcome, rfl⟩)
      | failed => exact Or.inr (Or.inr (Or.inl ⟨taken, ⟨linkable, by simp [outcome]⟩, rfl, rfl⟩))
      | cloned =>
          exact Or.inr (Or.inr (Or.inr ⟨taken, ⟨linkable, by simp [outcome]⟩, rfl, rfl, rfl⟩))

theorem changed_of_linking : ¬ Unchanged conn (conn.write (linking host conn accepted).1) := by
  rintro ⟨same, _⟩
  rcases linking_frame host conn accepted with ⟨_, _, _, frame⟩
  have rows : (linking host conn accepted).1.containers.rows.entries =
      conn.view.containers.rows.entries :=
    congrArg Prod.fst same
  rw [frame] at rows
  have longer := congrArg List.length ((Table.insert_entries _ _).symm.trans rows)
  simp at longer

theorem complete_of_linking (request : Request)
    (ready : prepare host conn.view request = .ready accepted)
    (completed : (linking host conn accepted).2 = true) :
    Complete request conn.view.containers.nextId accepted.row (linking host conn accepted).1 := by
  rcases linkContainer_holds host _ _ _ completed with ⟨networks, volumes⟩
  rcases linking_frame host conn accepted with ⟨_, _, _, frame⟩
  refine ⟨?_, fun name member => ?_, volumes⟩
  · rw [frame]
    exact (Dict.get_set _ _ _ _).trans (if_pos rfl)
  · rcases (prepare_ready host _ _ _ ready).2 name member with
      ⟨networkId, listed, network, held, named⟩
    rcases networks networkId listed with ⟨address, present⟩
    exact ⟨networkId, network, address, by rw [frame]; exact held, named, present⟩

end Accepted

theorem create_container_atomic (host : Host) (conn : Conn) (request : Request) :
    Atomic host conn request ↔ Undisturbed host conn request := by
  unfold Atomic Undisturbed createContainer
  cases ready : prepare host conn.view request with
  | refused refusal => exact iff_of_true (unchanged_refl conn) trivial
  | raised => exact iff_of_true (unchanged_refl conn) trivial
  | ready accepted =>
      rcases createAccepted_cases host conn accepted (prepare_ready host _ _ _ ready).1 with
        ⟨taken, result⟩ | ⟨free, raised, result⟩ | ⟨free, unraised, failed, result⟩ |
        ⟨free, unraised, cloned, completed, result⟩
      · simp only [result]
        exact iff_of_true (unchanged_refl conn) (Or.inl taken)
      · simp only [result]
        refine iff_of_false (changed_of_linking host conn accepted) fun undisturbed => ?_
        exact undisturbed.elim free fun both => raised both.1
      · simp only [result, or_iff_right free, and_iff_right unraised, RollbackHarmless,
          failed, forall_const]
        exact unchanged_rollback conn _
      · simp only [result, or_iff_right free, and_iff_right unraised, RollbackHarmless, cloned]
        exact iff_of_true ⟨accepted, rfl,
          complete_of_linking host conn accepted request ready completed⟩ nofun

section Example

def alpine : ImageRow :=
  ⟨"alpine", "3.20", some ⟨["sh"], [], ["/bin"], [], none, none, some []⟩, "a1b2"⟩

def stocked : Conn :=
  ⟨.fresh (Table.empty.insert alpine) .empty, .fresh (Table.empty.insert alpine) .empty⟩

def workingHost : Host where
  isUuid := fun _ => false
  anonymousSource := id
  gid := "c3d4"
  makedirs := fun _ => true
  getDataset := fun _ => true
  cloneDataset := fun _ _ => .cloned
  ipv6Text := fun _ => ""

def alpineRequest (name : String) (networks : List String) : Request where
  name := name
  image := some "alpine:3.20"
  networks := networks
  mounts := some []
  env := []
  command := []
  entrypoint := []
  user := none
  workingDir := none
  ports := []
  restart := "no"
  rm := false
  project := "default"
  service := "default"

def emptiedHost : Host := { workingHost with getDataset := fun _ => false }

theorem create_container_leaves_row :
    ¬ ∀ host conn request, Atomic host conn request := by
  intro claimed
  have atomic := claimed emptiedHost stocked (alpineRequest "web" [])
  have raised : (createContainer emptiedHost stocked (alpineRequest "web" [])).1 = .raised := by
    decide
  have kept :
      (watched (createContainer emptiedHost stocked (alpineRequest "web" [])).2.view).1.length =
          1 := by
    decide
  unfold Atomic at atomic
  split at atomic
  · rename_i result
    rw [result] at raised
    cases raised
  · rename_i result
    rw [result, atomic.1] at kept
    cases kept

end Example

end Dockermock.Database
