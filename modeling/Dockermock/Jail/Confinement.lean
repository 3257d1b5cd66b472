import Dockermock.Library.FileSystem
import Dockermock.Jail.Setup
import Dockermock.Jail.VolumeNames

/-!
Which directories a request makes the daemon create or mount on. create_volume
and link_container_volumes put the name they are given behind the root of the
volumes, handle_mounts puts the path in the container behind the root of the
jail; none of them looks at the segments. Between two calls of the daemon the
file system may change, so each call has its own.
-/

namespace Dockermock.Jail.Confinement

open Library Database VolumeNames

section Code

def volumePath (name : String) : String := joinPath volumeMountRoot name

inductive VolumeResult where
  | alreadyExists | failed
  | created (id : Nat)
  deriving DecidableEq, Repr

/-- create_volume, with the directories it has made. A makedirs that raises leaves the INSERT
uncommitted. -/
def createVolume (fs : FileSystem) (conn : Conn) (name : String) :
    VolumeResult × Conn × List (List String) :=
  match volumeId conn.view.volumes name with
  | some _ => (.alreadyExists, conn, [])
  | none =>
      match conn.view.volumes.insertUnless (fun row => row.name = name)
          ⟨name, "nullfs", volumePath name⟩ with
      | none => (.failed, conn, [])
      | some volumes =>
          let inserted := conn.write { conn.view with volumes := volumes }
          let made := fs.makedirs (volumePath name)
          if made.2 then (.created conn.view.volumes.nextId, inserted.commit, made.1)
            else (.failed, inserted, made.1)

/-- link_container_volumes, with the file system that each mount finds and the directories made. -/
def linkedDirs (cid : Nat) : List (Mount × FileSystem) → Tables → List (List String) × Tables × Bool
  | [], tables => ([], tables, true)
  | (mount, fs) :: rest, tables =>
      if mount.type ≠ "volume" then linkedDirs cid rest tables
      else
        let made := fs.makedirs (volumePath mount.source)
        if made.2 = false then (made.1, tables, false)
        else
          let ensured := { tables with volumes := Tables.ensureVolume tables.volumes mount.source }
          match volumeId ensured.volumes mount.source with
          | none => (made.1, ensured, false)
          | some id =>
              match ensured.insertVolumeContainer ⟨id, cid⟩ with
              | none => (made.1, ensured, false)
              | some linked =>
                  let others := linkedDirs cid rest linked
                  (made.1 ++ others.1, others.2)

inductive Target where
  | directory | file | missing
  deriving DecidableEq, Repr

/-- A mount of handle_mounts and what the system says when its turn comes: what is at the
target, where `realpath` leads, and whether the mount goes through. -/
structure Turn where
  mount : Mount
  fs : FileSystem
  target : Target
  realpath : String
  goesThrough : Bool

inductive Effect where
  | target (volume : Bool) (dir : List String)
  | inside (dir : List String)
  | mounted (dir : List String)
  deriving DecidableEq, Repr

def Turn.source (turn : Turn) : String :=
  if turn.mount.type = "volume" then volumeTarget turn.mount else turn.realpath

/-- mount_host_to_jail on a destination that is there, after these effects. -/
def finish (turn : Turn) (path : String) (effects : List Effect) : List Effect × Bool :=
  (effects ++ if turn.goesThrough then [.mounted (resolve path)] else [], true)

/-- The destination is made on the way, a file being touched where the target is one. -/
def makeDest (turn : Turn) (path : String) (made : List (List String)) (effects : List Effect) :
    List Effect × Bool :=
  let dest := turn.fs.makedirsAfter made path
  if dest.2 then finish turn path (effects ++ dest.1.map .inside)
    else (effects ++ dest.1.map .inside, false)

/-- One turn of handle_mounts. `realpath` comes first and raises for a null character. -/
def handleMount (root : String) (turn : Turn) : List Effect × Bool :=
  let path := mountDest root turn.mount.source
  if legalName turn.mount.target = false then ([], false)
  else if turn.fs.exist path then finish turn path []
  else
    match turn.target with
    | .directory | .file => makeDest turn path [] []
    | .missing =>
        let made := turn.fs.makedirs turn.source
        let effects := made.1.map (.target (turn.mount.type = "volume"))
        if made.2 then makeDest turn path made.1 effects else (effects, false)

def handleMounts (root : String) : List Turn → List Effect × Bool
  | [] => ([], true)
  | turn :: rest =>
      let done := handleMount root turn
      if done.2 then
        let others := handleMounts root rest
        (done.1 ++ others.1, others.2)
      else done

end Code

section Statements

def Below (root dir : List String) : Prop := root <+: dir ∧ dir ≠ root

def volumeRoot : List String := resolve volumeMountRoot

/-- Whatever is there already, create_volume makes directories only below the root of the volumes.
-/
def CreatesBelow (name : String) : Prop :=
  ∀ fs : FileSystem, fs.Has [volumeMountRoot] → ∀ conn, ∀ dir ∈ (createVolume fs conn name).2.2,
    Below volumeRoot dir

def LinksBelow (mounts : List Mount) : Prop :=
  ∀ turns : List (Mount × FileSystem), turns.map Prod.fst = mounts →
    (∀ turn ∈ turns, turn.2.Has [volumeMountRoot]) →
    ∀ cid tables, ∀ dir ∈ (linkedDirs cid turns tables).1, Below volumeRoot dir

/-- A directory that the request names on the host for a bind mount is not counted. -/
def Effect.Allowed (root : String) : Effect → Prop
  | .target volume dir => volume = true → Below volumeRoot dir
  | .inside dir => resolve root <+: dir
  | .mounted dir => resolve root <+: dir

/-- handle_mounts makes and mounts on nothing outside of the jail, and makes volumes only below
their root. -/
def MountsInside (root : String) (mounts : List Mount) : Prop :=
  ∀ turns : List Turn, turns.map Turn.mount = mounts →
    (∀ turn ∈ turns, turn.fs.Has [root, volumeMountRoot]) →
    ∀ effect ∈ (handleMounts root turns).1, effect.Allowed root

/-- Segment by segment, a path leads only to directories known to be there and below a root. -/
def OnlyBelow (known : List (List String)) (root : List String) (path : String) : Prop :=
  ∀ dir ∈ entered path, dir ∈ known ∨ Below root dir

def NameConfined (name : String) : Prop :=
  OnlyBelow (FileSystem.knownDirs [volumeMountRoot]) volumeRoot (volumePath name)

/-- link_container_volumes gets past these: it can follow every path, and no link comes twice. -/
def LinksPast (mounts : List Mount) : Prop :=
  (volumeSources mounts).Nodup ∧ ∀ source ∈ volumeSources mounts, Legal (volumePath source)

def LinksConfined (mounts : List Mount) : Prop :=
  ∀ before mount after, mounts = before ++ mount :: after → LinksPast before →
    mount.type = "volume" → NameConfined mount.source

/-- A mount in the jail: its destination, the way there, and the volume's directory unless the
destination is there in any case. -/
structure MountConfined (root : String) (mount : Mount) : Prop where
  way : ∀ dir ∈ entered (mountDest root mount.source),
    dir ∈ FileSystem.knownDirs [root, volumeMountRoot] ∨ resolve root <+: dir
  dest : Legal (mountDest root mount.source) →
    resolve root <+: resolve (mountDest root mount.source)
  volume : mount.type = "volume" →
    (Legal (mountDest root mount.source) ∧
      ∀ dir ∈ entered (mountDest root mount.source),
        dir ∈ FileSystem.knownDirs [root, volumeMountRoot]) ∨
    OnlyBelow (FileSystem.knownDirs [root, volumeMountRoot]) volumeRoot (volumeTarget mount)

/-- handle_mounts gets past these. -/
def MountsPast (root : String) (mounts : List Mount) : Prop :=
  ∀ mount ∈ mounts, legalName mount.target = true ∧ Legal (mountDest root mount.source)

def MountsConfined (root : String) (mounts : List Mount) : Prop :=
  ∀ before mount after, mounts = before ++ mount :: after → MountsPast root before →
    legalName mount.target = true → MountConfined root mount

end Statements

section Volumes

theorem createVolume_dirs (fs : FileSystem) (conn : Conn) (name : String) :
    (createVolume fs conn name).2.2 =
      if volumeId conn.view.volumes name = none then (fs.makedirs (volumePath name)).1 else [] := by
  unfold createVolume
  cases known : volumeId conn.view.volumes name with
  | some id => rfl
  | none =>
      have inserted : conn.view.volumes.insertUnless (fun row => row.name = name)
        ⟨name, "nullfs", volumePath name⟩ =
          some (conn.view.volumes.insert ⟨name, "nullfs", volumePath name⟩) := by
        refine (Table.insertUnless_eq_some_iff _ _ _ _).mpr ⟨fun entry member => ?_, rfl⟩
        exact decide_eq_false ((volumeId_eq_none_iff _ _).mp known entry member)
      simp only [inserted, if_true]
      split <;> rfl

/-- What makedirs makes behind a path that leads only below the root lies below it. -/
theorem made_below {fs : FileSystem} {paths : List String} (present : fs.Has paths)
    {root : List String} {path : String} (only : OnlyBelow (FileSystem.knownDirs paths) root path)
    {dir : List String} (made : dir ∈ (fs.makedirs path).1) : Below root dir := by
  rcases fs.mem_makedirs path dir made with ⟨fresh, way⟩
  exact (only dir way).resolve_left fun known => fresh (fs.known_present paths present dir known)

theorem onlyBelow_of_made {paths : List String} {root : List String} {path : String}
    (below : ∀ dir ∈ ((FileSystem.bare paths).makedirs path).1, Below root dir) :
    OnlyBelow (FileSystem.knownDirs paths) root path := fun dir way =>
  ((FileSystem.bare_makedirs paths path).1 dir way).imp_right (below dir)

theorem createsBelow_iff (name : String) : CreatesBelow name ↔ NameConfined name := by
  constructor
  · intro below
    refine onlyBelow_of_made fun dir made => ?_
    refine below _ (FileSystem.bare_has _) ⟨.fresh .empty .empty, .fresh .empty .empty⟩ dir ?_
    rw [createVolume_dirs]
    exact made
  · intro confined fs present conn dir made
    rw [createVolume_dirs] at made
    split at made
    · exact made_below present confined made
    · cases made

end Volumes

section Links

theorem linkedDirs_skip (cid : Nat) (turn : Mount × FileSystem) (rest : List (Mount × FileSystem))
    (tables : Tables) (other : turn.1.type ≠ "volume") :
    linkedDirs cid (turn :: rest) tables = linkedDirs cid rest tables := by
  rw [linkedDirs, if_pos other]

theorem linkedDirs_volume (cid : Nat) (turn : Mount × FileSystem) (tables : Tables) (id : Nat)
    (volume : turn.1.type = "volume")
    (known : volumeId (Tables.ensureVolume tables.volumes turn.1.source) turn.1.source = some id) :
    let made := turn.2.makedirs (volumePath turn.1.source)
    let linked := linkVolume tables turn.1.source ⟨id, cid⟩
    (made.2 = false ∧ ∀ rest, linkedDirs cid (turn :: rest) tables = (made.1, tables, false)) ∨
    (made.2 = true ∧ Table.holds tables.volumeContainers ⟨id, cid⟩ ∧ ∀ rest,
      linkedDirs cid (turn :: rest) tables =
      (made.1, { tables with volumes := Tables.ensureVolume tables.volumes turn.1.source },
        false)) ∨
    (made.2 = true ∧ ¬ Table.holds tables.volumeContainers ⟨id, cid⟩ ∧ ∀ rest,
      linkedDirs cid (turn :: rest) tables =
      (made.1 ++ (linkedDirs cid rest linked).1, (linkedDirs cid rest linked).2)) := by
  intro made linked
  by_cases refused : made.2 = false
  · refine .inl ⟨refused, fun rest => ?_⟩
    rw [linkedDirs, if_neg (not_not_intro volume)]
    exact if_pos refused
  · have come : made.2 = true := Bool.not_eq_false _ |>.mp refused
    have onward : ∀ rest, linkedDirs cid (turn :: rest) tables =
        match ({ tables with volumes := Tables.ensureVolume tables.volumes turn.1.source } :
          Tables).insertVolumeContainer ⟨id, cid⟩ with
        | none =>
            (made.1, { tables with volumes := Tables.ensureVolume tables.volumes turn.1.source },
              false)
        | some linked =>
            (made.1 ++ (linkedDirs cid rest linked).1, (linkedDirs cid rest linked).2) := by
      intro rest
      rw [linkedDirs, if_neg (not_not_intro volume)]
      dsimp only
      rw [if_neg refused]
      simp only [known]
      rfl
    -- the link is refused exactly if the container has this volume already
    by_cases present : Table.holds tables.volumeContainers ⟨id, cid⟩
    · have taken := insertVolumeContainer_eq_none
        { tables with volumes := Tables.ensureVolume tables.volumes turn.1.source }
          ⟨id, cid⟩ present
      exact .inr (.inl ⟨come, present, fun rest => by rw [onward, taken]⟩)
    · have entered := insertVolumeContainer_eq_some
        { tables with volumes := Tables.ensureVolume tables.volumes turn.1.source }
          ⟨id, cid⟩ present
      exact .inr (.inr ⟨come, present, fun rest => by rw [onward, entered]; rfl⟩)

theorem linkedDirs_turn (cid : Nat) (turn : Mount × FileSystem) (tables : Tables)
    (volume : turn.1.type = "volume") : (∃ left, ∀ rest, linkedDirs cid (turn :: rest) tables =
      ((turn.2.makedirs (volumePath turn.1.source)).1, left, false)) ∨
    (∃ linked, ∀ rest, linkedDirs cid (turn :: rest) tables =
      ((turn.2.makedirs (volumePath turn.1.source)).1 ++ (linkedDirs cid rest linked).1,
        (linkedDirs cid rest linked).2)) := by
  rcases volumeId_ensureVolume tables.volumes turn.1.source with ⟨id, known⟩
  rcases linkedDirs_volume cid turn tables id volume known with ⟨_, ends⟩ | ⟨_, _, ends⟩ |
    ⟨_, _, onward⟩
  · exact .inl ⟨_, ends⟩
  · exact .inl ⟨_, ends⟩
  · exact .inr ⟨_, onward⟩

theorem linkedDirs_completes (cid : Nat) (turns : List (Mount × FileSystem)) (tables : Tables) :
    (linkedDirs cid turns tables).2.2 = true ↔
      (∀ turn ∈ turns, turn.1.type = "volume" →
        (turn.2.makedirs (volumePath turn.1.source)).2 = true) ∧
        (linkContainerVolumes workingHost cid (turns.map Prod.fst) tables).2 = true := by
  induction turns generalizing tables with
  | nil => simp [linkedDirs, linkContainerVolumes]
  | cons turn rest ih =>
      rw [List.map_cons, List.forall_mem_cons]
      by_cases volume : turn.1.type = "volume"
      · rcases volumeId_ensureVolume tables.volumes turn.1.source with ⟨id, known⟩
        have link :=
          linkContainerVolumes_volume workingHost cid turn.1
            (rest.map Prod.fst) tables id volume known
        rcases linkedDirs_volume cid turn tables id volume known with
          ⟨refused, result⟩ | ⟨come, present, result⟩ | ⟨come, absent, result⟩
        · simp [result, refused, volume]
        · rcases link with ⟨made, _⟩ | ⟨_, _, linked⟩ | ⟨_, free, _⟩
          · cases made
          · simp [result, linked]
          · exact absurd present free
        · rcases link with ⟨made, _⟩ | ⟨_, taken, _⟩ | ⟨_, _, linked⟩
          · cases made
          · exact absurd taken absent
          · rw [result, linked, ih]
            simp [come]
      · rw [linkedDirs_skip cid turn rest tables volume,
          linkContainerVolumes_skip workingHost cid turn.1 _ tables volume, ih]
        simp [volume]

theorem mem_linkedDirs (cid : Nat) (turns : List (Mount × FileSystem)) (tables : Tables)
    (dir : List String) (member : dir ∈ (linkedDirs cid turns tables).1) :
    ∃ before turn after, turns = before ++ turn :: after ∧
      (linkedDirs cid before tables).2.2 = true ∧
      turn.1.type = "volume" ∧ dir ∈ (turn.2.makedirs (volumePath turn.1.source)).1 := by
  induction turns generalizing tables with
  | nil => cases member
  | cons turn rest ih =>
      by_cases volume : turn.1.type = "volume"
      · rcases linkedDirs_turn cid turn tables volume with ⟨left, ends⟩ | ⟨linked, onward⟩
        · rw [ends] at member
          exact ⟨[], turn, rest, rfl, rfl, volume, member⟩
        · rw [onward] at member
          rcases List.mem_append.mp member with made | later
          · exact ⟨[], turn, rest, rfl, rfl, volume, made⟩
          · rcases ih linked later with ⟨before, other, after, split, past, found⟩
            refine ⟨turn :: before, other, after, congrArg _ split, ?_, found⟩
            rw [onward]
            exact past
      · rw [linkedDirs_skip cid turn rest tables volume] at member
        rcases ih _ member with ⟨before, other, after, split, past, found⟩
        refine ⟨turn :: before, other, after, congrArg _ split, ?_, found⟩
        rw [linkedDirs_skip cid turn before tables volume]
        exact past

theorem linkedDirs_reaches (cid : Nat) (before : List (Mount × FileSystem))
    (turn : Mount × FileSystem) (after : List (Mount × FileSystem)) (tables : Tables)
    (past : (linkedDirs cid before tables).2.2 = true) (volume : turn.1.type = "volume")
    (dir : List String) (made : dir ∈ (turn.2.makedirs (volumePath turn.1.source)).1) :
    dir ∈ (linkedDirs cid (before ++ turn :: after) tables).1 := by
  induction before generalizing tables with
  | nil =>
      rw [List.nil_append]
      rcases linkedDirs_turn cid turn tables volume with ⟨left, ends⟩ | ⟨linked, onward⟩
      · rw [ends]
        exact made
      · rw [onward]
        exact List.mem_append_left _ made
  | cons first rest ih =>
      rw [List.cons_append]
      by_cases other : first.1.type = "volume"
      · rcases linkedDirs_turn cid first tables other with ⟨left, ends⟩ | ⟨linked, onward⟩
        · rw [ends] at past
          cases past
        · rw [onward] at past ⊢
          exact List.mem_append_right _ (ih linked past)
      · rw [linkedDirs_skip cid first _ tables other]
        rw [linkedDirs_skip cid first rest tables other] at past
        exact ih tables past

theorem linksPast_of_completes (cid : Nat) (turns : List (Mount × FileSystem)) (tables : Tables)
    (completed : (linkedDirs cid turns tables).2.2 = true) : LinksPast (turns.map Prod.fst) := by
  rcases (linkedDirs_completes cid turns tables).mp completed with ⟨come, linked⟩
  refine ⟨((linkContainerVolumes_completes _ _ _ _).mp linked).2.1, fun source member => ?_⟩
  simp only [volumeSources, List.mem_map, List.mem_filter, decide_eq_true_eq] at member
  rcases member with ⟨_, ⟨⟨turn, among, rfl⟩, volume⟩, rfl⟩
  exact turn.2.makedirs_legal _ (come turn among volume)

theorem completes_of_linksPast (cid : Nat) (mounts : List Mount) (past : LinksPast mounts) :
    (linkedDirs cid (mounts.map fun mount => (mount, .bare [volumeMountRoot]))
        (.fresh .empty .empty)).2.2 = true := by
  rw [linkedDirs_completes, List.map_map]
  constructor
  · rintro turn member volume
    rcases List.mem_map.mp member with ⟨mount, among, rfl⟩
    refine (FileSystem.bare_makedirs _ _).2.mpr (past.2 _ ?_)
    exact List.mem_map.mpr ⟨mount, List.mem_filter.mpr ⟨among, by simpa using volume⟩, rfl⟩
  · have same :
        mounts.map (Prod.fst ∘ fun mount => (mount, FileSystem.bare [volumeMountRoot])) = mounts :=
      List.map_id mounts
    rw [same, linkContainerVolumes_completes]
    exact ⟨fun _ _ => rfl, past.1, fun _ _ ⟨_, row⟩ => absurd row List.not_mem_nil⟩

theorem linksBelow_iff (mounts : List Mount) : LinksBelow mounts ↔ LinksConfined mounts := by
  constructor
  · rintro below before mount after rfl past volume
    refine onlyBelow_of_made fun dir made => ?_
    let turn := fun mount : Mount => (mount, FileSystem.bare [volumeMountRoot])
    refine below ((before ++ mount :: after).map turn) ?_ ?_ 1 (.fresh .empty .empty) dir ?_
    · rw [List.map_map]
      exact List.map_id _
    · rintro _ member
      rcases List.mem_map.mp member with ⟨other, _, rfl⟩
      exact FileSystem.bare_has _
    · rw [List.map_append, List.map_cons]
      exact linkedDirs_reaches 1 _ (turn mount) _ _ (completes_of_linksPast 1 before past)
        volume dir made
  · rintro confined turns rfl present cid tables dir member
    rcases mem_linkedDirs cid turns tables dir member with
      ⟨before, turn, after, rfl, past, volume, made⟩
    refine made_below (present turn (by simp)) ?_ made
    exact confined (before.map Prod.fst) turn.1 (after.map Prod.fst) (by simp)
      (linksPast_of_completes cid before tables past) volume

end Links

section Mounts

theorem mem_finish {turn : Turn} {path : String} {effects : List Effect} {effect : Effect}
    (member : effect ∈ (finish turn path effects).1) :
    effect ∈ effects ∨ effect = .mounted (resolve path) := by
  simp only [finish] at member
  rcases List.mem_append.mp member with before | last
  · exact .inl before
  · split at last
    · exact .inr (List.mem_singleton.mp last)
    · cases last

theorem mem_makeDest {turn : Turn} {path : String} {made : List (List String)}
    {effects : List Effect} {effect : Effect}
    (legal : ∀ dir ∈ made, ∀ name ∈ dir, legalName name = true)
    (member : effect ∈ (makeDest turn path made effects).1) :
    effect ∈ effects ∨ (∃ dir, effect = .inside dir ∧ dir ∉ turn.fs.dirs ∧ dir ∈ entered path) ∨
      (effect = .mounted (resolve path) ∧ Legal path) := by
  have inside : effect ∈ effects ++ (turn.fs.makedirsAfter made path).1.map .inside →
      effect ∈ effects ∨ ∃ dir, effect = .inside dir ∧ dir ∉ turn.fs.dirs ∧ dir ∈ entered path := by
    intro among
    rcases List.mem_append.mp among with before | here
    · exact .inl before
    · rcases List.mem_map.mp here with ⟨dir, new, rfl⟩
      exact .inr ⟨dir, rfl, turn.fs.mem_makedirsAfter made path legal dir new⟩
  simp only [makeDest] at member
  split at member
  · rename_i come
    rcases mem_finish member with among | mounted
    · exact (inside among).imp_right .inl
    · exact .inr (.inr ⟨mounted, turn.fs.makedirsAfter_legal made path legal come⟩)
  · exact (inside member).imp_right .inl

theorem makeDest_done {turn : Turn} {path : String} {made : List (List String)}
    {effects : List Effect} (legal : ∀ dir ∈ made, ∀ name ∈ dir, legalName name = true)
    (done : (makeDest turn path made effects).2 = true) : Legal path := by
  simp only [makeDest] at done
  split at done
  · rename_i come
    exact turn.fs.makedirsAfter_legal made path legal come
  · cases done

theorem makedirs_named (fs : FileSystem) (path : String) :
    ∀ dir ∈ (fs.makedirs path).1, ∀ name ∈ dir, legalName name = true := fun dir made =>
  FileSystem.entered_legal path dir (fs.mem_makedirs path dir made).2

theorem mem_handleMount {root : String} {turn : Turn} {effect : Effect}
    (member : effect ∈ (handleMount root turn).1) :
    legalName turn.mount.target = true ∧
    ((∃ dir, effect = .target (turn.mount.type = "volume") dir ∧
        turn.fs.exist (mountDest root turn.mount.source) = false ∧
          dir ∈ (turn.fs.makedirs turn.source).1) ∨
      (∃ dir, effect = .inside dir ∧ dir ∉ turn.fs.dirs ∧
        dir ∈ entered (mountDest root turn.mount.source)) ∨
      (effect = .mounted (resolve (mountDest root turn.mount.source)) ∧
          Legal (mountDest root turn.mount.source))) := by
  simp only [handleMount] at member
  split at member
  · cases member
  · rename_i named
    refine ⟨by simpa using named, ?_⟩
    split at member
    · rename_i there
      rcases mem_finish member with among | mounted
      · cases among
      · exact .inr (.inr ⟨mounted, ((turn.fs.exist_iff _).mp there).1⟩)
    · rename_i absent
      have absent : turn.fs.exist (mountDest root turn.mount.source) = false := by
        simpa using absent
      have known : effect ∈ (makeDest turn (mountDest root turn.mount.source) [] []).1 → _ :=
        mem_makeDest (by simp)
      split at member
      · exact .inr ((known member).resolve_left List.not_mem_nil)
      · exact .inr ((known member).resolve_left List.not_mem_nil)
      · have target : effect ∈
          (turn.fs.makedirs turn.source).1.map (Effect.target (turn.mount.type = "volume")) →
            ∃ dir, effect = .target (turn.mount.type = "volume") dir ∧
              turn.fs.exist (mountDest root turn.mount.source) = false ∧
                  dir ∈ (turn.fs.makedirs turn.source).1 := by
          intro among
          rcases List.mem_map.mp among with ⟨dir, new, rfl⟩
          exact ⟨dir, rfl, absent, new⟩
        split at member
        · exact (mem_makeDest (makedirs_named _ _) member).imp_left target
        · exact .inl (target member)

theorem handleMount_done {root : String} {turn : Turn} (done : (handleMount root turn).2 = true) :
    legalName turn.mount.target = true ∧ Legal (mountDest root turn.mount.source) := by
  simp only [handleMount] at done
  split at done
  · cases done
  · rename_i named
    refine ⟨by simpa using named, ?_⟩
    split at done
    · rename_i there
      exact ((turn.fs.exist_iff _).mp there).1
    · split at done
      · exact makeDest_done (by simp) done
      · exact makeDest_done (by simp) done
      · split at done
        · exact makeDest_done (makedirs_named _ _) done
        · cases done

theorem mem_handleMounts {root : String} {turns : List Turn} {effect : Effect}
    (member : effect ∈ (handleMounts root turns).1) :
    ∃ before turn after, turns = before ++ turn :: after ∧
      (∀ turn ∈ before, (handleMount root turn).2 = true) ∧ effect ∈ (handleMount root turn).1 := by
  induction turns with
  | nil => cases member
  | cons turn rest ih =>
      simp only [handleMounts] at member
      split at member
      · rename_i done
        rcases List.mem_append.mp member with here | later
        · exact ⟨[], turn, rest, rfl, by simp, here⟩
        · rcases ih later with ⟨before, other, after, rfl, past, found⟩
          exact ⟨turn :: before, other, after, rfl, List.forall_mem_cons.mpr ⟨done, past⟩, found⟩
      · exact ⟨[], turn, rest, rfl, by simp, member⟩

theorem handleMounts_reaches {root : String} {before : List Turn} (turn : Turn) (after : List Turn)
    (past : ∀ turn ∈ before, (handleMount root turn).2 = true) {effect : Effect}
    (here : effect ∈ (handleMount root turn).1) :
    effect ∈ (handleMounts root (before ++ turn :: after)).1 := by
  induction before with
  | nil =>
      simp only [List.nil_append, handleMounts]
      split
      · exact List.mem_append_left _ here
      · exact here
  | cons first rest ih =>
      rw [List.forall_mem_cons] at past
      simp only [List.cons_append, handleMounts, past.1, if_true]
      exact List.mem_append_right _ (ih past.2)

def bareTurn (root : String) (target : Target) (mount : Mount) : Turn :=
  ⟨mount, .bare [root, volumeMountRoot], target, "", true⟩

theorem bareTurn_exist (root : String) (target : Target) (mount : Mount) (path : String) :
    (bareTurn root target mount).fs.exist path = true ↔
      Legal path ∧ ∀ dir ∈ entered path, dir ∈ FileSystem.knownDirs [root, volumeMountRoot] :=
  FileSystem.exist_iff _ path

theorem handleMount_there {root : String} (turn : Turn) (named : legalName turn.mount.target = true)
    (there : turn.fs.exist (mountDest root turn.mount.source) = true) :
    handleMount root turn = finish turn (mountDest root turn.mount.source) [] := by
  simp [handleMount, named, there]

theorem handleMount_directory {root : String} (turn : Turn)
    (named : legalName turn.mount.target = true)
    (absent : turn.fs.exist (mountDest root turn.mount.source) = false)
    (directory : turn.target = .directory) :
    handleMount root turn = makeDest turn (mountDest root turn.mount.source) [] [] := by
  simp [handleMount, named, absent, directory]

theorem handleMount_missing {root : String} (turn : Turn)
    (named : legalName turn.mount.target = true)
    (absent : turn.fs.exist (mountDest root turn.mount.source) = false)
    (missing : turn.target = .missing) :
    handleMount root turn =
      let made := turn.fs.makedirs turn.source
      let effects := made.1.map (.target (turn.mount.type = "volume"))
      if made.2 then makeDest turn (mountDest root turn.mount.source) made.1 effects
          else (effects, false) := by
  simp [handleMount, named, absent, missing]

theorem mem_makeDest_append {turn : Turn} {path : String} {made : List (List String)}
    {effects : List Effect} {effect : Effect}
    (member : effect ∈ effects ++ (turn.fs.makedirsAfter made path).1.map .inside) :
    effect ∈ (makeDest turn path made effects).1 := by
  simp only [makeDest]
  split
  · exact List.mem_append_left _ member
  · exact member

theorem makeDest_come {turn : Turn} {path : String} {made : List (List String)}
    (effects : List Effect) (come : (turn.fs.makedirsAfter made path).2 = true) :
    makeDest turn path made effects =
      finish turn path (effects ++ (turn.fs.makedirsAfter made path).1.map .inside) := by
  simp only [makeDest, come, if_true]

theorem finish_mounted {turn : Turn} (path : String) (effects : List Effect)
    (through : turn.goesThrough = true) :
    .mounted (resolve path) ∈ (finish turn path effects).1 := by
  simp [finish, through]

theorem bareTurn_way (root : String) (mount : Mount) (named : legalName mount.target = true) :
    ∀ dir ∈ entered (mountDest root mount.source),
      dir ∈ FileSystem.knownDirs [root, volumeMountRoot] ∨
      .inside dir ∈ (handleMount root (bareTurn root .directory mount)).1 := by
  intro dir way
  by_cases there : (bareTurn root .directory mount).fs.exist (mountDest root mount.source) = true
  · exact .inl (((bareTurn_exist _ _ _ _).mp there).2 dir way)
  · rw [handleMount_directory (bareTurn root .directory mount) named
      (Bool.not_eq_true _ |>.mp there) rfl]
    refine ((FileSystem.bare_makedirs [root, volumeMountRoot] _).1 dir way).imp_right fun new => ?_
    exact mem_makeDest_append (List.mem_append_right _ (List.mem_map_of_mem new))

theorem bareTurn_mounts (root : String) (mount : Mount) (named : legalName mount.target = true)
    (legal : Legal (mountDest root mount.source)) :
    .mounted (resolve (mountDest root mount.source)) ∈
      (handleMount root (bareTurn root .directory mount)).1 ∧
      (handleMount root (bareTurn root .directory mount)).2 = true := by
  by_cases there : (bareTurn root .directory mount).fs.exist (mountDest root mount.source) = true
  · rw [handleMount_there (bareTurn root .directory mount) named there]
    exact ⟨finish_mounted _ _ rfl, rfl⟩
  · rw [handleMount_directory (bareTurn root .directory mount) named
      (Bool.not_eq_true _ |>.mp there) rfl]
    have come :
        ((bareTurn root .directory mount).fs.makedirsAfter [] (mountDest root mount.source)).2 =
            true :=
      (FileSystem.bare_makedirs [root, volumeMountRoot] (mountDest root mount.source)).2.mpr legal
    have through : makeDest (bareTurn root .directory mount)
        (mountDest root mount.source) [] [] = _ :=
      makeDest_come [] come
    constructor
    · rw [show (bareTurn root .directory mount).mount = mount from rfl, through]
      exact finish_mounted _ _ rfl
    · exact congrArg Prod.snd through

theorem bareTurn_volume (root : String) (mount : Mount) (named : legalName mount.target = true)
    (volume : mount.type = "volume")
    (absent : (bareTurn root .missing mount).fs.exist (mountDest root mount.source) = false)
    (dir : List String)
    (made : dir ∈ ((FileSystem.bare [root, volumeMountRoot]).makedirs (volumeTarget mount)).1) :
    .target true dir ∈ (handleMount root (bareTurn root .missing mount)).1 := by
  have source : (bareTurn root .missing mount).source = volumeTarget mount := if_pos volume
  have isVolume : decide ((bareTurn root .missing mount).mount.type = "volume") = true :=
    decide_eq_true volume
  have among : Effect.target true dir ∈
      ((bareTurn root .missing mount).fs.makedirs (volumeTarget mount)).1.map _ :=
    List.mem_map_of_mem made
  rw [handleMount_missing (bareTurn root .missing mount) named absent rfl, source, isVolume]
  dsimp only
  split
  · exact mem_makeDest_append (List.mem_append_left _ among)
  · exact among

/-- A run on file systems with nothing else gets to each mount that the ones before it let through.
-/
theorem bareTurn_allowed {root : String} {before : List Mount} {mount : Mount} {after : List Mount}
    (inside : MountsInside root (before ++ mount :: after)) (past : MountsPast root before)
    (target : Target) :
    ∀ effect ∈ (handleMount root (bareTurn root target mount)).1, effect.Allowed root := by
  intro effect here
  refine inside (before.map (bareTurn root .directory) ++ bareTurn root target mount ::
    after.map (bareTurn root .directory)) ?_ ?_ effect ?_
  · simp [bareTurn, Function.comp_def]
  · intro turn member
    have bare : turn.fs = .bare [root, volumeMountRoot] := by
      rcases List.mem_append.mp member with earlier | later
      · rcases List.mem_map.mp earlier with ⟨_, _, rfl⟩
        rfl
      · rcases List.mem_cons.mp later with rfl | later
        · rfl
        · rcases List.mem_map.mp later with ⟨_, _, rfl⟩
          rfl
    rw [bare]
    exact FileSystem.bare_has _
  · refine handleMounts_reaches _ _ (fun turn member => ?_) here
    rcases List.mem_map.mp member with ⟨other, among, rfl⟩
    exact (bareTurn_mounts root other (past other among).1 (past other among).2).2

theorem mountsInside_iff (root : String) (mounts : List Mount) :
    MountsInside root mounts ↔ MountsConfined root mounts := by
  constructor
  · rintro inside before mount after rfl past named
    have effects := bareTurn_allowed inside past
    refine ⟨fun dir way => ?_, fun legal => ?_, fun volume => ?_⟩
    · exact (bareTurn_way root mount named dir way).imp_right (effects .directory _)
    · exact effects .directory _ (bareTurn_mounts root mount named legal).1
    · by_cases there : (bareTurn root .missing mount).fs.exist (mountDest root mount.source) = true
      · exact .inl ((bareTurn_exist _ _ _ _).mp there)
      · refine .inr (onlyBelow_of_made fun dir made => ?_)
        exact effects .missing
          _ (bareTurn_volume root mount named volume (Bool.not_eq_true _ |>.mp there) dir made) rfl
  · rintro confined turns rfl present effect member
    rcases mem_handleMounts member with ⟨before, turn, after, rfl, past, here⟩
    have here := mem_handleMount here
    have known := turn.fs.known_present _ (present turn (by simp))
    have gotPast : MountsPast root (before.map Turn.mount) := by
      intro mount among
      rcases List.mem_map.mp among with ⟨earlier, member, rfl⟩
      exact handleMount_done (past earlier member)
    have each :=
      confined (before.map Turn.mount) turn.mount (after.map Turn.mount) (by simp) gotPast here.1
    -- what the turn has done was on its way, or is the volume that was not there
    rcases here.2 with ⟨dir, rfl, absent, made⟩ | ⟨dir, rfl, fresh, way⟩ | ⟨rfl, legal⟩
    · intro volume
      have volume : turn.mount.type = "volume" := of_decide_eq_true volume
      rcases each.volume volume with ⟨legal, there⟩ | only
      · have exists' := (turn.fs.exist_iff _).mpr ⟨legal, fun dir way => known dir (there dir way)⟩
        exact absurd (absent.symm.trans exists') (by decide)
      · rw [Turn.source, if_pos volume] at made
        exact made_below (present turn (by simp)) only made
    · exact (each.way dir way).resolve_left fun old => fresh (known dir old)
    · exact each.dest legal

end Mounts

section Instances

instance (known : List (List String)) (root : List String) (path : String) :
    Decidable (OnlyBelow known root path) :=
  inferInstanceAs (Decidable (∀ dir ∈ entered path, dir ∈ known ∨ (root <+: dir ∧ dir ≠ root)))

def cronMount : Mount := ⟨"bind", "//etc/cron.d", "/home/jobs", false⟩

def libraryMount : Mount := ⟨"volume", "/var/lib", "data", false⟩

end Instances

end Dockermock.Jail.Confinement
