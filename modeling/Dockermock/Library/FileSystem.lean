import Dockermock.Library.Paths

/-!
The directories of a file system, and `os.makedirs` on them. What a call makes
depends on what is there and on what the system accepts; a name with a null
character is never there and never accepted.
-/

namespace Dockermock.Library

section Making

variable {Name : Type} [DecidableEq Name]

/-- `os.makedirs(path, exist_ok=True)`: the directories it makes, given those there are, and
whether it comes to the end of the path. -/
def makedirs (accepts : List Name → Bool) : List (List Name) → List Name → List (Segment Name) →
    List (List Name) × Bool
  | _, _, [] => ([], true)
  | dirs, dir, segment :: rest =>
      let next := segment.enter dir
      if next ∈ dirs then makedirs accepts dirs next rest
      else if accepts next then
        let made := makedirs accepts (next :: dirs) next rest
        (next :: made.1, made.2)
      else ([], false)

theorem mem_makedirs (accepts : List Name → Bool) (legal : Name → Bool) (dirs : List (List Name))
    (dir : List Name) (segments : List (Segment Name))
    (named : ∀ dir name, dir ++ [name] ∈ dirs → legal name)
    (refused : ∀ dir name, accepts (dir ++ [name]) → legal name) (made : List Name)
    (member : made ∈ (makedirs accepts dirs dir segments).1) :
    made ∉ dirs ∧ made ∈ visited dir (legalPart legal segments) := by
  induction segments generalizing dirs dir with
  | nil => cases member
  | cons segment rest ih =>
      -- a directory that is there, or can be made, has a legal name
      have entered : segment.enter dir ∈ dirs ∨ accepts (segment.enter dir) →
          legalPart legal (segment :: rest) = segment :: legalPart legal rest := by
        intro possible
        cases segment with
        | up => rfl
        | down name =>
            rw [legalPart_down, if_pos (possible.elim (named dir name) (refused dir name))]
      simp only [makedirs] at member
      split at member
      · rename_i present
        rcases ih dirs _ named member with ⟨fresh, way⟩
        rw [entered (.inl present)]
        exact ⟨fresh, List.mem_cons_of_mem _ way⟩
      · rename_i absent
        split at member
        · rename_i accepted
          rw [entered (.inr accepted)]
          rcases List.mem_cons.mp member with rfl | later
          · exact ⟨absent, List.mem_cons_self⟩
          · have stillNamed : ∀ other name, other ++ [name] ∈ segment.enter dir :: dirs →
                legal name := by
              intro other name known
              rcases List.mem_cons.mp known with same | before
              · exact refused other name (same ▸ accepted)
              · exact named other name before
            rcases ih _ _ stillNamed later with ⟨fresh, way⟩
            exact ⟨fun known => fresh (List.mem_cons_of_mem _ known), List.mem_cons_of_mem _ way⟩
        · cases member

theorem makedirs_complete (accepts : List Name → Bool) (legal : Name → Bool)
    (dirs : List (List Name)) (dir : List Name) (segments : List (Segment Name))
    (rooted : Rooted dirs) (here : dir ∈ dirs)
    (free : ∀ dir name, legal name = true → accepts (dir ++ [name]) = true) :
    (∀ reached ∈ visited dir (legalPart legal segments), reached ∈ dirs ∨
      reached ∈ (makedirs accepts dirs dir segments).1) ∧
    (legalPart legal segments = segments → (makedirs accepts dirs dir segments).2 = true) := by
  -- over the segments, the directory that has been come to being there
  induction segments generalizing dirs dir with
  | nil => exact ⟨fun _ member => absurd member List.not_mem_nil, fun _ => rfl⟩
  | cons segment rest ih =>
      cases segment with
      | up =>
          have above : dir.dropLast ∈ dirs := rooted.2 dir here
          rw [legalPart_up]
          simp only [makedirs, Segment.enter, above, if_true, visited, List.forall_mem_cons,
            true_or, true_and, List.cons.injEq]
          exact ih dirs dir.dropLast rooted above
      | down name =>
          rw [legalPart_down]
          by_cases good : legal name = true
          · simp only [good, if_true, makedirs, Segment.enter, visited, List.forall_mem_cons,
              List.cons.injEq, true_and]
            by_cases present : dir ++ [name] ∈ dirs
            · simp only [present, if_true, true_or, true_and]
              exact ih dirs _ rooted present
            · simp only [present, free dir name good, if_true, if_false, List.mem_cons, true_or,
                or_true, true_and]
              have grown :=
                ih ((dir ++ [name]) :: dirs) _ (rooted.cons here name) List.mem_cons_self
              refine ⟨fun reached way => ?_, grown.2⟩
              rcases grown.1 reached way with known | made
              · rcases List.mem_cons.mp known with same | before
                · exact .inr (.inl same)
                · exact .inl before
              · exact .inr (.inr made)
          · simp [good, visited]

theorem makedirs_legal (accepts : List Name → Bool) (legal : Name → Bool) (dirs : List (List Name))
    (dir : List Name) (segments : List (Segment Name))
    (named : ∀ dir name, dir ++ [name] ∈ dirs → legal name = true)
    (refused : ∀ dir name, accepts (dir ++ [name]) = true → legal name = true)
    (came : (makedirs accepts dirs dir segments).2 = true) :
    legalPart legal segments = segments := by
  induction segments generalizing dirs dir with
  | nil => rfl
  | cons segment rest ih =>
      -- a segment can be followed only if it has a legal name
      have good : ∀ name, segment = .down name → segment.enter dir ∈ dirs ∨
        accepts (segment.enter dir) = true →
          legal name = true := by
        rintro name rfl possible
        exact possible.elim (named dir name) (refused dir name)
      have step : (∀ name, segment = .down name → legal name = true) → legalPart legal rest = rest →
          legalPart legal (segment :: rest) = segment :: rest := by
        intro all others
        cases segment with
        | up => rw [legalPart_up, others]
        | down name => rw [legalPart_down, if_pos (all name rfl), others]
      simp only [makedirs] at came
      split at came
      · rename_i present
        exact step (fun name down => good name down (.inl present)) (ih dirs _ named came)
      · split at came
        · rename_i accepted
          refine step (fun name down => good name down (.inr accepted)) (ih _ _ ?_ came)
          intro other name known
          rcases List.mem_cons.mp known with same | before
          · exact refused other name (same ▸ accepted)
          · exact named other name before
        · cases came

end Making

section FileSystem

structure FileSystem where
  dirs : List (List String)
  accepts : List String → Bool
  rooted : Rooted dirs
  named : ∀ dir ∈ dirs, ∀ name ∈ dir, legalName name = true
  refuses : ∀ dir name, accepts (dir ++ [name]) = true → legalName name = true

namespace FileSystem

/-- `os.makedirs(path, exist_ok=True)` next to directories that have just been made. -/
def makedirsAfter (fs : FileSystem) (made : List (List String)) (path : String) :
    List (List String) × Bool :=
  Library.makedirs fs.accepts (made ++ fs.dirs) [] (segments path)

def makedirs (fs : FileSystem) (path : String) : List (List String) × Bool :=
  fs.makedirsAfter [] path

/-- `os.path.exists`, which is false for a path that no call can follow. -/
def exist (fs : FileSystem) (path : String) : Bool :=
  (visited [] (segments path)).all fun dir => dir ∈ fs.dirs

def Has (fs : FileSystem) (paths : List String) : Prop :=
  ∀ path ∈ paths, ∀ dir ∈ entered path, dir ∈ fs.dirs

section

variable (fs : FileSystem) (made : List (List String)) (path : String)

theorem named_append (legal : ∀ dir ∈ made, ∀ name ∈ dir, legalName name = true) :
    ∀ dir name, dir ++ [name] ∈ made ++ fs.dirs → legalName name = true := by
  intro dir name member
  rcases List.mem_append.mp member with new | old
  · exact legal _ new name (by simp)
  · exact fs.named _ old name (by simp)

theorem mem_makedirsAfter (legal : ∀ dir ∈ made, ∀ name ∈ dir, legalName name = true)
    (dir : List String) (member : dir ∈ (fs.makedirsAfter made path).1) :
    dir ∉ fs.dirs ∧ dir ∈ entered path := by
  have both :=
    mem_makedirs fs.accepts legalName _ [] _ (fs.named_append made legal) fs.refuses dir member
  exact ⟨fun old => both.1 (List.mem_append_right _ old), both.2⟩

theorem makedirsAfter_legal (legal : ∀ dir ∈ made, ∀ name ∈ dir, legalName name = true)
    (came : (fs.makedirsAfter made path).2 = true) : Legal path :=
  Library.makedirs_legal fs.accepts legalName _ [] _ (fs.named_append made legal) fs.refuses came

theorem mem_makedirs (dir : List String) (member : dir ∈ (fs.makedirs path).1) :
    dir ∉ fs.dirs ∧ dir ∈ entered path :=
  fs.mem_makedirsAfter [] path (by simp) dir member

theorem makedirs_legal (came : (fs.makedirs path).2 = true) : Legal path :=
  fs.makedirsAfter_legal [] path (by simp) came

theorem entered_legal (dir : List String) (member : dir ∈ entered path) :
    ∀ name ∈ dir, legalName name = true :=
  visited_named (fun name => legalName name = true) [] _ (by simp)
    (fun _ down => legalPart_named down) dir member

theorem exist_iff : fs.exist path = true ↔ Legal path ∧ ∀ dir ∈ entered path, dir ∈ fs.dirs := by
  simp only [exist, List.all_eq_true, decide_eq_true_eq]
  constructor
  · intro present
    have legal : Legal path :=
      visited_present_legal legalName fs.dirs [] _ (fs.named_append [] (by simp)) present
    refine ⟨legal, ?_⟩
    rw [entered, legal]
    exact present
  · rintro ⟨legal, present⟩
    rwa [entered, legal] at present

end

section Bare

def knownDirs : List String → List (List String)
  | [] => [[]]
  | path :: rest => entered path ++ knownDirs rest

theorem knownDirs_rooted (paths : List String) : Rooted (knownDirs paths) := by
  induction paths with
  | nil => exact ⟨List.mem_cons_self, by simp [knownDirs]⟩
  | cons path rest ih => exact ih.visited ih.1 _

theorem knownDirs_named (paths : List String) :
    ∀ dir ∈ knownDirs paths, ∀ name ∈ dir, legalName name = true := by
  induction paths with
  | nil => simp [knownDirs]
  | cons path rest ih =>
      intro dir member
      exact (List.mem_append.mp member).elim (entered_legal path dir) (ih dir)

theorem known_present (fs : FileSystem) (paths : List String) (present : fs.Has paths) :
    ∀ dir ∈ knownDirs paths, dir ∈ fs.dirs := by
  induction paths with
  | nil => simpa [knownDirs] using fs.rooted.1
  | cons path rest ih =>
      rw [Has, List.forall_mem_cons] at present
      intro dir member
      exact (List.mem_append.mp member).elim (present.1 dir) (ih present.2 dir)

/-- A file system with nothing but these paths, that accepts every legal name. -/
def bare (paths : List String) : FileSystem where
  dirs := knownDirs paths
  accepts := fun dir => dir.getLast?.all legalName
  rooted := knownDirs_rooted paths
  named := knownDirs_named paths
  refuses := by simp

theorem bare_has (paths : List String) : (bare paths).Has paths := by
  intro path member dir way
  show dir ∈ knownDirs paths
  induction paths with
  | nil => cases member
  | cons first rest ih =>
      rcases List.mem_cons.mp member with rfl | later
      · exact List.mem_append_left _ way
      · exact List.mem_append_right _ (ih later)

theorem bare_makedirs (paths : List String) (path : String) :
    (∀ dir ∈ entered path, dir ∈ knownDirs paths ∨ dir ∈ ((bare paths).makedirs path).1) ∧
      (((bare paths).makedirs path).2 = true ↔ Legal path) := by
  have whole :=
    makedirs_complete (bare paths).accepts legalName (knownDirs paths) [] (segments path)
    (knownDirs_rooted paths) (knownDirs_rooted paths).1 (by simp [bare])
  exact ⟨whole.1, (bare paths).makedirs_legal path, whole.2⟩

end Bare

end FileSystem

end FileSystem

end Dockermock.Library
