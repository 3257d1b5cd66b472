import Mathlib.Data.List.Induction
import Dockermock.Library.Dict
import Dockermock.Library.Paths

/-!
A file system with directories and the contents of files, without links. What is
there is known by the names that lead to it; whatever is there stands in a
directory. A call changes the tree in one place at a time, and never turns a
directory into a file or a file into a directory.
-/

namespace Dockermock.Library

inductive Kind where
  | dir | file
  deriving DecidableEq, Repr

inductive FileNode (Content : Type) where
  | dir
  | file (content : Content)
  deriving DecidableEq, Repr

def FileNode.kind {Content : Type} : FileNode Content → Kind
  | .dir => .dir
  | .file _ => .file

structure FileTree (Name Content : Type) [DecidableEq Name] where
  nodes : Dict (List Name) (FileNode Content)
  root : nodes.get [] = some .dir
  parents : ∀ path, path ≠ [] → nodes.get path ≠ none → nodes.get path.dropLast = some .dir

namespace FileTree

variable {Name Content : Type} [DecidableEq Name] (tree : FileTree Name Content)

def get (path : List Name) : Option (FileNode Content) := tree.nodes.get path

def kind (path : List Name) : Option Kind := (tree.get path).map FileNode.kind

theorem kind_dir_iff (path : List Name) :
    tree.kind path = some .dir ↔ tree.get path = some .dir := by
  unfold kind
  rcases tree.get path with _ | (_ | content) <;> simp [FileNode.kind]

theorem kind_file_iff (path : List Name) :
    tree.kind path = some .file ↔ ∃ content, tree.get path = some (.file content) := by
  unfold kind
  rcases tree.get path with _ | (_ | content) <;> simp [FileNode.kind]

theorem kind_eq_none_iff (path : List Name) :
    tree.kind path = none ↔ tree.get path = none := Option.map_eq_none_iff

theorem kind_parent {path : List Name} (some' : path ≠ []) (there : tree.kind path ≠ none) :
    tree.kind path.dropLast = some .dir :=
  (tree.kind_dir_iff _).mpr
    (tree.parents path some' fun absent => there ((tree.kind_eq_none_iff path).mpr absent))

theorem kind_of_append (path rest : List Name) (there : tree.kind (path ++ rest) ≠ none) :
    tree.kind path ≠ none := by
  induction rest using List.reverseRecOn with
  | nil => rwa [List.append_nil] at there
  | append_singleton rest name ih =>
      rw [← List.append_assoc] at there
      have parent := tree.kind_parent (by simp) there
      rw [List.dropLast_concat] at parent
      exact ih (by simp [parent])

theorem kind_above (path : List Name) {rest : List Name} (further : rest ≠ [])
    (there : tree.kind (path ++ rest) ≠ none) : tree.kind path = some .dir := by
  obtain ⟨name, more, rfl⟩ := List.exists_cons_of_ne_nil further
  have next : tree.kind (path ++ [name]) ≠ none := by
    apply tree.kind_of_append _ more
    rwa [List.append_assoc]
  have parent := tree.kind_parent (by simp) next
  rwa [List.dropLast_concat] at parent

def empty : FileTree Name Content where
  nodes := Dict.empty.set [] .dir
  root := by simp [Dict.get_set]
  parents := by
    intro path some' there
    simp [Dict.get_set, some'] at there

/-- A node where there is no directory, in a directory that is there. -/
def put (path : List Name) (node : FileNode Content) (below : path ≠ [])
    (parent : tree.kind path.dropLast = some .dir) (free : tree.kind path ≠ some .dir) :
    FileTree Name Content where
  nodes := tree.nodes.set path node
  root := by
    rw [Dict.get_set, if_neg (Ne.symm below)]
    exact tree.root
  parents := by
    intro other some' there
    rw [Dict.get_set] at there ⊢
    by_cases here : other = path
    · have above : other.dropLast ≠ path := by
        rintro same
        have shorter := congrArg List.length same
        have long := List.length_pos_iff.mpr some'
        rw [List.length_dropLast, here] at shorter
        rw [here] at long
        omega
      rw [if_neg above, here]
      exact (tree.kind_dir_iff _).mp parent
    · rw [if_neg here] at there
      have standing := tree.parents other some' there
      have apart : other.dropLast ≠ path := by
        rintro rfl
        exact free ((tree.kind_dir_iff _).mpr standing)
      rw [if_neg apart]
      exact standing

@[simp] theorem get_put (path other : List Name) (node : FileNode Content) (below : path ≠ [])
    (parent : tree.kind path.dropLast = some .dir) (free : tree.kind path ≠ some .dir) :
    (tree.put path node below parent free).get other = if other = path then some node
        else tree.get other :=
  Dict.get_set tree.nodes path other node

section Calls

-- what the system lets a process make or write
variable (accepts : List Name → Bool)

/-- `os.mkdir`, where a directory that is there already is no error. -/
def mkdir (path : List Name) : Option (FileTree Name Content) :=
  if tree.kind path = some .dir then some tree
  else if ready : path ≠ [] ∧ tree.kind path.dropLast = some .dir ∧ tree.kind path = none ∧
      accepts path = true then
    some (tree.put path .dir ready.1 ready.2.1 (by simp [ready.2.2.1]))
  else none

/-- `open(path, 'wb')` and all that is written -/
def write (path : List Name) (content : Content) : Option (FileTree Name Content) :=
  if ready : path ≠ [] ∧ tree.kind path.dropLast = some .dir ∧ tree.kind path ≠ some .dir ∧
      accepts path = true then
    some (tree.put path (.file content) ready.1 ready.2.1 ready.2.2.1)
  else none

/-- `os.makedirs(path, exist_ok=True)`, segment by segment -/
def makedirs (dir : List Name) :
    List (Segment Name) → FileTree Name Content → Option (FileTree Name Content)
  | [], tree => if tree.kind dir = some .dir then some tree else none
  | segment :: rest, tree =>
      if tree.kind dir = some .dir then
        (tree.mkdir accepts (segment.enter dir)).bind (makedirs (segment.enter dir) rest)
      else none

end Calls

/-- What is there stays, and stays what it is. -/
def Grows (before after : FileTree Name Content) : Prop :=
  ∀ path kind, before.kind path = some kind → after.kind path = some kind

theorem Grows.refl : tree.Grows tree := fun _ _ there => there

theorem Grows.trans {first second third : FileTree Name Content} (left : first.Grows second)
    (right : second.Grows third) : first.Grows third :=
  fun path kind there => right path kind (left path kind there)

section Effects

variable {tree} {after : FileTree Name Content} {accepts : List Name → Bool}

theorem kind_congr {path : List Name} (same : after.get path = tree.get path) :
    after.kind path = tree.kind path := by
  rw [kind, kind, same]

theorem mkdir_effect {path : List Name} (made : tree.mkdir accepts path = some after) :
    after.kind path = some .dir ∧
      ∀ other, after.get other = tree.get other ∨
        tree.get other = none ∧ after.get other = some .dir ∧ other = path := by
  unfold mkdir at made
  split_ifs at made with present ready
  · cases made
    exact ⟨present, fun _ => .inl rfl⟩
  · cases made
    have here : (tree.put path .dir ready.1 ready.2.1 (by simp [ready.2.2.1])).get path =
      some .dir := by simp
    refine ⟨(kind_dir_iff _ path).mpr here, fun other => ?_⟩
    by_cases same : other = path
    · exact .inr ⟨same ▸ (tree.kind_eq_none_iff path).mp ready.2.2.1, same ▸ here, same⟩
    · exact .inl (by simp [same])

theorem write_effect {path : List Name} {content : Content}
    (written : tree.write accepts path content = some after) : tree.kind path ≠ some .dir ∧
      ∀ other, after.get other = if other = path then some (.file content) else tree.get other := by
  unfold write at written
  split_ifs at written with ready
  cases written
  exact ⟨ready.2.2.1, fun other => by simp⟩

theorem grows_of_new (new : ∀ other, after.get other = tree.get other ∨ tree.get other = none) :
    tree.Grows after := by
  intro path kind there
  rcases new path with same | absent
  · rwa [kind_congr same]
  · rw [(tree.kind_eq_none_iff path).mpr absent] at there
    cases there

theorem mkdir_grows {path : List Name} (made : tree.mkdir accepts path = some after) :
    tree.Grows after :=
  grows_of_new fun other => ((mkdir_effect made).2 other).imp_right And.left

theorem write_grows {path : List Name} {content : Content}
    (written : tree.write accepts path content = some after) : tree.Grows after := by
  obtain ⟨free, effect⟩ := write_effect written
  intro other kind there
  have now := effect other
  split_ifs at now with here
  · have file : after.kind other = some .file := (kind_file_iff _ other).mpr ⟨content, now⟩
    subst here
    cases kind with
    | dir => exact absurd there free
    | file => exact file
  · rwa [kind_congr now]

theorem makedirs_effect {dir : List Name} {segments : List (Segment Name)}
    (made : makedirs accepts dir segments tree = some after) :
    (∀ path ∈ dir :: visited dir segments, after.kind path = some .dir) ∧
      ∀ other, after.get other = tree.get other ∨
        tree.get other = none ∧ after.get other = some .dir ∧ other ∈ visited dir segments := by
  induction segments generalizing dir tree with
  | nil =>
      rw [makedirs] at made
      split_ifs at made with present
      cases made
      exact ⟨by simpa [visited] using present, fun _ => .inl rfl⟩
  | cons segment rest ih =>
      rw [makedirs] at made
      split_ifs at made with present
      obtain ⟨next, first, later⟩ := Option.bind_eq_some_iff.mp made
      obtain ⟨_, entered⟩ := mkdir_effect first
      obtain ⟨way, others⟩ := ih later
      have grown : tree.Grows after :=
        (mkdir_grows first).trans (grows_of_new fun other => (others other).imp_right And.left)
      refine ⟨List.forall_mem_cons.mpr ⟨grown dir .dir present, way⟩, fun other => ?_⟩
      rcases others other with same | ⟨absent, made, among⟩
      · rcases entered other with before | ⟨absent, made, at'⟩
        · exact .inl (same.trans before)
        · exact .inr ⟨absent, same.trans made, at' ▸ List.mem_cons_self⟩
      · rcases entered other with before | ⟨_, standing, _⟩
        · exact .inr ⟨before ▸ absent, made, List.mem_cons_of_mem _ among⟩
        · rw [standing] at absent
          cases absent

theorem makedirs_append {dir : List Name} {segments : List (Segment Name)}
    (rest : List (Segment Name))
    (standing : ∀ path ∈ dir :: visited dir segments, tree.kind path = some .dir) :
    makedirs accepts dir (segments ++ rest) tree =
        makedirs accepts (walk dir segments) rest tree := by
  induction segments generalizing dir with
  | nil => rfl
  | cons segment others ih =>
      rw [List.forall_mem_cons, visited] at standing
      have entered := standing.2 _ List.mem_cons_self
      rw [List.cons_append, makedirs, if_pos standing.1, mkdir, if_pos entered]
      exact ih standing.2

theorem makedirs_standing {dir : List Name} {segments : List (Segment Name)}
    (standing : ∀ path ∈ dir :: visited dir segments, tree.kind path = some .dir) :
    makedirs accepts dir segments tree = some tree := by
  have whole := @makedirs_append _ _ _ tree accepts dir segments [] standing
  rw [List.append_nil, makedirs, if_pos (standing _ (walk_mem dir segments))] at whole
  exact whole

theorem makedirs_single {dir : List Name} (segment : Segment Name)
    (standing : tree.kind dir = some .dir) :
    makedirs accepts dir [segment] tree = tree.mkdir accepts (segment.enter dir) := by
  rw [makedirs, if_pos standing]
  cases made : tree.mkdir accepts (segment.enter dir) with
  | none => rfl
  | some next => exact if_pos (mkdir_effect made).1

end Effects

end FileTree

end Dockermock.Library
