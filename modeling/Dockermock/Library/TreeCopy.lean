import Dockermock.Library.FileTree

/-!
Copying within a file system, as `shutil.copy2` and `shutil.copytree` do it. A
copy reads the tree that it writes to, so what is copied may have been copied
before: `Reached` and `Made` are all the places that a list of copies can come to,
whatever the order in which directories are listed, and what a copy has written
is found among them.
-/

namespace Dockermock.Library

variable {Name Content : Type} [DecidableEq Name]

/-- How directories are listed; the order is left open. -/
structure Scan (Name Content : Type) [DecidableEq Name] where
  list : FileTree Name Content → List Name → List Name
  complete : ∀ tree dir name, name ∈ list tree dir ↔ tree.kind (dir ++ [name]) ≠ none

/-- Directories listed in the order in which their entries came. -/
def Scan.ordered : Scan Name Content where
  list := fun tree dir => tree.nodes.keys.filterMap fun path =>
    if path.dropLast = dir then path.getLast? else none
  complete := by
    intro tree dir name
    have known : ∀ path, path ∈ tree.nodes.keys ↔ tree.kind path ≠ none := by
      intro path
      rw [Dict.mem_keys_iff, ne_eq, tree.kind_eq_none_iff, ← ne_eq, Option.ne_none_iff_exists']
      rfl
    rw [List.mem_filterMap]
    constructor
    · rintro ⟨path, member, read⟩
      split_ifs at read with same
      obtain ⟨front, rfl⟩ := List.getLast?_eq_some_iff.mp read
      rw [List.dropLast_concat] at same
      exact same ▸ (known _).mp member
    · intro there
      exact ⟨dir ++ [name], (known _).mpr there, by simp⟩

/-- The tree, and the places where a file has been created or overwritten. -/
structure Copying (Name Content : Type) [DecidableEq Name] where
  tree : FileTree Name Content
  written : List (List Name)

/-- What is copied, the last name of its path, and where to. -/
structure Job (Name : Type) where
  source : List Name
  name : Name
  target : List Name
  deriving DecidableEq

section Copies

variable (accepts : List Name → Bool) (scan : Scan Name Content)

/-- `shutil.copy2`: into a directory that is there, or else as a file in this place -/
def copyFile (source : List Name) (name : Name) (target : List Name)
    (state : Copying Name Content) : Option (Copying Name Content) :=
  let place := if state.tree.kind target = some .dir then target ++ [name] else target
  match state.tree.get source with
  | some (.file content) =>
      if place = source then none
      else (state.tree.write accepts place content).map fun tree => ⟨tree, state.written ++ [place]⟩
  | _ => none

/-- The loop of `shutil.copytree` over the entries of a directory. An error there is raised when the
loop is done, so nothing comes back from it either. -/
def copyEntries
    (copyDir : List Name → List Name → Copying Name Content → Option (Copying Name Content))
    (source target : List Name) : List Name → Copying Name Content → Option (Copying Name Content)
  | [], state => some state
  | name :: rest, state =>
      (if state.tree.kind (source ++ [name]) = some .dir then
        copyDir (source ++ [name]) (target ++ [name]) state
      else copyFile accepts (source ++ [name]) name (target ++ [name]) state).bind
        (copyEntries copyDir source target rest)

/-- `shutil.copytree(source, target, dirs_exist_ok=True)`, to a depth of so many calls. The entries
are listed before the target is made. -/
def copyTree : Nat → List Name → List Name → Copying Name Content → Option (Copying Name Content)
  | 0, _, _, _ => none
  | depth + 1, source, target, state =>
      (state.tree.mkdir accepts target).bind fun tree =>
        copyEntries accepts (copyTree depth) source target (scan.list state.tree source)
          ⟨tree, state.written⟩

def runJob (depth : Nat) (job : Job Name) (state : Copying Name Content) :
    Option (Copying Name Content) :=
  match state.tree.kind job.source with
  | some .dir => copyTree accepts scan depth job.source job.target state
  | some .file => copyFile accepts job.source job.name job.target state
  | none => none

def runJobs (depth : Nat) : List (Job Name) → Copying Name Content → Option (Copying Name Content)
  | [], state => some state
  | job :: rest, state => (runJob accepts scan depth job state).bind (runJobs depth rest)

end Copies

section Bringing

structure Extends (before after : Copying Name Content) : Prop where
  grows : before.tree.Grows after.tree
  written : ∀ path ∈ before.written, path ∈ after.written

theorem Extends.refl (state : Copying Name Content) :
    Extends state state := ⟨.refl _, fun _ member => member⟩

theorem Extends.trans {first second third : Copying Name Content} (left : Extends first second)
    (right : Extends second third) : Extends first third :=
  ⟨left.grows.trans right.grows, fun path member => right.written path (left.written path member)⟩

/-- A directory has come to its place; a file has been written there, or into what is there. -/
def Arrives (state : Copying Name Content) (place : List Name) : Kind → Prop
  | .dir => state.tree.kind place = some .dir
  | .file => ∃ path ∈ state.written, path = place ∨ ∃ name, path = place ++ [name]

theorem Arrives.mono {before after : Copying Name Content} (later : Extends before after)
    {place : List Name} {kind : Kind} (arrives : Arrives before place kind) :
    Arrives after place kind := by
  cases kind with
  | dir => exact later.grows place .dir arrives
  | file =>
      obtain ⟨path, member, where'⟩ := arrives
      exact ⟨path, later.written path member, where'⟩

/-- All that is below the source arrives below the target. -/
structure Brings (source target : List Name) (before after : Copying Name Content) : Prop where
  later : Extends before after
  arrives : ∀ rest kind, before.tree.kind (source ++ rest) = some kind →
    Arrives after (target ++ rest) kind

variable {accepts : List Name → Bool} {scan : Scan Name Content}

theorem copyFile_effect {source target : List Name} {name : Name}
    {before after : Copying Name Content}
    (copied : copyFile accepts source name target before = some after) :
    ∃ content place, before.tree.get source = some (.file content) ∧
      (place = target ∧ before.tree.kind target ≠ some .dir ∨
        place = target ++ [name] ∧ before.tree.kind target = some .dir) ∧
      before.tree.write accepts place content = some after.tree ∧
          after.written = before.written ++ [place] := by
  unfold copyFile at copied
  dsimp only at copied
  split at copied
  · rename_i content read
    split_ifs at copied with into same same
    · obtain ⟨tree, wrote, rfl⟩ := Option.map_eq_some_iff.mp copied
      exact ⟨content, _, read, .inr ⟨rfl, into⟩, wrote, rfl⟩
    · obtain ⟨tree, wrote, rfl⟩ := Option.map_eq_some_iff.mp copied
      exact ⟨content, _, read, .inl ⟨rfl, into⟩, wrote, rfl⟩
  · cases copied

theorem copyFile_brings {source target : List Name} {name : Name}
    {before after : Copying Name Content}
    (copied : copyFile accepts source name target before = some after) :
    Brings source target before after := by
  obtain ⟨content, place, read, where', wrote, listed⟩ := copyFile_effect copied
  have file : before.tree.kind source = some .file :=
    (before.tree.kind_file_iff source).mpr ⟨content, read⟩
  have later : Extends before after := by
    refine ⟨FileTree.write_grows wrote, fun path member => ?_⟩
    rw [listed]
    exact List.mem_append_left _ member
  refine ⟨later, fun rest kind there => ?_⟩
  cases rest with
  | nil =>
      rw [List.append_nil] at there ⊢
      cases there.symm.trans file
      refine ⟨place, by simp [listed], ?_⟩
      rcases where' with ⟨here, _⟩ | ⟨into, _⟩
      · exact .inl here
      · exact .inr ⟨name, into⟩
  | cons first more =>
      -- there is nothing below a file
      have above := before.tree.kind_above source (List.cons_ne_nil first more) (by simp [there])
      cases above.symm.trans file

theorem copyEntries_brings
    {copyDir : List Name → List Name → Copying Name Content → Option (Copying Name Content)}
    (brings : ∀ source target before after, before.tree.kind source = some .dir →
      copyDir source target before = some after → Brings source target before after)
    {source target names : List Name} {before after : Copying Name Content}
    (copied : copyEntries accepts copyDir source target names before = some after) :
    Extends before after ∧ ∀ name ∈ names, ∀ rest kind,
      before.tree.kind (source ++ name :: rest) = some kind →
      Arrives after (target ++ name :: rest) kind := by
  induction names generalizing before with
  | nil =>
      cases copied
      exact ⟨.refl _, by simp⟩
  | cons name others ih =>
      rw [copyEntries] at copied
      obtain ⟨next, first, later⟩ := Option.bind_eq_some_iff.mp copied
      have here : Brings (source ++ [name]) (target ++ [name]) before next := by
        split_ifs at first with dir
        · exact brings _ _ _ _ dir first
        · exact copyFile_brings first
      obtain ⟨extends', arrive⟩ := ih later
      refine ⟨here.later.trans extends', List.forall_mem_cons.mpr ⟨fun rest kind there => ?_, ?_⟩⟩
      · have arrived := here.arrives rest kind (by rwa [List.append_assoc])
        rw [List.append_assoc] at arrived
        exact arrived.mono extends'
      · exact fun other among rest kind there =>
          arrive other among rest kind (here.later.grows _ _ there)

theorem copyTree_brings (depth : Nat) {source target : List Name}
    {before after : Copying Name Content} (dir : before.tree.kind source = some .dir)
    (copied : copyTree accepts scan depth source target before = some after) :
    Brings source target before after := by
  induction depth generalizing source target before after with
  | zero => cases copied
  | succ depth ih =>
      rw [copyTree] at copied
      obtain ⟨tree, made, entries⟩ := Option.bind_eq_some_iff.mp copied
      have grown := FileTree.mkdir_grows made
      obtain ⟨extends', arrive⟩ := copyEntries_brings (fun _ _ _ _ => ih) entries
      refine ⟨⟨grown.trans extends'.grows, extends'.written⟩, fun rest kind there => ?_⟩
      cases rest with
      | nil =>
          rw [List.append_nil] at there ⊢
          cases there.symm.trans dir
          exact extends'.grows target .dir (FileTree.mkdir_effect made).1
      | cons name more =>
          have listed : name ∈ scan.list before.tree source := by
            refine (scan.complete _ _ _).mpr (before.tree.kind_of_append _ more ?_)
            rw [List.append_assoc]
            simp [there]
          exact arrive name listed more kind (grown _ _ there)

theorem runJob_brings {depth : Nat} {job : Job Name} {before after : Copying Name Content}
    (ran : runJob accepts scan depth job before = some after) :
    Brings job.source job.target before after := by
  unfold runJob at ran
  split at ran
  · rename_i dir
    exact copyTree_brings depth dir ran
  · exact copyFile_brings ran
  · cases ran

/-- Whatever was below a source when the first of the copies began has arrived when the last is
done. -/
theorem runJobs_brings {depth : Nat} {jobs : List (Job Name)} {before after : Copying Name Content}
    (ran : runJobs accepts scan depth jobs before = some after) :
    Extends before after ∧ ∀ job ∈ jobs, Brings job.source job.target before after := by
  induction jobs generalizing before with
  | nil =>
      cases ran
      exact ⟨.refl _, by simp⟩
  | cons job rest ih =>
      rw [runJobs] at ran
      obtain ⟨next, first, later⟩ := Option.bind_eq_some_iff.mp ran
      have here := runJob_brings first
      obtain ⟨extends', bring⟩ := ih later
      refine ⟨here.later.trans extends', List.forall_mem_cons.mpr ⟨?_, fun other among => ?_⟩⟩
      · exact ⟨here.later.trans extends',
          fun more kind there => (here.arrives more kind there).mono extends'⟩
      · refine ⟨here.later.trans extends', fun more kind there => ?_⟩
        exact (bring other among).arrives more kind (here.later.grows _ _ there)

end Bringing

section Reaching

-- the files and directories there are when the first copy begins
variable (file : List Name → Content → Prop) (dir : List Name → Prop) (jobs : List (Job Name))

inductive Made : List Name → Prop
  | given (job : Job Name) (member : job ∈ jobs) (rest : List Name)
      (there : dir (job.source ++ rest)) : Made (job.target ++ rest)
  | again (job : Job Name) (member : job ∈ jobs) (rest : List Name)
      (made : Made (job.source ++ rest)) : Made (job.target ++ rest)

def Standing (path : List Name) : Prop := dir path ∨ Made dir jobs path

/-- The places that the content of a file comes to, once or more than once. -/
inductive Reached : List Name → Content → Prop
  | given (job : Job Name) (member : job ∈ jobs) (rest : List Name) (content : Content)
      (there : file (job.source ++ rest) content) : Reached (job.target ++ rest) content
  | again (job : Job Name) (member : job ∈ jobs) (rest : List Name) (content : Content)
      (reached : Reached (job.source ++ rest) content) : Reached (job.target ++ rest) content
  | into (path : List Name) (name : Name) (content : Content) (reached : Reached path content)
      (standing : Standing dir jobs path) : Reached (path ++ [name]) content

/-- All that is in the tree was there before, or is where copies come to. -/
structure Traced (state : Copying Name Content) : Prop where
  files : ∀ path content, state.tree.get path = some (.file content) →
    file path content ∨ Reached file dir jobs path content
  dirs : ∀ path, state.tree.kind path = some .dir → Standing dir jobs path
  written : ∀ path ∈ state.written, ∃ content,
    state.tree.get path = some (.file content) ∧ Reached file dir jobs path content

variable {file} {dir} {jobs} {accepts : List Name → Bool} {scan : Scan Name Content}

theorem traced_start {tree : FileTree Name Content}
    (files : ∀ path content, tree.get path = some (.file content) → file path content)
    (dirs : ∀ path, tree.kind path = some .dir → dir path) : Traced file dir jobs ⟨tree, []⟩ where
  files := fun path content there => .inl (files path content there)
  dirs := fun path there => .inl (dirs path there)
  written := by simp

theorem copyFile_traced {job : Job Name} (member : job ∈ jobs) (rest : List Name) {name : Name}
    {before after : Copying Name Content} (traced : Traced file dir jobs before)
    (copied : copyFile accepts (job.source ++ rest) name (job.target ++ rest) before = some after) :
    Traced file dir jobs after := by
  obtain ⟨content, place, read, where', wrote, listed⟩ := copyFile_effect copied
  obtain ⟨_, effect⟩ := FileTree.write_effect wrote
  have aimed : Reached file dir jobs (job.target ++ rest) content :=
    (traced.files _ _ read).elim (.given job member rest content) (.again job member rest content)
  -- copy2 takes the name along where the target is a directory
  have reached : Reached file dir jobs place content := by
    rcases where' with ⟨rfl, _⟩ | ⟨rfl, into⟩
    · exact aimed
    · exact .into _ name content aimed (traced.dirs _ into)
  have here : after.tree.get place = some (.file content) := (effect place).trans (if_pos rfl)
  constructor
  · intro path other there
    by_cases same : path = place
    · subst same
      cases here.symm.trans there
      exact .inr reached
    · rw [effect, if_neg same] at there
      exact traced.files path other there
  · intro path there
    have apart : path ≠ place := by
      rintro rfl
      cases here.symm.trans ((after.tree.kind_dir_iff _).mp there)
    have kept : after.tree.get path = before.tree.get path := (effect path).trans (if_neg apart)
    exact traced.dirs path (by rwa [FileTree.kind_congr kept] at there)
  · intro path among
    by_cases same : path = place
    · exact ⟨content, same ▸ here, same ▸ reached⟩
    · rw [listed, List.mem_append, List.mem_singleton] at among
      rw [effect, if_neg same]
      exact traced.written path (among.resolve_right same)

theorem mkdir_traced {target : List Name} (made : Made dir jobs target)
    {before : Copying Name Content} (traced : Traced file dir jobs before)
    {after : FileTree Name Content} (ran : before.tree.mkdir accepts target = some after) :
    Traced file dir jobs ⟨after, before.written⟩ := by
  obtain ⟨_, effect⟩ := FileTree.mkdir_effect ran
  constructor
  · intro path content there
    rcases effect path with same | ⟨_, new, _⟩
    · exact traced.files path content (same.symm.trans there)
    · cases new.symm.trans there
  · intro path there
    rcases effect path with same | ⟨_, _, rfl⟩
    · exact traced.dirs path (by rwa [FileTree.kind_congr same] at there)
    · exact .inr made
  · intro path among
    obtain ⟨content, found, reached⟩ := traced.written path among
    refine ⟨content, ?_, reached⟩
    rcases effect path with same | ⟨absent, _⟩
    · exact same.trans found
    · cases absent.symm.trans found

theorem copyEntries_traced {job : Job Name} (member : job ∈ jobs) (rest : List Name)
    {copyDir : List Name → List Name → Copying Name Content → Option (Copying Name Content)}
    (keeps : ∀ more before after, before.tree.kind (job.source ++ more) = some .dir →
      Traced file dir jobs before →
        copyDir (job.source ++ more) (job.target ++ more) before = some after →
          Traced file dir jobs after)
    {names : List Name} {before after : Copying Name Content} (traced : Traced file dir jobs before)
    (copied : copyEntries accepts copyDir (job.source ++ rest)
      (job.target ++ rest) names before = some after) :
    Traced file dir jobs after := by
  induction names generalizing before with
  | nil =>
      cases copied
      exact traced
  | cons name others ih =>
      rw [copyEntries, List.append_assoc, List.append_assoc] at copied
      obtain ⟨next, first, later⟩ := Option.bind_eq_some_iff.mp copied
      refine ih ?_ later
      split_ifs at first with below
      · exact keeps _ _ _ below traced first
      · exact copyFile_traced member _ traced first

theorem copyTree_traced (depth : Nat) {job : Job Name} (member : job ∈ jobs) (rest : List Name)
    {before after : Copying Name Content}
    (there : before.tree.kind (job.source ++ rest) = some .dir)
    (traced : Traced file dir jobs before)
    (copied : copyTree accepts scan depth (job.source ++ rest)
      (job.target ++ rest) before = some after) :
    Traced file dir jobs after := by
  induction depth generalizing rest before after with
  | zero => cases copied
  | succ depth ih =>
      rw [copyTree] at copied
      obtain ⟨grown, ran, entries⟩ := Option.bind_eq_some_iff.mp copied
      have made : Made dir jobs (job.target ++ rest) :=
        (traced.dirs _ there).elim (.given job member rest) (.again job member rest)
      exact copyEntries_traced member rest (fun more _ _ => ih more)
        (mkdir_traced made traced ran) entries

theorem runJob_traced {depth : Nat} {job : Job Name} (member : job ∈ jobs)
    {before after : Copying Name Content} (traced : Traced file dir jobs before)
    (ran : runJob accepts scan depth job before = some after) :
    Traced file dir jobs after := by
  have source := List.append_nil job.source
  have target := List.append_nil job.target
  unfold runJob at ran
  split at ran
  · rename_i there
    rw [← source] at there ran
    rw [← target] at ran
    exact copyTree_traced depth member [] there traced ran
  · rw [← source, ← target] at ran
    exact copyFile_traced member [] traced ran
  · cases ran

theorem runJobs_traced {depth : Nat} {some' : List (Job Name)} (subset : ∀ job ∈ some', job ∈ jobs)
    {before after : Copying Name Content} (traced : Traced file dir jobs before)
    (ran : runJobs accepts scan depth some' before = some after) : Traced file dir jobs after := by
  induction some' generalizing before with
  | nil =>
      cases ran
      exact traced
  | cons job rest ih =>
      rw [List.forall_mem_cons] at subset
      rw [runJobs] at ran
      obtain ⟨next, first, later⟩ := Option.bind_eq_some_iff.mp ran
      exact ih subset.2 (runJob_traced subset.1 traced first) later

theorem Traced.delivered {state : Copying Name Content} (traced : Traced file dir jobs state)
    {place : List Name} {content : Content} (arrives : Arrives state place .file)
    (free : ¬ Standing dir jobs place)
    (unique : ∀ other, Reached file dir jobs place other → other = content) :
    state.tree.get place = some (.file content) := by
  obtain ⟨path, member, where'⟩ := arrives
  obtain ⟨found, here, reached⟩ := traced.written path member
  rcases where' with rfl | ⟨name, rfl⟩
  · rw [here, unique found reached]
  · -- whatever is below the place makes a directory of it
    have there := (state.tree.kind_file_iff _).mpr ⟨found, here⟩
    have above := state.tree.kind_above place (List.cons_ne_nil name []) (by simp [there])
    exact absurd (traced.dirs place above) free

end Reaching

section Apart

omit [DecidableEq Name]

variable (file : List Name → Content → Prop) (dir : List Name → Prop) (jobs : List (Job Name))

/-- Where a file that is there is to come to. -/
def Aimed (path : List Name) (content : Content) : Prop :=
  ∃ job ∈ jobs, ∃ rest, path = job.target ++ rest ∧ file (job.source ++ rest) content

/-- The directories that are there, and those that take the place of one. -/
def Taken (path : List Name) : Prop :=
  dir path ∨ ∃ job ∈ jobs, ∃ rest, path = job.target ++ rest ∧ dir (job.source ++ rest)

/-- Nothing is copied into what is copied. -/
def Apart : Prop :=
  ∀ job ∈ jobs, ∀ other ∈ jobs, ∀ rest more, job.source ++ rest ≠ other.target ++ more

variable {file} {dir} {jobs}

theorem Aimed.reached {path : List Name} {content : Content}
    (aimed : Aimed file jobs path content) : Reached file dir jobs path content := by
  obtain ⟨job, member, rest, rfl, there⟩ := aimed
  exact .given job member rest content there

theorem taken_of_standing (apart : Apart jobs) {path : List Name}
    (standing : Standing dir jobs path) : Taken dir jobs path := by
  rcases standing with there | made
  · exact .inl there
  · right
    induction made with
    | given job member rest there => exact ⟨job, member, rest, rfl, there⟩
    | again job member rest _ ih =>
        obtain ⟨other, among, more, same, _⟩ := ih
        exact absurd same (apart job member other among rest more)

theorem aimed_of_reached (apart : Apart jobs) {path : List Name} {content : Content}
    (reached : Reached file dir jobs path content) :
    ∃ place rest, Aimed file jobs place content ∧ path = place ++ rest ∧
        (rest = [] ∨ Taken dir jobs place) := by
  induction reached with
  | given job member rest content there =>
      exact ⟨_, [], ⟨job, member, rest, rfl, there⟩, by simp, .inl rfl⟩
  | again job member rest content _ ih =>
      obtain ⟨_, more, ⟨other, among, further, rfl, _⟩, same, _⟩ := ih
      rw [List.append_assoc] at same
      exact absurd same (apart job member other among rest _)
  | into path name content _ standing ih =>
      obtain ⟨place, rest, aimed, rfl, into⟩ := ih
      refine ⟨place, rest ++ [name], aimed, by rw [List.append_assoc], .inr ?_⟩
      rcases into with rfl | taken
      · rw [List.append_nil] at standing
        exact taken_of_standing apart standing
      · exact taken

end Apart

end Dockermock.Library
