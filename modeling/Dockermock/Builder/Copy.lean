import Dockermock.Library.TreeCopy

/-!
The COPY instruction of an image builder. cmd_COPY makes the destination as a
directory before it looks at what is to be copied there, and takes nothing but
slashes off the path that it puts behind the image root.
-/

namespace Dockermock.Builder

open Library

variable {Content : Type}

def startsWithSlash (path : String) : Prop := path.toList.head? = some '/'

def endsWithSlash (path : String) : Prop := path.toList.getLast? = some '/'

instance (path : String) : Decidable (startsWithSlash path) := inferInstanceAs (Decidable (_ = _))

instance (path : String) : Decidable (endsWithSlash path) := inferInstanceAs (Decidable (_ = _))

/-- The process that builds: how it takes an instruction apart, what it may make and write, how
directories are listed to it, and how deep calls may go. -/
structure Process (Content : Type) where
  split : String → Option (List String)
  accepts : List String → Bool
  scan : Scan String Content
  depth : Nat

structure MiniImageBuilder (Content : Type) where
  rootfs : String
  workingDir : String
  cwd : List String
  tree : FileTree String Content
  -- both are done by the constructor
  absolute : startsWithSlash rootfs
  made : tree.kind (resolve rootfs) = some .dir

section Paths

def start (cwd : List String) (path : String) : List String :=
  if startsWithSlash path then [] else cwd

/-- Where a path leads from a directory. -/
def place (cwd : List String) (path : String) : List String := walk (start cwd path) (segments path)

/-- What is at the end of a path, as `os.path.exists` and `os.path.isdir` ask for it. -/
def lookup (tree : FileTree String Content) (cwd : List String) (path : String) :
    Option (FileNode Content) :=
  if path ≠ "" ∧
      ∀ dir ∈ (start cwd path :: visited (start cwd path) (segments path)).dropLast,
          tree.kind dir = some .dir then
    match tree.get (place cwd path) with
    | some (.file content) => if NamesDirectory path then none else some (.file content)
    | node => node
  else none

end Paths

section Command

variable (process : Process Content) (builder : MiniImageBuilder Content)

def absPath (path : String) : String :=
  joinPath builder.rootfs (String.ofList (path.toList.dropWhile (· = '/')))

def destination (dst : String) : String :=
  if startsWithSlash dst then dst else joinPath builder.workingDir dst

def dstRoot (dst : String) : String := absPath builder (destination builder dst)

/-- The final destination of a source. -/
def dstPath (dst src : String) : String :=
  if endsWithSlash (destination builder dst) then joinPath (dstRoot builder dst) (basename src)
  else dstRoot builder dst

/-- `os.makedirs(path, exist_ok=True)` of an absolute path -/
def makedirs (path : String) (tree : FileTree String Content) : Option (FileTree String Content) :=
  tree.makedirs process.accepts [] (segments path)

def copySource (dst src : String) (state : Copying String Content) :
    Option (Copying String Content) :=
  let path := dstPath builder dst src
  match lookup state.tree builder.cwd src with
  | none => none
  | some .dir =>
      let names := process.scan.list state.tree (place builder.cwd src)
      (makedirs process path state.tree).bind fun tree =>
        copyEntries process.accepts (copyTree process.accepts process.scan process.depth)
          (place builder.cwd src) (resolve path) names ⟨tree, state.written⟩
  | some (.file _) =>
      (makedirs process (dirname path) state.tree).bind fun tree =>
        -- a path that names a directory is not opened for writing
        if NamesDirectory path ∧ tree.kind (resolve path) ≠ some .dir then none
        else copyFile process.accepts (place builder.cwd src) (basename src) (resolve path)
          ⟨tree, state.written⟩

def copySources (dst : String) :
    List String → Copying String Content → Option (Copying String Content)
  | [], state => some state
  | src :: rest, state => (copySource process builder dst src state).bind (copySources dst rest)

/-- cmd_COPY; nothing where it raises -/
def cmdCopy (args : String) : Option (Copying String Content) :=
  (process.split args).bind fun parts =>
    if parts.length < 2 then none
    else
      let srcs := parts.dropLast
      let dst := parts.getLast?.getD ""
      if 1 < srcs.length ∧ ¬ endsWithSlash (destination builder dst) then none
      else (makedirs process (dstRoot builder dst) builder.tree).bind fun tree =>
        copySources process builder dst srcs ⟨tree, []⟩

end Command

section Jobs

variable {process : Process Content} {builder : MiniImageBuilder Content}

/-- What the loop does for a source, once the destination is there. -/
def job (builder : MiniImageBuilder Content) (dst src : String) : Job String :=
  ⟨place builder.cwd src, basename src, resolve (dstPath builder dst src)⟩

theorem lookup_get {tree : FileTree String Content} {cwd : List String} {path : String}
    {node : FileNode Content} (found : lookup tree cwd path = some node) :
    tree.get (place cwd path) = some node := by
  unfold lookup at found
  split at found
  · split at found
    · rename_i content there
      split_ifs at found
      exact there.trans found
    · exact found
  · cases found

theorem dstRoot_nonempty (dst : String) : dstRoot builder dst ≠ "" := by
  have some' : builder.rootfs ≠ "" := by
    intro empty
    have absolute := builder.absolute
    rw [startsWithSlash, empty] at absolute
    cases absolute
  have relative :
      (String.ofList ((destination builder dst).toList.dropWhile (· = '/'))).toList.head? ≠
          some '/' := by
    intro first
    have stop := List.head?_dropWhile_not (· = '/') (destination builder dst).toList
    rw [String.toList_ofList] at first
    rw [first] at stop
    simp at stop
  obtain ⟨front, _, whole⟩ := toList_joinPath some' relative
  intro empty
  rw [dstRoot, absPath] at empty
  rw [empty] at whole
  simp at whole

def onTheWay (builder : MiniImageBuilder Content) (dst : String) : List (List String) :=
  [] :: visited [] (segments (dstRoot builder dst))

theorem segments_dstPath (dst src : String) : ∃ tail, segments (dstPath builder dst src) =
    segments (dstRoot builder dst) ++ tail ∧ (tail = [] ∨ ∃ segment, tail = [segment]) := by
  rw [dstPath]
  split_ifs with ended
  · have free := basename_free src
    have relative : (basename src).toList.head? ≠ some '/' :=
      fun first => free (List.mem_of_mem_head? first)
    exact ⟨_, segments_joinPath (dstRoot_nonempty dst) relative, segments_free free⟩
  · exact ⟨[], by rw [List.append_nil], .inl rfl⟩

theorem visited_dirname (dst src : String) :
    visited [] (segments (dirname (dstPath builder dst src))) ⊆
        visited [] (segments (dstRoot builder dst)) := by
  have cut := segments_dirname (dstPath builder dst src)
  by_cases ended : endsWithSlash (destination builder dst)
  · have path : dstPath builder dst src = joinPath (dstRoot builder dst) (basename src) :=
      if_pos ended
    have free := basename_free src
    have relative : (basename src).toList.head? ≠ some '/' :=
      fun first => free (List.mem_of_mem_head? first)
    rw [path, basename_joinPath (dstRoot_nonempty dst) free,
      segments_joinPath (dstRoot_nonempty dst) relative] at cut
    rw [path, ← List.append_cancel_right cut]
    exact fun _ member => member
  · have path : dstPath builder dst src = dstRoot builder dst := if_neg ended
    rw [path] at cut ⊢
    conv_rhs => rw [cut, visited_append]
    exact List.subset_append_left _ _

theorem makedirs_dstPath {dst : String} (src : String) {tree : FileTree String Content}
    (standing : ∀ dir ∈ onTheWay builder dst, tree.kind dir = some .dir) :
    makedirs process (dstPath builder dst src) tree =
      tree.mkdir process.accepts (resolve (dstPath builder dst src)) := by
  obtain ⟨tail, whole, short⟩ := @segments_dstPath _ builder dst src
  rw [onTheWay] at standing
  have last := standing _ (walk_mem [] (segments (dstRoot builder dst)))
  rw [makedirs, resolve, whole]
  generalize segments (dstRoot builder dst) = front at standing last ⊢
  rw [FileTree.makedirs_append tail standing, walk_append]
  rcases short with rfl | ⟨segment, rfl⟩
  · exact (if_pos last).trans (if_pos last).symm
  · exact FileTree.makedirs_single segment last

theorem makedirs_dirname {dst : String} (src : String) {tree : FileTree String Content}
    (standing : ∀ dir ∈ onTheWay builder dst, tree.kind dir = some .dir) :
    makedirs process (dirname (dstPath builder dst src)) tree = some tree := by
  rw [onTheWay, List.forall_mem_cons] at standing
  apply FileTree.makedirs_standing
  exact List.forall_mem_cons.mpr
    ⟨standing.1, fun dir member => standing.2 dir (visited_dirname dst src member)⟩

theorem copySource_job {dst src : String} {before after : Copying String Content}
    (standing : ∀ dir ∈ onTheWay builder dst, before.tree.kind dir = some .dir)
    (copied : copySource process builder dst src before = some after) :
    runJob process.accepts process.scan (process.depth + 1) (job builder dst src) before =
        some after := by
  unfold copySource at copied
  dsimp only at copied
  split at copied
  · cases copied
  · rename_i found
    have dir := (before.tree.kind_dir_iff _).mpr (lookup_get found)
    rw [makedirs_dstPath src standing] at copied
    rw [job, runJob, dir]
    dsimp only
    rw [copyTree]
    exact copied
  · rename_i content found
    have file := (before.tree.kind_file_iff _).mpr ⟨content, lookup_get found⟩
    rw [makedirs_dirname src standing, Option.bind_some] at copied
    split_ifs at copied
    rw [job, runJob, file]
    dsimp only
    exact copied

theorem copySources_jobs {dst : String} {srcs : List String} {before after : Copying String Content}
    (standing : ∀ dir ∈ onTheWay builder dst, before.tree.kind dir = some .dir)
    (copied : copySources process builder dst srcs before = some after) :
    runJobs process.accepts process.scan (process.depth + 1) (srcs.map (job builder dst)) before =
        some after := by
  induction srcs generalizing before with
  | nil => exact copied
  | cons src rest ih =>
      rw [copySources] at copied
      obtain ⟨next, first, later⟩ := Option.bind_eq_some_iff.mp copied
      have ran := copySource_job standing first
      rw [List.map_cons, runJobs, ran, Option.bind_some]
      exact ih
        (fun dir member => (runJob_brings ran).later.grows dir .dir (standing dir member)) later

/-- A command that comes to its end has made the destination, and then done one job for each source.
-/
theorem cmdCopy_jobs {args : String} {srcs : List String} {dst : String}
    {outcome : Copying String Content} (parsed : process.split args = some (srcs ++ [dst]))
    (completes : cmdCopy process builder args = some outcome) :
    ∃ tree, makedirs process (dstRoot builder dst) builder.tree = some tree ∧
      runJobs process.accepts process.scan (process.depth + 1)
        (srcs.map (job builder dst)) ⟨tree, []⟩ = some outcome := by
  rw [cmdCopy, parsed, Option.bind_some] at completes
  split_ifs at completes
  simp only [List.dropLast_concat, List.getLast?_concat, Option.getD_some] at completes
  split_ifs at completes
  obtain ⟨tree, made, copied⟩ := Option.bind_eq_some_iff.mp completes
  exact ⟨tree, made, copySources_jobs (FileTree.makedirs_effect made).1 copied⟩

end Jobs

section Delivery

variable (process : Process Content) (builder : MiniImageBuilder Content) (srcs : List String)
  (dst : String)

def jobs : List (Job String) := srcs.map (job builder dst)

def fileThere (path : List String) (content : Content) : Prop :=
  builder.tree.get path = some (.file content)

/-- The directories in front of the loop, those on the way to the destination among them. -/
def dirThere (path : List String) : Prop :=
  builder.tree.kind path = some .dir ∨ path ∈ onTheWay builder dst

def Renames : Prop :=
  ∃ src content, srcs = [src] ∧
      lookup builder.tree builder.cwd src = some (.file content) ∧
  ¬ endsWithSlash dst ∧ lookup builder.tree builder.cwd (dstRoot builder dst) = none

structure Delivers (outcome : Copying String Content) : Prop where
  inside : ∀ path ∈ outcome.written, resolve builder.rootfs <+: path
  renamed : ∀ src content, srcs = [src] →
    lookup builder.tree builder.cwd src = some (.file content) →
    ¬ endsWithSlash dst → lookup builder.tree builder.cwd (dstRoot builder dst) = none →
    outcome.tree.get (resolve (dstRoot builder dst)) = some (.file content)
  below : endsWithSlash dst → ∀ src ∈ srcs, ∀ rest node,
    builder.tree.get (place builder.cwd src ++ rest) = some node →
    outcome.tree.get (resolve (joinPath (dstRoot builder dst) (basename src)) ++ rest) = some node

/-- Nothing is in the way, for files that are placed where `placed` says and the directories that
are there or are made. -/
structure Clear (placed : List String → Content → Prop) (standing : List String → Prop) : Prop where
  inside : ∀ path content, placed path content → resolve builder.rootfs <+: path
  notRenamed : ¬ Renames builder srcs dst
  free : endsWithSlash dst → ∀ path content, placed path content → ¬ standing path
  single : endsWithSlash dst → ∀ path left right, placed path left →
    placed path right → left = right

/-- Wherever a copy may come to, also one of what has been copied. -/
def AllClear : Prop :=
  Clear builder srcs dst
    (Reached (fileThere builder) (dirThere builder dst) (jobs builder srcs dst))
    (Standing (dirThere builder dst) (jobs builder srcs dst))

def FirstClear : Prop :=
  Clear builder srcs dst (Aimed (fileThere builder) (jobs builder srcs dst))
    (Taken (dirThere builder dst) (jobs builder srcs dst))

variable {process} {builder} {srcs} {dst} {outcome : Copying String Content}

theorem allClear_of_apart (apart : Apart (jobs builder srcs dst))
    (clear : FirstClear builder srcs dst) : AllClear builder srcs dst := by
  -- with nothing in the way, a file comes to its own place only
  have own : endsWithSlash dst → ∀ path content,
      Reached (fileThere builder) (dirThere builder dst) (jobs builder srcs dst) path content →
      Aimed (fileThere builder) (jobs builder srcs dst) path content := by
    intro ended path content reached
    obtain ⟨place, rest, aimed, rfl, into⟩ := aimed_of_reached apart reached
    rcases into with rfl | taken
    · rwa [List.append_nil]
    · exact absurd taken (clear.free ended place content aimed)
  constructor
  · intro path content reached
    obtain ⟨place, rest, aimed, rfl, _⟩ := aimed_of_reached apart reached
    exact (clear.inside place content aimed).trans (List.prefix_append place rest)
  · exact clear.notRenamed
  · intro ended path content reached standing
    exact clear.free ended path content (own ended path content reached)
      (taken_of_standing apart standing)
  · intro ended path left right first second
    exact clear.single ended path left right (own ended path left first)
      (own ended path right second)

theorem destination_ended (ended : endsWithSlash dst) :
    endsWithSlash (destination builder dst) := by
  rw [destination]
  split_ifs with absolute
  · exact ended
  · rw [joinPath, if_neg (show ¬ dst.toList.head? = some '/' from absolute)]
    unfold endsWithSlash at ended ⊢
    split_ifs
    · rw [String.toList_append, List.getLast?_append, ended]
      rfl
    · rw [String.toList_append, List.getLast?_append, ended]
      rfl

theorem target_of_ended (ended : endsWithSlash dst) (src : String) :
    (job builder dst src).target = resolve (joinPath (dstRoot builder dst) (basename src)) := by
  rw [job, dstPath, if_pos (destination_ended ended)]

structure Completed (builder : MiniImageBuilder Content) (srcs : List String) (dst : String)
    (outcome : Copying String Content) : Prop where
  traced : Traced (fileThere builder) (dirThere builder dst) (jobs builder srcs dst) outcome
  dirs : ∀ path, dirThere builder dst path → outcome.tree.kind path = some .dir
  arrives : ∀ job ∈ jobs builder srcs dst, ∀ rest,
    (∀ content, fileThere builder (job.source ++ rest) content →
      Arrives outcome (job.target ++ rest) .file) ∧ (dirThere builder dst (job.source ++ rest) →
        outcome.tree.kind (job.target ++ rest) = some .dir)

theorem cmdCopy_completed {args : String} (parsed : process.split args = some (srcs ++ [dst]))
    (completes : cmdCopy process builder args = some outcome) :
    Completed builder srcs dst outcome := by
  obtain ⟨tree, made, ran⟩ := cmdCopy_jobs parsed completes
  obtain ⟨way, effect⟩ := FileTree.makedirs_effect made
  have grown : builder.tree.Grows tree :=
    FileTree.grows_of_new fun other => (effect other).imp_right And.left
  obtain ⟨extends', bring⟩ := runJobs_brings ran
  have there : ∀ path, dirThere builder dst path → tree.kind path = some .dir :=
    fun path dir => dir.elim (grown path .dir) (way path)
  constructor
  · refine runJobs_traced (fun _ member => member)
      (traced_start (fun path content file => ?_) fun path dir => ?_) ran
    · rcases effect path with same | ⟨_, new, _⟩
      · exact same.symm.trans file
      · cases new.symm.trans file
    · rcases effect path with same | ⟨_, _, among⟩
      · exact .inl (by rwa [FileTree.kind_congr same] at dir)
      · exact .inr (List.mem_cons_of_mem _ among)
  · exact fun path dir => extends'.grows path .dir (there path dir)
  · intro job member rest
    have brought := (bring job member).arrives rest
    refine ⟨fun content file => brought .file ?_, fun dir => brought .dir (there _ dir)⟩
    exact grown _ _ ((builder.tree.kind_file_iff _).mpr ⟨content, file⟩)

theorem Completed.delivers (completed : Completed builder srcs dst outcome)
    (clear : AllClear builder srcs dst) : Delivers builder srcs dst outcome := by
  constructor
  · intro path member
    obtain ⟨content, _, reached⟩ := completed.traced.written path member
    exact clear.inside path content reached
  · intro src content single file named absent
    exact absurd ⟨src, content, single, file, named, absent⟩ clear.notRenamed
  · intro ended src member rest node there
    rw [← target_of_ended ended src]
    have among : job builder dst src ∈ jobs builder srcs dst := List.mem_map_of_mem member
    obtain ⟨file, dir⟩ := completed.arrives _ among rest
    cases node with
    | dir =>
        exact (outcome.tree.kind_dir_iff _).mp
          (dir (.inl ((builder.tree.kind_dir_iff _).mpr there)))
    | file content =>
        have reached : Reached (fileThere builder) (dirThere builder dst) (jobs builder srcs dst)
            ((job builder dst src).target ++ rest) content := .given _ among rest content there
        exact completed.traced.delivered (file content there) (clear.free ended _ content reached)
          fun other also => clear.single ended _ other content also reached

theorem Completed.clear (completed : Completed builder srcs dst outcome)
    (delivers : Delivers builder srcs dst outcome) : FirstClear builder srcs dst := by
  -- where dst ends in a slash, a file that is there is found at its place
  have found : endsWithSlash dst → ∀ path content,
    Aimed (fileThere builder) (jobs builder srcs dst) path content →
      outcome.tree.get path = some (.file content) := by
    rintro ended path content ⟨_, member, rest, rfl, there⟩
    obtain ⟨src, among, rfl⟩ := List.mem_map.mp member
    rw [target_of_ended ended src]
    exact delivers.below ended src among rest _ there
  constructor
  · rintro path content ⟨job, member, rest, rfl, there⟩
    obtain ⟨written, among, where'⟩ := (completed.arrives job member rest).1 content there
    have inside := delivers.inside written among
    rcases where' with rfl | ⟨name, rfl⟩
    · exact inside
    · refine (List.prefix_concat_iff.mp inside).resolve_left fun same => ?_
      -- the root is a directory, and what is written is not
      obtain ⟨other, file, _⟩ := completed.traced.written _ among
      have dir := completed.dirs _ (.inl builder.made)
      rw [same, outcome.tree.kind_dir_iff, file] at dir
      cases dir
  · rintro ⟨src, content, single, file, named, absent⟩
    have dir := completed.dirs _ (.inr (walk_mem [] (segments (dstRoot builder dst))))
    have renamed := delivers.renamed src content single file named absent
    rw [outcome.tree.kind_dir_iff] at dir
    cases dir.symm.trans renamed
  · intro ended path content aimed taken
    have dir : outcome.tree.kind path = some .dir := by
      rcases taken with there | ⟨job, member, rest, rfl, there⟩
      · exact completed.dirs path there
      · exact (completed.arrives job member rest).2 there
    rw [outcome.tree.kind_dir_iff, found ended path content aimed] at dir
    cases dir
  · intro ended path left right first second
    have same := (found ended path left first).symm.trans (found ended path right second)
    cases same
    rfl

/-- Where nothing is in the way of any copy, COPY does what it should; it does so only where nothing
is in the way of the files that are there; and the two are one where nothing is copied into a
source. -/
theorem cmdCopy_delivers (process : Process Content) (builder : MiniImageBuilder Content)
    (args : String) (srcs : List String) (dst : String) (outcome : Copying String Content)
    (parsed : process.split args = some (srcs ++ [dst]))
    (completes : cmdCopy process builder args = some outcome) :
    (AllClear builder srcs dst → Delivers builder srcs dst outcome) ∧
      (Delivers builder srcs dst outcome → FirstClear builder srcs dst) ∧
      (Apart (jobs builder srcs dst) → FirstClear builder srcs dst →
          AllClear builder srcs dst) := by
  have completed := cmdCopy_completed parsed completes
  exact ⟨completed.delivers, completed.clear, allClear_of_apart⟩

end Delivery

section Instances

def plainProcess : Process String where
  split := fun args => some ((args.toList.splitOn ' ').map String.ofList)
  accepts := fun _ => true
  scan := .ordered
  depth := 10

def sampleTree : FileTree String String :=
  (((FileTree.empty.mkdir (fun _ => true) ["image"]).bind fun tree =>
    tree.mkdir (fun _ => true) ["image", "etc"]).bind fun tree =>
    tree.write (fun _ => true) ["app.conf"] "port=80").getD .empty

theorem sampleTree_made : sampleTree.kind (resolve "/image") = some .dir := by decide +kernel

def sampleBuilder : MiniImageBuilder String := ⟨"/image", "/", [], sampleTree, rfl, sampleTree_made⟩

theorem sample_jobs : jobs sampleBuilder ["app.conf"] "/etc/" =
    [⟨["app.conf"], "app.conf", ["image", "etc", "app.conf"]⟩] := by decide +kernel

theorem sample_file {rest : List String} {content : String}
    (there : fileThere sampleBuilder (["app.conf"] ++ rest) content) : rest = [] := by
  by_contra further
  have file : sampleTree.kind ["app.conf"] = some .file := by decide +kernel
  have below := (sampleTree.kind_file_iff _).mpr ⟨content, there⟩
  cases file.symm.trans (sampleTree.kind_above ["app.conf"] further (by rw [below]; simp))

theorem sample_free : ¬ dirThere sampleBuilder "/etc/" ["app.conf"] ∧
    ¬ dirThere sampleBuilder "/etc/" ["image", "etc", "app.conf"] := by
  constructor
  · rintro (dir | way)
    · exact absurd dir (by decide +kernel)
    · exact absurd way (by decide +kernel)
  · rintro (dir | way)
    · exact absurd dir (by decide +kernel)
    · exact absurd way (by decide +kernel)

/-- A file that is there comes to its place in /etc. -/
theorem cmdCopy_delivers_config :
    ∃ outcome, cmdCopy plainProcess sampleBuilder "app.conf /etc/" = some outcome ∧
    Delivers sampleBuilder ["app.conf"] "/etc/" outcome := by
  obtain ⟨outcome, completes⟩ : ∃ outcome,
      cmdCopy plainProcess sampleBuilder "app.conf /etc/" = some outcome :=
    Option.isSome_iff_exists.mp (by decide +kernel)
  refine ⟨outcome, completes, ?_⟩
  obtain ⟨enough, _, whole⟩ :=
    cmdCopy_delivers plainProcess sampleBuilder "app.conf /etc/" ["app.conf"] "/etc/"
    outcome (by decide +kernel) completes
  rw [sample_jobs] at whole
  have placed : ∀ path content,
      Aimed (fileThere sampleBuilder) (jobs sampleBuilder ["app.conf"] "/etc/") path content →
      path = ["image", "etc", "app.conf"] ∧ sampleTree.get ["app.conf"] = some (.file content) := by
    rw [sample_jobs]
    rintro path content ⟨job, member, rest, rfl, there⟩
    cases List.mem_singleton.mp member
    cases sample_file there
    exact ⟨rfl, there⟩
  refine enough
    (whole (fun job member other among rest more => ?_) ⟨fun path content aimed => ?_, ?_, ?_, ?_⟩)
  · cases List.mem_singleton.mp member
    cases List.mem_singleton.mp among
    simp
  · rw [(placed path content aimed).1]
    decide +kernel
  · rintro ⟨_, _, _, _, named, _⟩
    exact named (by decide)
  · rintro _ path content aimed taken
    rw [(placed path content aimed).1, Taken, sample_jobs] at taken
    rcases taken with there | ⟨job, member, rest, same, there⟩
    · exact sample_free.2 there
    · cases List.mem_singleton.mp member
      have whole : rest = [] := by simpa using same
      rw [whole] at there
      exact sample_free.1 there
  · rintro _ path left right first second
    have same := (placed path left first).2.symm.trans (placed path right second).2
    cases same
    rfl

/-- A file under a new name ends up in a directory of that name. -/
theorem renamed_into_directory :
    ((cmdCopy plainProcess sampleBuilder "app.conf /port.conf").bind fun outcome =>
      outcome.tree.kind ["image", "port.conf"]) = some .dir ∧
    ¬ ∀ (process : Process String) builder args srcs dst outcome,
      process.split args = some (srcs ++ [dst]) →
      cmdCopy process builder args = some outcome → Delivers builder srcs dst outcome := by
  have made : ((cmdCopy plainProcess sampleBuilder "app.conf /port.conf").bind fun outcome =>
      outcome.tree.kind ["image", "port.conf"]) = some .dir := by decide +kernel
  refine ⟨made, fun claimed => ?_⟩
  obtain ⟨outcome, completes, dir⟩ := Option.bind_eq_some_iff.mp made
  have delivers :=
    claimed plainProcess sampleBuilder "app.conf /port.conf" ["app.conf"] "/port.conf" outcome
    (by decide +kernel) completes
  have renamed :=
    delivers.renamed "app.conf" "port=80" rfl (by decide +kernel) (by decide) (by decide +kernel)
  have target : resolve (dstRoot sampleBuilder "/port.conf") = ["image", "port.conf"] := by
    decide +kernel
  rw [outcome.tree.kind_dir_iff, ← target, renamed] at dir
  cases dir

end Instances

end Dockermock.Builder
