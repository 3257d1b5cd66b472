import Dockermock.Library.History
import Dockermock.Builder.Copy
import Dockermock.Builder.Dockerfile

/-!
A whole build: the instructions of a Dockerfile, carried out one after another on
the image tree and on the JSON of the image, which is saved after each of them. A
build that comes to its end leaves the image that the instructions since the last
FROM say.
-/

namespace Dockermock.Builder

open Library

variable {Content : Type}

section Code

inductive Json where
  | null
  | text (text : String)
  | list (values : List Json)
  | object (fields : List (String × Json))
  | other (literal : String)

abbrev Image := List (String × Json)

def setdefault (key : String) (value : Json) (image : Image) : Image :=
  if (image.lookup key).isSome then image else assign key value image

/-- What a build has around it: the answers of the server to GET /api/images, shells in the tree
(what one leaves there, and whether it exits with 0), how JSON is written, and `str.upper`. -/
structure Outside (Content : Type) where
  process : Process Content
  upper : String → String
  getImage : String → Option Image
  run : List String → FileTree String Content → String → FileTree String Content × Bool
  dump : Image → Content
  -- a shell does not get at the root that it was changed to
  stays : ∀ root tree command, tree.kind root = some .dir →
    (run root tree command).1.kind root = some .dir

structure Build (Content : Type) where
  rootfs : String
  cwd : List String
  image : Image
  tree : FileTree String Content
  absolute : startsWithSlash rootfs
  made : tree.kind (resolve rootfs) = some .dir

def emptyImage : Image := [("env", .object []), ("workingDir", .text "/"), ("cmd", .null)]

def splitEquals (pair : String) : Option (String × String) :=
  match pair.toList.dropWhile (· ≠ '=') with
  | [] => none
  | _ :: value => some (String.ofList (pair.toList.takeWhile (· ≠ '=')), String.ofList value)

def setEnv : List String → Image → Option Image
  | [], image => some image
  | pair :: rest, image =>
      match splitEquals pair, image.lookup "env" with
      | some (key, value), some (.object fields) =>
          setEnv rest (assign "env" (.object (assign key (.text value) fields)) image)
      | _, _ => none

def fromImage (image : Image) : Image :=
  setdefault "entrypoint" .null (setdefault "cmd" .null (setdefault "workingDir" (.text "/")
    (setdefault "env" (.object []) image)))

namespace Build

def withImage (build : Build Content) (image : Image) : Build Content :=
  { build with image := image }

def inDir (build : Build Content) (dir : String) : MiniImageBuilder Content where
  rootfs := build.rootfs
  workingDir := dir
  cwd := build.cwd
  tree := build.tree
  absolute := build.absolute
  made := build.made

def workingDir (build : Build Content) : Option String :=
  match build.image.lookup "workingDir" with
  | some (.text dir) => some dir
  | _ => none

def absPath (build : Build Content) (path : String) : String :=
  Builder.absPath (build.inDir "") path

def metaFile (build : Build Content) : String := joinPath build.rootfs "image.json"

end Build

variable (outside : Outside Content)

theorem makedirs_made (build : Build Content) {path : String} {tree : FileTree String Content}
    (done : makedirs outside.process path build.tree = some tree) :
    tree.kind (resolve build.rootfs) = some .dir :=
  FileTree.grows_of_new (fun other => ((FileTree.makedirs_effect done).2 other).imp_right And.left)
    _ _ build.made

theorem cmdCopy_made (build : Build Content) {dir args : String} {copied : Copying String Content}
    (done : cmdCopy outside.process (build.inDir dir) args = some copied) :
    copied.tree.kind (resolve build.rootfs) = some .dir := by
  cases parsed : outside.process.split args with
  | none =>
      rw [cmdCopy, parsed] at done
      cases done
  | some parts =>
      have long : parts ≠ [] := by
        rintro rfl
        rw [cmdCopy, parsed] at done
        cases done
      rw [← List.dropLast_append_getLast long] at parsed
      rcases cmdCopy_jobs parsed done with ⟨tree, first, jobs⟩
      exact (runJobs_brings jobs).1.grows _ _ (makedirs_made outside build first)

/-- cmd_COPY asks for the working directory only where the destination is relative. -/
def copy (build : Build Content) (args : String) : Option (Build Content) :=
  let relative := (outside.process.split args).any fun parts =>
    ¬ startsWithSlash (parts.getLast?.getD "")
  match build.workingDir, relative with
  | none, true => none
  | dir, _ =>
      match done : cmdCopy outside.process (build.inDir (dir.getD "")) args with
      | none => none
      | some copied =>
          some { build with tree := copied.tree, made := cmdCopy_made outside build done }

def workdir (build : Build Content) (path : String) : Option (Build Content) :=
  match done : makedirs outside.process (build.absPath path) build.tree with
  | none => none
  | some tree =>
      some { build with
        image := assign "workingDir" (.text path) build.image
        tree := tree
        made := makedirs_made outside build done }

/-- cmd_RUN, and whether `check=True` lets it pass -/
def run (build : Build Content) (command : String) : Build Content × Bool :=
  let ran := outside.run (resolve build.rootfs) build.tree command
  ({ build with tree := ran.1, made := outside.stays _ _ command build.made }, ran.2)

def saveMetadata (build : Build Content) : Option (Build Content) :=
  match done : build.tree.write outside.process.accepts (resolve build.metaFile)
      (outside.dump build.image) with
  | none => none
  | some tree => some { build with tree := tree, made := FileTree.write_grows done _ _ build.made }

/-- The handler of an instruction; one that is not known does nothing. -/
def handle (build : Build Content) (instruction args : String) : Option (Build Content) :=
  match instruction with
  | "COPY" => copy outside build args
  | "FROM" => (outside.getImage args).map fun image => build.withImage (fromImage image)
  | "ENV" => (outside.process.split args).bind fun pairs =>
      (setEnv pairs build.image).map build.withImage
  | "WORKDIR" => workdir outside build args
  | "RUN" => let (after, passed) := run outside build args; if passed then some after else none
  | "CMD" => (outside.process.split args).map fun words =>
      build.withImage (assign "command" (.list (words.map .text)) build.image)
  | "ENTRYPOINT" => some (build.withImage (assign "entrypoint" (.text args) build.image))
  | _ => some build

def execute (build : Build Content) (step : String × String) : Option (Build Content) :=
  (handle outside build step.1 step.2).bind (saveMetadata outside)

def executeAll : List (String × String) → Build Content → Option (Build Content)
  | [], build => some build
  | step :: rest, build => (execute outside build step).bind (executeAll rest)

/-- The two commands of the `finally` clause; the second is not run where the first one fails. -/
def clean (build : Build Content) : Build Content :=
  let (first, passed) := run outside build "rm -rf /tmp/*"
  if passed then
    (run outside first
      "ASSUME_ALWAYS_YES=true rm -rf /var/cache/pkg/* ; rm -rf /var/db/pkg/repos/*").1
  else first

def parseDockerfile (build : Build Content) (text : String) : Option (Build Content) :=
  (executeAll outside (instructions outside.upper text) build).map (clean outside)

/-- `args.tag.split(":", 1)`, or else the tag 'latest' -/
def nameAndTag (tag : String) : String × String :=
  match tag.toList.dropWhile (· ≠ ':') with
  | [] => (tag, "latest")
  | _ :: rest => (String.ofList (tag.toList.takeWhile (· ≠ ':')), String.ofList rest)

/-- The script behind its arguments, up to the last save. -/
def buildImage (build : Build Content) (tag text : String) : Option (Build Content) :=
  (parseDockerfile outside build text).bind fun built =>
    let named := assign "name" (.text (nameAndTag tag).1) built.image
    saveMetadata outside (built.withImage (assign "tag" (.text (nameAndTag tag).2) named))

end Code

section Meaning

/-- What there is to set in the JSON of an image: a variable of the environment, or an entry other
than 'env'. -/
inductive Field where
  | env (key : String)
  | entry (key : String)
  deriving DecidableEq

def read (image : Image) : Field → Option Json
  | .env key =>
      match image.lookup "env" with
      | some (.object fields) => fields.lookup key
      | _ => none
  | .entry key => if key = "env" then none else image.lookup key

def envSetting (pair : String) : Option (Field × Json) :=
  (splitEquals pair).map fun parts => (.env parts.1, .text parts.2)

def settings (split : String → Option (List String)) (instruction args : String) :
    List (Field × Json) :=
  match instruction with
  | "ENV" => ((split args).getD []).filterMap envSetting
  | "WORKDIR" => [(.entry "workingDir", .text args)]
  | "CMD" => [(.entry "command", .list (((split args).getD []).map .text))]
  | "ENTRYPOINT" => [(.entry "entrypoint", .text args)]
  | _ => []

/-- The base of an image and what is set since, for the instructions of a file so far. -/
structure Stage where
  base : Image
  set : List (Field × Json)

def Stage.next (outside : Outside Content) (stage : Stage) (step : String × String) : Stage :=
  if step.1 = "FROM" then ⟨fromImage ((outside.getImage step.2).getD []), []⟩
  else { stage with set := stage.set ++ settings outside.process.split step.1 step.2 }

def stageOf (outside : Outside Content) (steps : List (String × String)) : Stage :=
  steps.foldl (Stage.next outside) ⟨emptyImage, []⟩

/-- The last setting of a field, or what the base has. -/
def Stage.reads (stage : Stage) (field : Field) : Option Json :=
  (latest stage.set field).or (read stage.base field)

def Follows (image : Image) (stage : Stage) : Prop := ∀ field, read image field = stage.reads field

theorem read_assign {key : String} (other : key ≠ "env") (value : Json) (image : Image)
    (field : Field) : read (assign key value image) field = if field = .entry key then some value
        else read image field := by
  cases field with
  | env name => simp [read, lookup_assign, Ne.symm other]
  | entry name =>
      by_cases same : name = key
      · subst same
        simp [read, lookup_assign, other]
      · simp [read, lookup_assign, same]

theorem read_assign_env (key : String) (value : Json) {fields : List (String × Json)}
    {image : Image} (held : image.lookup "env" = some (.object fields)) (field : Field) :
    read (assign "env" (.object (assign key value fields)) image) field =
      if field = .env key then some value else read image field := by
  cases field with
  | env name =>
      by_cases same : name = key
      · subst same
        simp [read, lookup_assign]
      · simp [read, lookup_assign, held, same]
  | entry name =>
      by_cases same : name = "env"
      · simp [read, same]
      · simp [read, lookup_assign, same]

theorem latest_append (first second : List (Field × Json)) (field : Field) :
    latest (first ++ second) field = (latest second field).or (latest first field) := by
  induction second using List.reverseRecOn with
  | nil => rw [List.append_nil, latest_nil, Option.none_or]
  | append_singleton second write ih =>
      obtain ⟨key, value⟩ := write
      rw [← List.append_assoc, latest_concat, latest_concat, ih]
      split <;> rfl

theorem Follows.set {image after : Image} {stage : Stage} (follows : Follows image stage)
    (more : List (Field × Json))
    (reads : ∀ field, read after field = (latest more field).or (read image field)) :
    Follows after { stage with set := stage.set ++ more } := by
  intro field
  rw [reads field, follows field, Stage.reads, Stage.reads, latest_append, Option.or_assoc]

theorem reads_one {after image : Image} {field : Field} {value : Json}
    (reads : ∀ probe, read after probe = if probe = field then some value else read image probe)
    (probe : Field) :
    read after probe = (latest [(field, value)] probe).or (read image probe) := by
  have one := latest_concat [] field probe value
  rw [List.nil_append] at one
  rw [reads probe, one]
  split <;> rfl

theorem setEnv_reads {pairs : List String} {image after : Image}
    (set : setEnv pairs image = some after) (field : Field) :
    read after field = (latest (pairs.filterMap envSetting) field).or (read image field) := by
  induction pairs generalizing image with
  | nil =>
      cases set
      rfl
  | cons pair rest ih =>
      rw [setEnv] at set
      split at set
      · rename_i key value fields parted held
        have here := reads_one (read_assign_env key (.text value) held) field
        have setting : envSetting pair = some (.env key, .text value) := by
          rw [envSetting, parted]; rfl
        have joined := latest_append [(.env key, .text value)] (rest.filterMap envSetting) field
        rw [List.singleton_append] at joined
        rw [ih set, here, List.filterMap_cons_some setting, joined, Option.or_assoc]
      · cases set

theorem copy_image (outside : Outside Content) {build after : Build Content} {args : String}
    (copied : copy outside build args = some after) : after.image = build.image := by
  unfold copy at copied
  dsimp only at copied
  split at copied
  · cases copied
  · split at copied
    · cases copied
    · cases copied
      rfl

theorem workdir_image (outside : Outside Content) {build after : Build Content} {path : String}
    (entered : workdir outside build path = some after) :
    after.image = assign "workingDir" (.text path) build.image := by
  unfold workdir at entered
  split at entered
  · cases entered
  · cases entered
    rfl

theorem saveMetadata_effect (outside : Outside Content) {build after : Build Content}
    (saved : saveMetadata outside build = some after) :
    after.image = build.image ∧
        after.tree.get (resolve after.metaFile) = some (.file (outside.dump after.image)) := by
  unfold saveMetadata at saved
  split at saved
  · cases saved
  · rename_i tree written
    cases saved
    exact ⟨rfl, ((FileTree.write_effect written).2 _).trans (if_pos rfl)⟩

theorem Stage.next_other (outside : Outside Content) (stage : Stage) {instruction args : String}
    (other : instruction ≠ "FROM") : stage.next outside (instruction, args) =
      { stage with set := stage.set ++ settings outside.process.split instruction args } :=
        if_neg other

/-- What a step that comes to its end does to the image, the tree apart. -/
theorem handle_follows (outside : Outside Content) {build after : Build Content}
    {instruction args : String} {stage : Stage} (follows : Follows build.image stage)
    (handled : handle outside build instruction args = some after) :
    Follows after.image (stage.next outside (instruction, args)) := by
  have kept : ∀ {image : Image}, image = build.image →
      Follows image { stage with set := stage.set ++ [] } := by
    rintro _ rfl
    rwa [List.append_nil]
  -- one case for each handler, in their order, and the last for an instruction without one
  unfold handle at handled
  split at handled
  · rw [Stage.next_other outside stage (by decide)]
    exact kept (copy_image outside handled)
  · rcases Option.map_eq_some_iff.mp handled with ⟨image, found, rfl⟩
    intro field
    rw [Stage.next, if_pos rfl, found, Stage.reads, latest_nil, Option.none_or]
    rfl
  · rcases Option.bind_eq_some_iff.mp handled with ⟨pairs, parted, mapped⟩
    rcases Option.map_eq_some_iff.mp mapped with ⟨image, set, rfl⟩
    rw [Stage.next_other outside stage (by decide)]
    refine follows.set _ fun field => ?_
    rw [settings, parted]
    exact setEnv_reads set field
  · rw [Stage.next_other outside stage (by decide)]
    refine follows.set _ fun field => ?_
    rw [workdir_image outside handled]
    exact reads_one (read_assign (by decide) _ _) field
  · rw [Stage.next_other outside stage (by decide)]
    dsimp only at handled
    split_ifs at handled
    cases handled
    exact kept rfl
  · rcases Option.map_eq_some_iff.mp handled with ⟨words, parted, rfl⟩
    rw [Stage.next_other outside stage (by decide)]
    refine follows.set _ fun field => ?_
    rw [settings, parted]
    exact reads_one (read_assign (by decide) _ _) field
  · cases handled
    rw [Stage.next_other outside stage (by decide)]
    exact follows.set _ (reads_one (read_assign (by decide) _ _))
  · rename_i notCopy notFrom notEnv notWorkdir notRun notCmd notEntrypoint
    cases handled
    rw [Stage.next_other outside stage notFrom]
    have nothing : settings outside.process.split instruction args = [] := by
      unfold settings
      split
      · exact absurd rfl notEnv
      · exact absurd rfl notWorkdir
      · exact absurd rfl notCmd
      · exact absurd rfl notEntrypoint
      · rfl
    rw [nothing]
    exact kept rfl

theorem executeAll_follows (outside : Outside Content) {steps : List (String × String)}
    {build after : Build Content} {stage : Stage} (follows : Follows build.image stage)
    (done : executeAll outside steps build = some after) :
    Follows after.image (steps.foldl (Stage.next outside) stage) := by
  induction steps generalizing build stage with
  | nil =>
      cases done
      exact follows
  | cons step rest ih =>
      rcases Option.bind_eq_some_iff.mp done with ⟨middle, executed, later⟩
      rcases Option.bind_eq_some_iff.mp executed with ⟨handled, first, saved⟩
      refine ih ?_ later
      rw [(saveMetadata_effect outside saved).1]
      exact handle_follows outside follows first

theorem clean_image (outside : Outside Content) (build : Build Content) :
    (clean outside build).image = build.image := by
  rw [clean]
  dsimp only
  split <;> rfl

/-- The image that a build leaves, in memory and in image.json, has in each field what was said
last since the last FROM, or else what that FROM found; the name and the tag are those asked for. -/
theorem build_image_follows (outside : Outside Content) {build after : Build Content}
    {tag text : String} (fresh : build.image = emptyImage)
    (built : buildImage outside build tag text = some after) :
    after.tree.get (resolve after.metaFile) = some (.file (outside.dump after.image)) ∧
      ∀ field, read after.image field =
        if field = .entry "name" then some (.text (nameAndTag tag).1)
        else if field = .entry "tag" then some (.text (nameAndTag tag).2)
        else (stageOf outside (instructions outside.upper text)).reads field := by
  rcases Option.bind_eq_some_iff.mp built with ⟨parsed, mapped, saved⟩
  rcases Option.map_eq_some_iff.mp mapped with ⟨done, executed, rfl⟩
  have effect := saveMetadata_effect outside saved
  have start : Follows build.image ⟨emptyImage, []⟩ := fun field => by
    rw [fresh, Stage.reads, latest_nil, Option.none_or]
  have follows := executeAll_follows outside start executed
  refine ⟨effect.2, fun field => ?_⟩
  rw [effect.1, Build.withImage, read_assign (by decide), read_assign (by decide), clean_image,
    follows field]
  by_cases named : field = .entry "name"
  · subst named
    rw [if_neg (by decide), if_pos rfl, if_pos rfl]
  · rw [if_neg named, if_neg named]
    rfl

end Meaning

section Example

def freebsd : Image :=
      [("name", .text "freebsd"), ("env", .object [("TERM", .text "xterm")]), ("id", .other "1")]

def sampleOutside : Outside String where
  process := plainProcess
  upper := asciiUpper
  getImage := fun base => if base = "freebsd:15.0" then some freebsd else none
  run := fun _ tree _ => (tree, true)
  dump := fun image => ",".intercalate (image.map Prod.fst)
  stays := fun _ _ _ there => there

def sampleBuild : Build String :=
  ⟨"/image", [], emptyImage, sampleTree, sampleBuilder.absolute, sampleTree_made⟩

def sampleFile : String :=
  "ENV A=1\nFROM freebsd:15.0\n# port\nENV PORT=80\n env PORT=81 \r\nWORKDIR srv\n"

theorem sampleFile_steps : instructions asciiUpper sampleFile =
    [("ENV", "A=1"), ("FROM", "freebsd:15.0"), ("ENV", "PORT=80"), ("ENV", "PORT=81"),
        ("WORKDIR", "srv")] := by
  decide +kernel

def asText : Json → Option String
  | .text text => some text
  | _ => none

theorem build_image_follows_sample :
    ∃ after, buildImage sampleOutside sampleBuild "web:2" sampleFile = some after ∧
      (read after.image (.env "PORT")).bind asText = some "81" ∧
          (read after.image (.env "A")).bind asText = none := by
  obtain ⟨after, built⟩ : ∃ after,
      buildImage sampleOutside sampleBuild "web:2" sampleFile = some after := by
    rw [buildImage, parseDockerfile, show sampleOutside.upper = asciiUpper from rfl,
      sampleFile_steps]
    exact Option.isSome_iff_exists.mp (by decide +kernel)
  have reads := (build_image_follows sampleOutside rfl built).2
  rw [show sampleOutside.upper = asciiUpper from rfl, sampleFile_steps] at reads
  refine ⟨after, built, ?_, ?_⟩
  · rw [reads]
    decide +kernel
  · rw [reads]
    decide +kernel

end Example

end Dockermock.Builder
