import Dockermock.Library.Integers
import Dockermock.Library.Outcomes
import Dockermock.Jail.CommandLine

/-!
The create command of the command line, from what argparse makes of its arguments
to the body of the request: the settings, the published ports and the volumes are
taken apart by hand, and a volume is made on the server as soon as its argument is
read. A command that is written out is read as it was meant.
-/

namespace Dockermock.Cli

open Library Database Jail.VolumeNames

section Code

/-- Where the command runs: the name that generate_container_name draws, and whether the answer
to its first, second, ... request for a volume comes. -/
structure Client where
  system : Jail.VolumeNames.System
  abspath : String → String
  digit : Char → Option Nat
  ascii : ReadsAscii digit
  maxDigits : Nat
  generated : String
  answered : Nat → Bool

/-- What parse_args returns for the create command; an option that does not occur is `none`. -/
structure Args where
  name : Option String
  env : Option (List String)
  publish : Option (List String)
  volume : Option (List String)
  workdir : Option String
  user : Option String
  restart : String
  rm : Bool
  network : Option (List String)
  image : String
  cmd : List String

/-- The command ends with an exception, or prints what is wrong and returns -1. -/
inductive Stop where
  | raised | refused
  deriving DecidableEq, Repr

/-- The volumes that it posts one after another, and the body it posts in the end. -/
structure Sent where
  volumes : List String
  outcome : Except Stop Request

def split (separator : Char) (text : String) : List String :=
  (text.toList.splitOn separator).map String.ofList

def readEnv (env : String) : Except Stop (String × String) :=
  match split '=' env with
  | [key, value] => .ok (key, value)
  | _ => .error .raised

variable (client : Client)

/-- What follows a second slash is not looked at. -/
def readProto : List String → Except Stop String
  | [] => .ok "tcp"
  | proto :: _ => if proto = "tcp" ∨ proto = "udp" then .ok proto else .error .refused

def readInt (text : String) : Except Stop Int :=
  (int client.digit client.maxDigits text).elim (.error .raised) .ok

def readPort (port : String) : Except Stop Port :=
  match split ':' port with
  | [host, container] => do
      let host ← readInt client host
      let number ← readInt client ((split '/' container).headD "")
      let proto ← readProto (split '/' container).tail
      return ⟨host, number, some proto⟩
  | _ => .error .raised

def readVolumes : List String → List String → List (String × MountSpec) →
    List String × Except Stop (List (String × MountSpec))
  | [], posted, volumes => (posted, .ok volumes)
  | argument :: rest, posted, volumes =>
      (specOf argument).elim (posted, .error .refused) fun spec =>
        let named := classifyMount client.system spec.source = "volume"
        let posts := if named then posted ++ [spec.source] else posted
        if named ∧ client.answered posted.length = false then (posts, .error .raised)
        else if spec.badFlag then (posts, .error .refused)
        else
          let entry := spec.entered client.system client.abspath
          readVolumes rest posts (assign entry.1 entry.2 volumes)

/-- The body; a key that is not sent has the server's default. The user is read and not sent. -/
def Args.request (args : Args) (env : List (String × String)) (ports : List Port)
    (volumes : List (String × MountSpec)) : Request where
  name := (args.name.filter fun name => name ≠ "").getD client.generated
  image := some args.image
  networks := args.network.getD []
  mounts := some volumes
  env := assignAll env []
  command := args.cmd
  entrypoint := []
  user := none
  workingDir := args.workdir.filter fun dir => dir ≠ ""
  ports := ports
  restart := args.restart
  rm := args.rm
  project := "default"
  service := "default"

/-- The settings come first, then the ports; without a setting there is no list to go through. -/
def readOptions (args : Args) : Except Stop (List (String × String) × List Port) :=
  if args.image = "" then .error .refused
  else do
    let settings ← args.env.elim (.error .raised) .ok
    let env ← settings.mapM readEnv
    let ports ← (args.publish.getD []).mapM (readPort client)
    return (env, ports)

def createContainer (args : Args) : Sent :=
  match readOptions client args with
  | .error stop => ⟨[], .error stop⟩
  | .ok (env, ports) =>
      let (posted, read) := readVolumes client (args.volume.getD []) [] []
      ⟨posted, read.map fun volumes => args.request client env ports volumes⟩

end Code

section Written

inductive Proto where
  | tcp | udp
  deriving DecidableEq, Repr

def Proto.text : Proto → String
  | .tcp => "tcp"
  | .udp => "udp"

structure Publish where
  host : Int
  container : Int
  proto : Option Proto

def Publish.text (publish : Publish) : String :=
  toString publish.host ++ ":" ++ toString publish.container ++ publish.proto.elim "" fun proto =>
    "/" ++ proto.text

/-- Without a protocol it is TCP. -/
def Publish.port (publish : Publish) : Port :=
  ⟨publish.host, publish.container, some (publish.proto.getD .tcp).text⟩

inductive Access where
  | readOnly | readWrite
  deriving DecidableEq, Repr

def Access.text : Access → String
  | .readOnly => "ro"
  | .readWrite => "rw"

/-- A colon cannot be written in either. -/
structure Volume where
  source : String
  path : String
  access : Option Access
  plain : ':' ∉ source.toList ∧ ':' ∉ path.toList

def Volume.text (volume : Volume) : String :=
  volume.source ++ ":" ++ volume.path ++ volume.access.elim "" fun access => ":" ++ access.text

def Volume.spec (volume : Volume) : VolumeSpec :=
  ⟨volume.source, volume.path, volume.access.toList.map Access.text⟩

structure Setting where
  key : String
  value : String
  plain : '=' ∉ key.toList ∧ '=' ∉ value.toList

def Setting.text (setting : Setting) : String := setting.key ++ "=" ++ setting.value

def Setting.entry (setting : Setting) : String × String := (setting.key, setting.value)

/-- What the user means by the arguments of the command. -/
structure Command where
  name : Option String
  image : String
  settings : List Setting
  ports : List Publish
  volumes : List Volume
  workdir : Option String
  user : Option String
  restart : String
  rm : Bool
  networks : List String
  cmd : List String

def given {Value : Type} (values : List Value) : Option (List Value) :=
  if values = [] then none else some values

def Command.args (command : Command) : Args where
  name := command.name
  env := given (command.settings.map Setting.text)
  publish := given (command.ports.map Publish.text)
  volume := given (command.volumes.map Volume.text)
  workdir := command.workdir
  user := command.user
  restart := command.restart
  rm := command.rm
  network := given command.networks
  image := command.image
  cmd := command.cmd

variable (client : Client)

/-- The volumes that are posted: those whose source is no directory. -/
def named (volumes : List Volume) : List String :=
  (volumes.filter fun volume =>
    classifyMount client.system volume.source = "volume").map Volume.source

def mountEntries (volumes : List Volume) : List (String × MountSpec) :=
  volumes.map fun volume => volume.spec.entered client.system client.abspath

def Command.request (command : Command) : Request :=
  command.args.request client (command.settings.map Setting.entry) (command.ports.map Publish.port)
    (assignAll (mountEntries client command.volumes) [])

def Readable (number : Int) : Prop :=
  ¬ (client.maxDigits ≠ 0 ∧ client.maxDigits < digitCount number)

structure Sendable (command : Command) : Prop where
  image : command.image ≠ ""
  settings : command.settings ≠ []
  ports : ∀ publish ∈ command.ports, Readable client publish.host ∧
    Readable client publish.container
  answers : ∀ index < (named client command.volumes).length, client.answered index = true

end Written

section Reading

theorem split_free {separator : Char} {text : String} (free : separator ∉ text.toList) :
    split separator text = [text] := by
  rw [split, List.splitOn_eq_singleton free, List.map_singleton, String.ofList_toList]

theorem split_cons {separator : Char} {text front : String} (rest : String)
    (free : separator ∉ front.toList)
    (whole : text.toList = front.toList ++ separator :: rest.toList) :
    split separator text = front :: split separator rest := by
  rw [split, whole, List.splitOn_append_cons_self_of_not_mem free, List.map_cons,
    String.ofList_toList]
  rfl

theorem given_getD {Value : Type} (values : List Value) : (given values).getD [] = values := by
  unfold given
  split_ifs with none
  · exact none.symm
  · rfl

theorem readEnv_text (setting : Setting) : readEnv setting.text = .ok setting.entry := by
  have cut : split '=' setting.text = [setting.key, setting.value] := by
    rw [split_cons setting.value setting.plain.1 (by simp [Setting.text]),
      split_free setting.plain.2]
  rw [readEnv, cut]
  rfl

variable {client : Client}

theorem readInt_toString {number : Int} (readable : Readable client number) :
    readInt client (toString number) = .ok number := by
  rw [readInt, int_toString client.ascii, if_neg readable]
  rfl

theorem readInt_long {number : Int} (long : ¬ Readable client number) :
    readInt client (toString number) = .error .raised := by
  rw [readInt, int_toString client.ascii, if_pos (not_not.mp long)]
  rfl

theorem split_publish (publish : Publish) : split ':' publish.text =
    [toString publish.host,
      toString publish.container ++ publish.proto.elim "" fun proto => "/" ++ proto.text] := by
  have free : ∀ number : Int, ':' ∉ (toString number).toList :=
    not_mem_toString (by decide) (by decide)
  rw [split_cons
    (toString publish.container ++ publish.proto.elim "" fun proto => "/" ++ proto.text)
    (free publish.host), split_free]
  · rcases publish.proto with _ | _ | _ <;> simpa [Proto.text] using free publish.container
  · simp [Publish.text]

theorem split_container (publish : Publish) :
    split '/' (toString publish.container ++ publish.proto.elim "" fun proto => "/" ++ proto.text) =
      toString publish.container :: publish.proto.toList.map Proto.text := by
  have free : '/' ∉ (toString publish.container).toList :=
    not_mem_toString (by decide) (by decide) _
  cases publish.proto with
  | none => exact (split_free (by simpa using free)).trans (by simp)
  | some proto =>
      rw [split_cons proto.text free (by simp), split_free (by cases proto <;> decide)]
      rfl

theorem readProto_text (proto : Option Proto) :
    readProto (proto.toList.map Proto.text) = .ok (proto.getD .tcp).text := by
  rcases proto with _ | _ | _ <;> rfl

theorem readPort_text (publish : Publish) (host : Readable client publish.host)
    (container : Readable client publish.container) :
    readPort client publish.text = .ok publish.port := by
  rw [readPort, split_publish]
  simp only [split_container, List.headD_cons, List.tail_cons, readInt_toString host,
    readInt_toString container, readProto_text]
  rfl

theorem readPort_long (publish : Publish)
    (long : ¬ (Readable client publish.host ∧ Readable client publish.container)) :
    readPort client publish.text = .error .raised := by
  rw [readPort, split_publish]
  simp only [split_container, List.headD_cons, List.tail_cons]
  by_cases host : Readable client publish.host
  · rw [readInt_toString host, readInt_long fun container => long ⟨host, container⟩]
    rfl
  · rw [readInt_long host]
    rfl

theorem specOf_text (volume : Volume) : specOf volume.text = some volume.spec := by
  have cut : split ':' volume.text =
      volume.source :: volume.path :: volume.access.toList.map Access.text := by
    rcases read : volume.access with _ | access
    · rw [split_cons volume.path volume.plain.1 (by simp [Volume.text, read]),
        split_free volume.plain.2]
      rfl
    · rw [split_cons (volume.path ++ ":" ++ access.text) volume.plain.1
        (by simp [Volume.text, read]),
        split_cons access.text volume.plain.2 (by simp), split_free (by cases access <;> decide)]
      rfl
  have fields : (volume.text.toList.splitOn ':').map String.ofList = _ := cut
  rw [specOf, fields]
  rfl

theorem not_badFlag (volume : Volume) : ¬ volume.spec.badFlag := by
  rcases read : volume.access with _ | _ | _ <;>
    simp [VolumeSpec.badFlag, Volume.spec, read, Access.text]

end Reading

section Sending
variable {client : Client}

theorem named_cons (volume : Volume) (rest : List Volume) : named client (volume :: rest) =
    if classifyMount client.system volume.source = "volume" then volume.source :: named client rest
    else named client rest := by
  rw [named, List.filter_cons]
  split <;> simp_all [named]

theorem readVolumes_cons (volume : Volume) (rest posted : List String)
    (volumes : List (String × MountSpec)) :
    readVolumes client (volume.text :: rest) posted volumes =
      (if classifyMount client.system volume.source = "volume" then
        (if client.answered posted.length = true then
          readVolumes client rest (posted ++ [volume.source])
            (assignAll (mountEntries client [volume]) volumes)
        else (posted ++ [volume.source], .error .raised))
      else readVolumes client rest posted (assignAll (mountEntries client [volume]) volumes)) := by
  have source : volume.spec.source = volume.source := rfl
  rw [readVolumes, specOf_text]
  simp only [Option.elim_some, if_neg (not_badFlag volume), source]
  by_cases volumeNamed : classifyMount client.system volume.source = "volume"
  · cases client.answered posted.length <;> simp only [volumeNamed, if_true] <;> rfl
  · simp only [volumeNamed, false_and, if_false]
    rfl

theorem readVolumes_answered (volumes : List Volume) (posted : List String)
    (start : List (String × MountSpec)) (answers : ∀ index < (named client volumes).length,
      client.answered (posted.length + index) = true) :
    readVolumes client (volumes.map Volume.text) posted start =
      (posted ++ named client volumes, .ok (assignAll (mountEntries client volumes) start)) := by
  induction volumes generalizing posted start with
  | nil => simp [readVolumes, named, mountEntries, assignAll]
  | cons volume rest ih =>
      rw [List.map_cons, readVolumes_cons, named_cons]
      rw [named_cons] at answers
      split_ifs at answers ⊢ with volumeNamed answer
      · rw [ih]
        · simp [mountEntries, assignAll]
        · intro index below
          have next := answers (index + 1) (by simpa using below)
          rwa [List.length_append, List.length_singleton, Nat.add_assoc, Nat.add_comm 1]
      · exact absurd (answers 0 (by simp)) answer
      · exact ih _ _ answers

theorem readVolumes_unanswered (volumes : List Volume) (posted : List String)
    (start : List (String × MountSpec)) {index : Nat}
    (below : index < (named client volumes).length)
    (silent : client.answered (posted.length + index) = false) :
    ∃ stop, (readVolumes client (volumes.map Volume.text) posted start).2 = .error stop := by
  induction volumes generalizing posted start index with
  | nil => cases below
  | cons volume rest ih =>
      rw [List.map_cons, readVolumes_cons]
      rw [named_cons] at below
      split_ifs at below ⊢ with volumeNamed answer
      · cases index with
        | zero => exact absurd (answer.symm.trans silent) (by decide)
        | succ index =>
            refine ih _ _ (Nat.lt_of_succ_lt_succ below) ?_
            rwa [List.length_append, List.length_singleton, Nat.add_assoc, Nat.add_comm 1]
      · exact ⟨_, rfl⟩
      · exact ih _ _ below silent

theorem readOptions_sendable {command : Command} (sendable : Sendable client command) :
    readOptions client command.args =
      .ok (command.settings.map Setting.entry, command.ports.map Publish.port) := by
  have settings : command.args.env = some (command.settings.map Setting.text) :=
    if_neg (by simpa using sendable.settings)
  have ports : command.args.publish.getD [] = command.ports.map Publish.text := given_getD _
  have env : (command.settings.map Setting.text).mapM readEnv =
      .ok (command.settings.map Setting.entry) := by
    rw [List.mapM_map]
    exact mapM_ok _ fun setting _ => readEnv_text setting
  have published : (command.ports.map Publish.text).mapM (readPort client) =
      .ok (command.ports.map Publish.port) := by
    rw [List.mapM_map]
    refine mapM_ok _ fun publish member => ?_
    have readable := sendable.ports publish member
    exact readPort_text publish readable.1 readable.2
  have image : command.args.image ≠ "" := sendable.image
  rw [readOptions, if_neg image, settings, ports]
  change (do
    let env ← (command.settings.map Setting.text).mapM readEnv
    let ports ← (command.ports.map Publish.text).mapM (readPort client)
    return (env, ports)) = _
  rw [env, published]
  rfl

/-- What is written is sent as it was meant, after a request for every volume with a name. -/
theorem createContainer_sendable {command : Command} (sendable : Sendable client command) :
    createContainer client command.args =
        ⟨named client command.volumes, .ok (command.request client)⟩ := by
  have volumes : command.args.volume.getD [] = command.volumes.map Volume.text := given_getD _
  rw [createContainer, readOptions_sendable sendable]
  simp only [volumes]
  rw [readVolumes_answered command.volumes [] [] (by simpa using sendable.answers)]
  rfl

/-- Nothing else keeps a command that is written from its request: there is an image, there is a
setting at least, no port number is too long, and every request for a volume is answered. -/
theorem sent_iff_sendable (client : Client) (command : Command) :
    (∃ request, (createContainer client command.args).outcome = .ok request) ↔
        Sendable client command := by
  constructor
  · rintro ⟨request, sent⟩
    rw [createContainer] at sent
    cases read : readOptions client command.args with
    | error stop =>
        rw [read] at sent
        cases sent
    | ok options =>
        rw [read] at sent
        rw [readOptions] at read
        have image : command.image ≠ "" := by
          intro none
          rw [if_pos (show command.args.image = "" from none)] at read
          cases read
        rw [if_neg (show command.args.image ≠ "" from image)] at read
        obtain ⟨settings, listed, read⟩ := bind_ok read
        obtain ⟨env, entered, read⟩ := bind_ok read
        obtain ⟨ports, published, _⟩ := bind_ok read
        refine ⟨image, ?_, ?_, ?_⟩
        · intro bare
          -- without -e there is no list, and the loop over it raises
          have nothing : command.args.env = none := if_pos (by rw [bare, List.map_nil])
          rw [nothing] at listed
          cases listed
        · intro publish member
          by_contra long
          have whole : command.args.publish.getD [] = command.ports.map Publish.text := given_getD _
          rw [whole] at published
          obtain ⟨stop, stopped⟩ :=
            mapM_error _ (List.mem_map_of_mem member) ⟨_, readPort_long publish long⟩
          cases stopped.symm.trans published
        · intro index below
          by_contra silent
          have whole : command.args.volume.getD [] = command.volumes.map Volume.text := given_getD _
          obtain ⟨stop, stopped⟩ :=
            readVolumes_unanswered command.volumes [] [] below (by simpa using silent)
          simp only [whole, stopped] at sent
          cases sent
  · intro sendable
    exact ⟨_, by rw [createContainer_sendable sendable]⟩

end Sending

end Dockermock.Cli
