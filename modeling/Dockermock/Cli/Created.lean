import Dockermock.Library.History
import Dockermock.Database.Environment
import Dockermock.Api.Inspect
import Dockermock.Cli.Create

/-!
From the command line to the program that runs in the container. The container that
a create command has made is inspected with what was written, whatever the server
has done before and since, and exec starts a program in it with the same settings.
-/

namespace Dockermock.Cli

open Library Database Lifecycle Api Jail.VolumeNames

section Written
variable (client : Client)

def Command.setting (command : Command) (key : String) : Option String :=
  latest (command.settings.map Setting.entry) key

def Volume.key (volume : Volume) : String := mountKey client.system client.abspath volume.source

/-- The mount that a volume argument stands for; its target is what the argument has for a source.
-/
def Volume.mount (volume : Volume) : Mount :=
  ⟨classifyMount client.system volume.source, volume.path, volume.key client,
    volume.access = some .readOnly⟩

def Command.volume (command : Command) (key : String) : Option Volume :=
  latest (command.volumes.map fun volume => (volume.key client, volume)) key

def Command.env (command : Command) (image : ImageJson) (key : String) : Option String :=
  if key = "PATH" then some (joinedPath image) else (command.setting key).or (image.env.lookup key)

structure Shows (command : Command) (image : ImageJson) (config : Config) : Prop where
  cmd : config.command = if command.cmd = [] then image.command else command.cmd
  entrypoint : config.entrypoint = image.entrypoint
  env : ∀ key, config.env.lookup key = command.env image key
  user : config.user = image.user.filter fun text => text ≠ ""
  workingDir : config.workingDir =
    (command.workdir.filter fun text => text ≠ "").or
      (image.workingDir.filter fun text => text ≠ "")
  mounts : ∀ key volume, command.volume client key = some volume →
    ∀ mount, mount ∈ config.mounts ∧ mount.target = key ↔ mount = volume.mount client
  ports : config.ports = command.ports.map Publish.port
  restart : config.restart = command.restart
  rm : config.rm = command.rm

end Written

section Config
variable {client : Client} {command : Command}

theorem prepare_image {host : Host} {tables : Tables} {request : Request} {accepted : Accepted}
    (ready : prepare host tables request = .ready accepted) :
    ∃ text row json, request.image = some text ∧ splitImage text = some (row.name, row.tag) ∧
      tables.images.rows.get accepted.row.imageId = some row ∧ row.json = some json ∧
      createContainerJson host json request = some accepted.row.config := by
  unfold prepare at ready
  split at ready
  · cases ready
  · split at ready
    · cases ready
    · rename_i text given
      split at ready
      · cases ready
      · rename_i imageName tag divided
        dsimp only at ready
        split at ready
        · cases ready
        · cases ready
        · split at ready
          · cases ready
          · rename_i imageId row found
            split at ready
            · cases ready
            · rename_i made
              cases ready
              -- of all ways through create_container only this one accepts the request
              rcases Option.bind_eq_some_iff.mp made with ⟨json, held, mapped⟩
              rcases Option.map_eq_some_iff.mp mapped with ⟨config, built, rfl⟩
              have listed := (Table.mem_select _ _ _ _).mp (List.mem_of_mem_head? found)
              have named : row.name = imageName ∧ row.tag = tag := by simpa using listed.2
              exact ⟨text, row, json, given, by
                rw [named.1, named.2, divided], listed.1, held, built⟩

theorem mem_volume {key : String} {volume : Volume}
    (last : command.volume client key = some volume) : volume.key client = key := by
  rcases List.mem_map.mp (mem_of_latest _ _ _ last) with ⟨other, _, same⟩
  cases same
  rfl

theorem lookup_mountEntries (key : String) :
    (assignAll (mountEntries client command.volumes) []).lookup key =
      (command.volume client key).map fun volume =>
        ⟨some (volume.mount client).type, some volume.path, (volume.mount client).readonly⟩ := by
  rw [lookup_assignAll, Command.volume, ← latest_map, List.map_map]
  congr 1
  refine List.map_congr_left fun volume _ => ?_
  have readonly : decide (volume.spec.flags = ["ro"]) =
      decide (volume.access = some .readOnly) := by
    rcases read : volume.access with _ | _ | _ <;> simp [Volume.spec, read, Access.text]
  exact Prod.ext rfl (congrArg (fun readonly => (⟨_, _, readonly⟩ : MountSpec)) readonly)

theorem shows_request {host : Host} {image : ImageJson} {config : Config}
    (made : createContainerJson host image (command.request client) = some config) :
    Shows client command image config := by
  have env := createContainerJson_env made
  rcases Option.bind_eq_some_iff.mp made with ⟨volumes, _, rest⟩
  rcases Option.bind_eq_some_iff.mp rest with ⟨userMounts, given, rest⟩
  rcases Option.bind_eq_some_iff.mp rest with ⟨mounts, mounted, rest⟩
  rcases Option.ite_none_right_eq_some.mp rest with ⟨_, same⟩
  -- the body always has a map of mounts, an empty one at least
  obtain rfl : assignAll (mountEntries client command.volumes) [] = userMounts :=
    Option.some.inj given
  cases same
  refine { cmd := rfl, entrypoint := rfl, env := fun key => ?_, user := rfl, workingDir := ?_,
           mounts := fun key volume last mount => ?_, ports := rfl, restart := rfl, rm := rfl }
  · have settings : (command.request client).env =
      assignAll (command.settings.map Setting.entry) [] := rfl
    rw [env, settings, lookup_containerEnv (assignAll_distinct _ [] List.nodup_nil), Command.env,
      Command.setting, ← lookup_assignAll]
  · change firstGiven (command.workdir.filter fun text => text ≠ "") image.workingDir = _
    simp only [firstGiven, Option.filter_filter, Bool.and_self]
  · have distinct := assignAll_distinct (mountEntries client command.volumes) [] List.nodup_nil
    have listed : (assignAll (mountEntries client command.volumes) []).lookup key = _ :=
      lookup_mountEntries key
    rw [last, Option.map_some, lookup_eq_some_iff_mem _ distinct] at listed
    rcases handleContainerMounts_given mounted distinct key _ listed with
      ⟨type, source, typed, sourced, only⟩
    cases typed
    cases sourced
    rw [only mount, Volume.mount, mem_volume last]

theorem request_of_sent {request : Request}
    (sent : (createContainer client command.args).outcome = .ok request) :
    command.request client = request := by
  rw [createContainer_sendable ((sent_iff_sendable client command).mp ⟨request, sent⟩)] at sent
  exact Except.ok.inj sent

theorem images_same {images : Table ImageRow} {actions : List Api.Action} {after : Service}
    (reached : Run Service.step anyAction (Service.initial images) actions after) :
    after.conn.view.images = images :=
  have orderly := run_orderly reached (initial_orderly images)
  orderly.conn.ahead.images.trans (run_kept reached (initial_orderly images)).images

end Config

section Inspection

structure AsWritten (client : Client) (command : Command) (images : Table ImageRow) (cid : Nat)
    (json : ImageJson) (inspected : Inspected) : Prop where
  id : inspected.id = cid
  name : inspected.row.name = (command.request client).name
  image : ∃ row, images.rows.get inspected.row.imageId = some row ∧
    splitImage command.image = some (row.name, row.tag) ∧ row.json = some json
  config : Shows client command json inspected.row.config
  networks : ∀ name ∈ command.networks, ∃ network ∈ inspected.networks, network.name = name

/-- What was accepted of the request of a command is what was written, as long as the rows last. -/
theorem asWritten {images : Table ImageRow} {actions : List Api.Action} {before after : Service}
    {client : Client} {command : Command} {host : Host} {cid : Nat} {accepted : Accepted}
    {made : Tables} (reached : Run Service.step anyAction (Service.initial images) actions before)
    (ready : prepare host before.conn.view (command.request client) = .ready accepted)
    (complete : Complete (command.request client) cid accepted.row made)
    (kept : Kept made after.conn.view)
    (found : findContainer after.conn.view (command.request client).name = some (cid, accepted.row))
    {inspected : Inspected}
    (shown : getContainer after (command.request client).name = some inspected) :
    inspected.status = after.statusOf cid ∧ ∃ json,
        AsWritten client command images cid json inspected := by
  rw [getContainer, found] at shown
  cases shown
  rcases prepare_image ready with ⟨text, imageRow, json, asked, divided, held, read, built⟩
  rcases prepare_made ready with ⟨_, _, _, _, _, _, _, prepared⟩
  obtain rfl : command.image = text := Option.some.inj asked
  rw [images_same reached] at held
  refine ⟨rfl, json, rfl, (prepareRow_made prepared).1, ⟨imageRow, held, divided, read⟩,
    shows_request built, fun name member => ?_⟩
  have wanted : name ∈ (command.request client).networks := by
    change name ∈ (given command.networks).getD []
    rwa [given_getD]
  rcases complete.networks name wanted with ⟨networkId, network, address, known, named, link⟩
  exact ⟨_, kept.getContainerNetworks _ (mem_getContainerNetworks known link), named⟩

/-- Whatever requests came before and come after, from whichever clients. -/
theorem created_as_written {images : Table ImageRow} {earlier later : List Api.Action}
    {before after : Service} {client : Client} {command : Command} {host : Host} {request : Request}
    {cid : Nat} {conn : Conn}
    (reached : Run Service.step anyAction (Service.initial images) earlier before)
    (sent : (createContainer client command.args).outcome = .ok request)
    (created : Database.createContainer host before.conn request = (.returned cid, conn))
    (run : Run Service.step anyAction { before with conn := conn } later after) :
    ∃ inspected json, getContainer after request.name = some inspected ∧
      AsWritten client command images cid json inspected := by
  obtain rfl := request_of_sent sent
  rcases createContainer_lasts reached created run with ⟨accepted, ready, complete, found, kept⟩
  have shown : ∃ inspected, getContainer after (command.request client).name = some inspected := by
    rw [getContainer, found]
    exact ⟨_, rfl⟩
  rcases shown with ⟨inspected, shown⟩
  rcases asWritten reached ready complete kept found shown with ⟨_, json, written⟩
  exact ⟨inspected, json, shown, written⟩

end Inspection

section Exec

/-- A name that means itself in a URL. -/
def Unreserved (name : String) : Prop :=
  name ≠ "" ∧ name ≠ "." ∧ name ≠ ".." ∧ ∀ char ∈ name.toList, char.isAlphanum ∨
    char ∈ ['-', '.', '_', '~']

/-- Where exec runs: the container that the server is asked for when a name is put into the URL of
GET, jail_get and jail_attach, chdir in the jail, and execvpe. -/
structure ExecHost where
  routed : String → Option String
  unreserved : ∀ name, Unreserved name → routed name = some name
  jailId : String → Int
  attaches : Int → Bool
  changesDir : String → Bool
  executes : List String → List (String × String) → Bool

/-- The command comes to its end without the program, or is the program. -/
inductive Execution where
  | ended
  | executed (jail : Int) (dir : String) (argv : List String) (env : List (String × String))
  deriving DecidableEq, Repr

def setdefault (env : List (String × String)) (entry : String × String) : List (String × String) :=
  if (env.lookup entry.1).isSome then env else env ++ [entry]

def defaults (inspected : Inspected) : List (String × String) :=
  [("USER", inspected.row.config.user.getD "root"), ("HOSTNAME", inspected.row.name ++ ".jail"),
    ("HOME", "/root"), ("SHELL", "/bin/sh"), ("TERM", "xterm"), ("PS1", "\\u@\\h:\\w $ ")]

def containerExec (host : ExecHost) (inspected : Inspected) (argv : List String) : Execution :=
  if inspected.row.name = "" ∨ inspected.status ≠ .running then .ended
  else
    let jail := host.jailId inspected.row.name
    let dir := inspected.row.config.workingDir.getD "/"
    let env := (defaults inspected).foldl setdefault inspected.row.config.env
    -- without a word there is no argv[0]
    if 0 ≤ jail ∧ host.attaches jail ∧ host.changesDir dir ∧ argv ≠ [] ∧ host.executes argv env then
      .executed jail dir argv env
    else .ended

/-- pre_exec; what GET shows is all that exec knows of the container. -/
def preExec (host : ExecHost) (service : Service) (name : String) (argv : List String) :
    Execution :=
  ((host.routed name).bind (getContainer service)).elim .ended fun inspected =>
    containerExec host inspected argv

theorem lookup_setdefault (env : List (String × String)) (entry : String × String) (key : String) :
    (setdefault env entry).lookup key = (env.lookup key).or ([entry].lookup key) := by
  obtain ⟨name, value⟩ := entry
  rw [setdefault]
  split_ifs with present
  · by_cases same : key = name
    · subst same
      rcases Option.isSome_iff_exists.mp present with ⟨held, found⟩
      rw [found, Option.some_or]
    · have other : (key == name) = false := beq_eq_false_iff_ne.mpr same
      rw [List.lookup_cons, other, List.lookup_nil, Option.or_none]
  · exact List.lookup_append

theorem lookup_defaults (entries env : List (String × String)) (key : String) :
    (entries.foldl setdefault env).lookup key = (env.lookup key).or (entries.lookup key) := by
  induction entries generalizing env with
  | nil => simp
  | cons entry rest ih =>
      rw [List.foldl_cons, ih, lookup_setdefault, Option.or_assoc, ← List.lookup_append,
        List.singleton_append]

/-- The program of exec, under any name that reaches the container, runs in its running jail, in the
directory and with the settings of the command that made it; what it has besides are the defaults.
-/
theorem executed_as_written {images : Table ImageRow} {earlier later : List Api.Action}
    {before after : Service} {client : Client} {command : Command} {host : Host} {request : Request}
    {cid : Nat} {conn : Conn}
    (reached : Run Service.step anyAction (Service.initial images) earlier before)
    (sent : (createContainer client command.args).outcome = .ok request)
    (created : Database.createContainer host before.conn request = (.returned cid, conn))
    (run : Run Service.step anyAction { before with conn := conn } later after) {site : ExecHost}
    {name : String} {argv given : List String} {jail : Int} {dir : String}
    {env : List (String × String)} (reaches : site.routed name = some request.name)
    (executed : preExec site after name argv = .executed jail dir given env) :
    ∃ inspected json, AsWritten client command images cid json inspected ∧
      after.statusOf cid = .running ∧ jail = site.jailId request.name ∧ 0 ≤ jail ∧
        site.attaches jail = true ∧
      dir = inspected.row.config.workingDir.getD "/" ∧ given = argv ∧
      ∀ key, env.lookup key = (command.env json key).or ((defaults inspected).lookup key) := by
  obtain rfl := request_of_sent sent
  rcases createContainer_lasts reached created run with ⟨accepted, ready, complete, found, kept⟩
  rw [preExec, reaches, Option.bind_some] at executed
  cases shown : getContainer after (command.request client).name with
  | none =>
      rw [shown] at executed
      cases executed
  | some inspected =>
      rcases asWritten reached ready complete kept found shown with ⟨status, json, written⟩
      rw [shown, Option.elim_some, containerExec] at executed
      dsimp only at executed
      -- the program is reached past the test of the status, with the jail attached
      split_ifs at executed with idle goes
      cases executed
      have running : inspected.status = .running := by
        by_contra other
        exact idle (Or.inr other)
      refine ⟨inspected, json, written, status ▸ running, congrArg site.jailId written.name, goes.1,
        goes.2.1, rfl, rfl, fun key => ?_⟩
      rw [lookup_defaults, written.config.env key]

end Exec

section Example

def shell : Client where
  system := .other
  abspath := id
  digit := fun char => if char.isDigit then some (char.toNat - '0'.toNat) else none
  ascii := fun _ decimal => if_pos decimal
  maxDigits := 4300
  generated := "calm_tiger"
  answered := fun _ => true

/-- `create --name web -e PORT=1 -e PORT=80 -p 8080:80 -p 53:53/udp -v /srv:/data:ro -n pair
alpine:3.20 httpd -f` -/
def webCommand : Command where
  name := some "web"
  image := "alpine:3.20"
  settings := [⟨"PORT", "1", by decide⟩, ⟨"PORT", "80", by decide⟩]
  ports := [⟨8080, 80, none⟩, ⟨53, 53, some .udp⟩]
  volumes := [⟨"/srv", "/data", some .readOnly, by decide⟩]
  workdir := none
  user := none
  restart := "no"
  rm := false
  networks := ["pair"]
  cmd := ["httpd", "-f"]

theorem webCommand_sendable : Sendable shell webCommand where
  image := by decide
  settings := by decide
  ports := by
    simp [webCommand, Readable, shell, digitCount, Nat.toDigits, Nat.toDigitsCore]
  answers := fun _ _ => rfl

theorem webCommand_sent :
    (createContainer shell webCommand.args).outcome = .ok (webCommand.request shell) := by
  rw [createContainer_sendable webCommand_sendable]

def lastSegment (name : String) : Option String :=
  let path := name.toList.takeWhile fun char => char ≠ '?' && char ≠ '#'
  if path = [] ∨ '/' ∈ path then none else some (String.ofList path)

example : lastSegment "web?x" = some "web" := by decide

theorem lastSegment_unreserved (name : String) (unreserved : Unreserved name) :
    lastSegment name = some name := by
  have safe : ∀ char ∈ name.toList, char ≠ '?' ∧ char ≠ '#' ∧ char ≠ '/' := by
    intro char member
    have plain := unreserved.2.2.2 char member
    refine ⟨?_, ?_, ?_⟩ <;> (rintro rfl; revert plain; decide)
  have whole : name.toList.takeWhile (fun char => char ≠ '?' && char ≠ '#') = name.toList :=
    List.takeWhile_eq_self_iff.mpr fun char member => by simp [safe char member]
  have some' : name.toList ≠ [] := fun empty => unreserved.1 (String.toList_eq_nil_iff.mp empty)
  rw [lastSegment, whole, if_neg (not_or.mpr ⟨some', fun member => (safe _ member).2.2 rfl⟩),
    String.ofList_toList]

def shellHost : ExecHost where
  routed := lastSegment
  unreserved := lastSegment_unreserved
  jailId := fun _ => 3
  attaches := fun _ => true
  changesDir := fun _ => true
  executes := fun _ _ => true

theorem web_unreserved : Unreserved "web" := by simp [Unreserved]

def startsWeb : List Api.Action := [.startContainer "web" true]

def startedThen (before : Service) : Database.Outcome × Option Execution :=
  let created := Database.createContainer workingHost before.conn (webCommand.request shell)
  (created.1,
      (replay Service.step anyAction { before with conn := created.2 } startsWeb).map fun after =>
    preExec shellHost after "web" ["sh"])

def webEnv : List (String × String) :=
  [("PORT", "80"), ("PATH", "/bin"), ("USER", "root"), ("HOSTNAME", "web.jail"), ("HOME", "/root"),
    ("SHELL", "/bin/sh"), ("TERM", "xterm"), ("PS1", "\\u@\\h:\\w $ ")]

theorem started_web : ∃ (before after : Service) (conn : Conn),
    Run Service.step anyAction (Service.initial (Table.empty.insert alpine))
      (sharedNetwork.take 6) before ∧
    Database.createContainer workingHost before.conn (webCommand.request shell) =
      (.returned 2, conn) ∧
    Run Service.step anyAction { before with conn := conn } startsWeb after ∧
    preExec shellHost after "web" ["sh"] = .executed 3 "/" ["sh"] webEnv := by
  rcases run_of_replay Service.step anyAction startedThen stockedService (sharedNetwork.take 6)
    (.returned 2, some (.executed 3 "/" ["sh"] webEnv)) (by decide) with ⟨before, reached, read⟩
  have created : Database.createContainer workingHost before.conn (webCommand.request shell) =
      (.returned 2,
          (Database.createContainer workingHost before.conn (webCommand.request shell)).2) :=
    Prod.ext (Prod.ext_iff.mp read).1 rfl
  have continued := (Prod.ext_iff.mp read).2
  rw [startedThen] at continued
  rcases run_of_replay Service.step anyAction
    (fun after => preExec shellHost after "web" ["sh"]) _ startsWeb _
    continued with ⟨after, run, executed⟩
  exact ⟨before, after, _, reached, created, run, executed⟩

theorem created_as_written_web :
    ∃ after inspected json, getContainer after "web" = some inspected ∧
      AsWritten shell webCommand (Table.empty.insert alpine) 2 json inspected := by
  rcases started_web with ⟨_, after, _, reached, created, run, _⟩
  exact ⟨after, created_as_written reached webCommand_sent created run⟩

theorem executed_as_written_web :
    ∃ (after : Service) (inspected : Inspected) (json : ImageJson),
      preExec shellHost after "web" ["sh"] = .executed 3 "/" ["sh"] webEnv ∧
      AsWritten shell webCommand (Table.empty.insert alpine) 2 json inspected ∧
        after.statusOf 2 = .running ∧
      ∀ key, webEnv.lookup key =
          (webCommand.env json key).or ((defaults inspected).lookup key) := by
  rcases started_web with ⟨_, after, _, reached, created, run, executed⟩
  rcases executed_as_written reached webCommand_sent created run
      (shellHost.unreserved "web" web_unreserved) executed with
    ⟨inspected, json, written, running, _, _, _, _, _, env⟩
  exact ⟨after, inspected, json, executed, written, running, env⟩

end Example

end Dockermock.Cli
