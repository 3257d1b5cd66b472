import Dockermock.Library.Paths
import Dockermock.Jail.Limits

/-!
start_container of the kqueue parent, from create_jail to rfork, and the release
steps of destroy_jail. Every call to the system carries its outcome with it; a
function that may raise returns the jail as it leaves it and whether it came
back. A step of destroy_jail that cannot release something logs it and goes on.
-/

namespace Dockermock.Jail

open Library

inductive Resource where
  | jail
  | epair (name : String)
  | devfs
  | tmpfs
  | mount (dest : String)
  deriving DecidableEq, Repr

inductive MountResult where
  | raised | failed | mounted
  deriving DecidableEq, Repr

/-- A network and what the calls made for it bring: the name of the epair, whether bridge_if
goes through, and whether the two registrations come back. -/
structure Network where
  driver : Option String
  epair : Option String
  bridged : Bool
  registered : Bool
  portsRegistered : Bool
  deriving DecidableEq, Repr

/-- An entry of the mounts and what its turn in handle_mounts comes to. -/
structure UserMount where
  source : Option String
  result : MountResult
  deriving DecidableEq, Repr

/-- What start_container is given. A container has a name, since it is asked for by it. -/
structure Config where
  name : String
  named : name ≠ ""
  path : String
  networks : List Network
  mounts : List UserMount
  limits : List Limits.Limit
  ports : Bool

/-- What Python makes of a text, and the outcomes of the calls that are made once. -/
structure Host where
  unicode : Limits.Unicode
  maxDigits : Nat
  jailSet : Option Int
  attachInterfaceUp : Bool
  devfs : MountResult
  tmpfs : MountResult
  notifyStatus : Bool
  notifyStatusAgain : Bool
  rfork : Int

/-- The Jail object, with what has been acquired for it and handed to a release step. -/
structure State where
  jid : Option Int
  epair : List String
  devfsMounted : Bool
  acquired : List Resource
  released : List Resource
  deriving DecidableEq, Repr

def State.fresh : State := ⟨none, [], false, [], []⟩

def State.acquire (jail : State) (resource : Resource) : State :=
  { jail with acquired := jail.acquired ++ [resource] }

def andThen (done : State × Bool) (next : State → State × Bool) : State × Bool :=
  if done.2 then next done.1 else done

section Creating

def startJailFromJson (host : Host) (jail : State) : State × Bool :=
  match host.jailSet with
  | none => (jail, false)
  | some jid =>
      let created := { jail with jid := some jid }
      (if jid < 0 then created else created.acquire .jail, true)

/-- create_epair_up. A CERROR makes create_jail raise. The epair is noted before bridge_if. -/
def createEpairUp (network : Network) (jail : State) : State × Bool :=
  match network.epair with
  | none => (jail, false)
  | some epair =>
      if epair = "" then (jail, false)
      else ({ jail with epair := jail.epair ++ [epair] }.acquire (.epair epair), network.bridged)

def createEpairs : List Network → State → State × Bool
  | [], jail => (jail, true)
  | network :: rest, jail =>
      if network.driver = some "bridge" then
        andThen (createEpairUp network jail) (createEpairs rest)
      else createEpairs rest jail

def attachIntefaceUp (host : Host) (jail : State) : State × Bool :=
  if jail.epair = [] ∨ jail.jid = none ∨ jail.jid = some 0 then (jail, true)
    else (jail, host.attachInterfaceUp)

def createNetworking (host : Host) (config : Config) (jail : State) : State × Bool :=
  match config.networks with
  | [] => (jail, true)
  | first :: rest =>
      let made := if first.driver = some "host" then (jail, true)
        else createEpairs (first :: rest) jail
      andThen made (attachIntefaceUp host)

/-- mount_devfs sets its flag for a mount that failed as well. -/
def mountDevfs (host : Host) (jail : State) : State × Bool :=
  if jail.devfsMounted then (jail, true)
  else
    match host.devfs with
    | .raised => (jail, false)
    | .failed => ({ jail with devfsMounted := true }, true)
    | .mounted => ({ jail with devfsMounted := true }.acquire .devfs, true)

def mountTmpfs (host : Host) (jail : State) : State × Bool :=
  match host.tmpfs with
  | .raised => (jail, false)
  | .failed => (jail, true)
  | .mounted => (jail.acquire .tmpfs, true)

/-- transform_json -/
def fsMounts : List String := ["devfs", "tmpfs"]

def handleFsMounts (host : Host) : List String → State → State × Bool
  | [], jail => (jail, true)
  | fs :: rest, jail =>
      if fs = "devfs" then andThen (mountDevfs host jail) (handleFsMounts host rest)
      else if fs = "tmpfs" then andThen (mountTmpfs host jail) (handleFsMounts host rest)
      else handleFsMounts host rest jail

/-- `os.path.join(jail_root, m['source'][1:])` -/
def mountDest (path source : String) : String :=
  joinPath path (String.ofList (source.toList.drop 1))

/-- handle_mounts: the result of a mount is only logged. -/
def handleMounts (path : String) : List UserMount → State → State × Bool
  | [], jail => (jail, true)
  | mount :: rest, jail =>
      match mount.source with
      | none => (jail, false)
      | some source =>
          match mount.result with
          | .raised => (jail, false)
          | .failed => handleMounts path rest jail
          | .mounted => handleMounts path rest (jail.acquire (.mount (mountDest path source)))

/-- apply_limits raises where convert_to_rctl_rules does: what rctl_add_rule raises is caught. -/
def applyLimits (host : Host) (config : Config) (jail : State) : State × Bool :=
  (jail, (Limits.convertToRctlRules host.unicode host.maxDigits config.limits
    ("name:" ++ config.name)).isSome)

def createJail (host : Host) (config : Config) : State × Bool :=
  andThen (startJailFromJson host .fresh) fun jail =>
  andThen (createNetworking host config jail) fun jail =>
  andThen (handleFsMounts host fsMounts jail) fun jail =>
  andThen (handleMounts config.path config.mounts jail) fun jail =>
  applyLimits host config jail

end Creating

section Destroying

/-- stop_jail removes the jail by its name. -/
def stopJail (config : Config) (jail : State) : List Resource :=
  if (jail.jid = none ∨ jail.jid = some 0) ∧ config.name = "" then [] else [.jail]

def destroyEpair (jail : State) : List Resource := jail.epair.map .epair

def handleFsUmounts (jail : State) : List String → List Resource
  | [] => []
  | fs :: rest =>
      if fs = "devfs" then (if jail.devfsMounted then [.devfs] else []) ++ handleFsUmounts jail rest
      else if fs = "tmpfs" then .tmpfs :: handleFsUmounts jail rest
      else handleFsUmounts jail rest

/-- handle_unmount; a mount without source raises here too, and destroy_jail ends. -/
def handleUnmount (path : String) : List UserMount → List Resource
  | [] => []
  | mount :: rest =>
      match mount.source with
      | none => []
      | some source => .mount (mountDest path source) :: handleUnmount path rest

def handed (config : Config) (jail : State) : List Resource :=
  stopJail config jail ++ destroyEpair jail ++ handleFsUmounts jail fsMounts ++
    handleUnmount config.path config.mounts

def destroyJail (config : Config) (jail : State) : State :=
  { jail with epair := [], devfsMounted := false, released := jail.released ++ handed config jail }

end Destroying

section Starting

def registerJailNetwork : List Network → Bool
  | [] => true
  | first :: rest =>
      match first.driver with
      | none => false
      | some driver => driver = "host" || (first :: rest).all Network.registered

def registerPorts (config : Config) : Bool :=
  !config.ports || config.networks.all Network.portsRegistered

/-- What start_container returns, if it does in the daemon: the child of rfork leaves through
`exec` or `exit`, and what the handler itself raises goes to the caller. -/
structure Outcome where
  returned : Option Int
  jail : State
  deriving DecidableEq, Repr

def exceptHandler (host : Host) (config : Config) (jail : State) : Outcome :=
  ⟨if host.notifyStatusAgain then some (-1) else none, destroyJail config jail⟩

def startContainer (host : Host) (config : Config) : Outcome :=
  match createJail host config with
  | (jail, false) => exceptHandler host config jail
  | (jail, true) =>
      if jail.jid.any (· < 0) then
        if host.notifyStatus then ⟨some (-1), jail⟩ else exceptHandler host config jail
      else if registerJailNetwork config.networks && registerPorts config then
        ⟨if host.rfork = 0 then none else some host.rfork, jail⟩
      else exceptHandler host config jail

end Starting

end Dockermock.Jail
