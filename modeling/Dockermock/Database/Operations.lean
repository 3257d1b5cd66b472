import Dockermock.Library.Text
import Dockermock.Network.Subnets
import Dockermock.Database.Config

/-!
create_network, create_container and attach_network over the one connection that
all operations share. An exception leaves the uncommitted rows where they are:
nothing but an explicit `rollback()` takes them back.
-/

namespace Dockermock.Database

open Library Network

inductive Outcome where
  | returned (id : Nat)
  | refused (message : String)
  | raised
  deriving DecidableEq, Repr

def addressText (host : Host) : IpNetwork → Nat → String
  | .v4 _, value => ipv4Text value
  | .v6 _, value => host.ipv6Text value

def usedIps (tables : Tables) (networkId : Nat) : List String :=
  (tables.containerNetworks.select fun row => row.networkId = networkId).map fun entry =>
    entry.2.ipAddress

/-- allocate_ip: the first host after the gateway whose text is not in use. -/
def allocateIp (host : Host) (subnet : IpNetwork) (used : List String) : Option (Option String) :=
  subnet.hostIter.map fun hosts =>
    (hosts.tail.map (addressText host subnet)).find? fun text => text ∉ used

/-- get_free_ip_for_network. Nothing where it raises: no such row, a subnet that
is no network, or a network of one address. -/
def getFreeIpForNetwork (host : Host) (tables : Tables) (networkId : Nat) :
    Option (Option String) :=
  (tables.networks.rows.get networkId).bind fun row => row.subnet.bind fun subnet =>
    allocateIp host subnet (usedIps tables networkId)

def pyStr (address : Option String) : String := address.getD "None"

/-- The rows for `executemany`, addresses being looked up before any is inserted. -/
def networkRows (host : Host) (tables : Tables) (cid : Nat) (networkIds : List Nat) :
    Option (List ContainerNetworkRow) :=
  networkIds.mapM fun networkId =>
    (getFreeIpForNetwork host tables networkId).map fun address => ⟨networkId, cid, pyStr address⟩

/-- `executemany`: the rows before the first one that is refused stay inserted. -/
def insertContainerNetworks : List ContainerNetworkRow → Tables → Tables × Bool
  | [], tables => (tables, true)
  | row :: rest, tables =>
      match tables.insertContainerNetwork row with
      | none => (tables, false)
      | some inserted => insertContainerNetworks rest inserted

def volumeId (volumes : Table VolumeRow) (source : String) : Option Nat :=
  (volumes.select fun row => row.name = source).head?.map Prod.fst

def linkContainerVolumes (host : Host) (cid : Nat) : List Mount → Tables → Tables × Bool
  | [], tables => (tables, true)
  | mount :: rest, tables =>
      if mount.type ≠ "volume" then linkContainerVolumes host cid rest tables
      else if host.makedirs mount.source = false then (tables, false)
      else
        let ensured := { tables with volumes := Tables.ensureVolume tables.volumes mount.source }
        match volumeId ensured.volumes mount.source with
        | none => (ensured, false)
        | some id =>
            match ensured.insertVolumeContainer ⟨id, cid⟩ with
            | none => (ensured, false)
            | some linked => linkContainerVolumes host cid rest linked

/-- create_dataset: without an image dataset its own error message raises. -/
def createDataset (host : Host) (imageGid gid : String) : CloneResult :=
  if host.getDataset imageGid then host.cloneDataset imageGid gid else .raised

/-- Everything between insert_container and the outcome of the clone. -/
def linkContainer (host : Host) (accepted : Accepted) (cid : Nat) (tables : Tables) :
    Tables × Bool :=
  match networkRows host tables cid accepted.networkIds with
  | none => (tables, false)
  | some rows =>
      match insertContainerNetworks rows tables with
      | (networked, false) => (networked, false)
      | (networked, true) => linkContainerVolumes host cid accepted.row.config.mounts networked

def createAccepted (host : Host) (conn : Conn) (accepted : Accepted) : Outcome × Conn :=
  match conn.view.insertContainer accepted.row with
  | none => (.raised, conn)
  | some inserted =>
      let cid := conn.view.containers.nextId
      match linkContainer host accepted cid inserted with
      | (linked, false) => (.raised, conn.write linked)
      | (linked, true) =>
          match createDataset host accepted.imageGid accepted.row.gid with
          | .raised => (.raised, conn.write linked)
          | .failed => (.refused Refusal.cloneFailed.message, (conn.write linked).rollback)
          | .cloned => (.returned cid, (conn.write linked).commit)

def createContainer (host : Host) (conn : Conn) (request : Request) : Outcome × Conn :=
  match prepare host conn.view request with
  | .refused refusal => (.refused refusal.message, conn)
  | .raised => (.raised, conn)
  | .ready accepted => createAccepted host conn accepted

/-- The subnet argument of create_network, by what `ip_network` makes of it. -/
inductive SubnetArgument where
  | absent
  | invalid
  | parsed (subnet : IpNetwork)
  deriving DecidableEq

theorem baseSubnet_strict {index : Nat} (bound : index < 256) :
    Strict (0x0A000000 + 256 * index) 24 := by
  refine ⟨by decide, by omega, ?_⟩
  have split : 0x0A000000 + 256 * index = 2 ^ (32 - 24) * (655360 + index) := by omega
  exact split ▸ Nat.dvd_mul_right _ _

def baseSubnet (index : Nat) (bound : index < 256) : IpNetwork :=
  .v4 (.strict (baseSubnet_strict bound))

def baseSubnets : List IpNetwork :=
  (List.finRange 256).map fun index => baseSubnet index.val index.isLt

/-- allocate_subnet with its default prefix; `None` cannot be unpacked. -/
def allocateSubnet (allocated : List IpNetwork) : Option IpNetwork :=
  baseSubnets.find? fun candidate => allocated.all fun net => !candidate.overlaps net

/-- The two INSERTs of create_network. Only a missing name or a name or subnet that is
taken is refused, and then without a rollback. -/
def insertSubnet (conn : Conn) (name : Option String) (subnet : IpNetwork) : Outcome × Conn :=
  match conn.view.insertAllocated subnet with
  | none => (.refused "Failed to create network", conn)
  | some allocated =>
      match name.bind fun name => allocated.insertNetwork ⟨name, some subnet⟩ with
      | none => (.refused "Failed to create network", conn.write allocated)
      | some inserted => (.returned conn.view.networks.nextId, (conn.write inserted).commit)

def createNetwork (printable : Char → Bool) (conn : Conn) (name : Option String)
    (subnet : SubnetArgument) (gateway : Option String) : Outcome × Conn :=
  if (conn.view.networks.select fun row => some row.name = name) ≠ [] then
    (.refused ((name.map (pyRepr printable)).getD "None" ++ " already exists"), conn)
  else
    match subnet with
    | .invalid => (.refused "Invalid Subnet", conn)
    | .parsed net =>
        -- A gateway that is not given is `next(hosts())`, which one address alone does not have.
        if firstGiven gateway none = none ∧ net.hostIter = none then (.raised, conn)
        else insertSubnet conn name net
    | .absent =>
        match allocateSubnet (conn.view.allocatedSubnets.rows.entries.map Prod.snd) with
        | none => (.raised, conn)
        | some net => insertSubnet conn name net

def attachNetwork (host : Host) (conn : Conn) (containerName networkName : String) :
    Outcome × Conn :=
  match (conn.view.containers.select fun row => row.name = containerName).head? with
  | none => (.refused "No such Container", conn)
  | some (cid, _) =>
      match (conn.view.networks.select fun row => row.name = networkName).head? with
      | none => (.refused "No Such Network", conn)
      | some (networkId, _) =>
          if (conn.view.containerNetworks.select
              fun row => row.containerId = cid && row.networkId = networkId) ≠ [] then
            (.refused "Network Already Present", conn)
          else
            match getFreeIpForNetwork host conn.view networkId with
            | none => (.raised, conn)
            | some none => (.refused "Failed to get free IP Address", conn.rollback)
            | some (some address) =>
                match conn.view.insertContainerNetwork ⟨networkId, cid, address⟩ with
                | none => (.refused "Failed to attach network", conn.rollback)
                | some inserted => (.returned cid, (conn.write inserted).commit)

end Dockermock.Database
