import Dockermock.Library.Table
import Dockermock.Network.Hosts

/-!
The tables of db/01_init.sql with the columns that the code reads, and the
INSERTs that their UNIQUE constraints can refuse. The status of a container, the
one column that is ever updated, is kept beside the tables, by id. Foreign keys
are declared but not enforced by the connection. A subnet column whose text is
no network is `none`; the code never takes it apart other than through
`ip_network`.
-/

namespace Dockermock.Database

open Library Network

structure Port where
  host : Int
  container : Int
  proto : Option String
  deriving DecidableEq, Repr

structure Mount where
  type : String
  source : String
  target : String
  readonly : Bool
  deriving DecidableEq, Repr

structure Config where
  command : List String
  entrypoint : List String
  env : List (String × String)
  user : Option String
  workingDir : Option String
  mounts : List Mount
  ports : List Port
  restart : String
  rm : Bool
  deriving DecidableEq, Repr

structure ContainerRow where
  name : String
  imageId : Nat
  config : Config
  project : String
  service : String
  gid : String
  deriving DecidableEq, Repr

structure NetworkRow where
  name : String
  subnet : Option IpNetwork
  deriving DecidableEq

structure ContainerNetworkRow where
  networkId : Nat
  containerId : Nat
  ipAddress : String
  deriving DecidableEq, Repr

structure VolumeRow where
  name : String
  driver : String
  path : String
  deriving DecidableEq, Repr

structure VolumeContainerRow where
  volumeId : Nat
  containerId : Nat
  deriving DecidableEq, Repr

structure ImageJson where
  command : List String
  entrypoint : List String
  path : List String
  env : List (String × String)
  user : Option String
  workingDir : Option String
  volumes : Option (List (String × Bool))
  deriving DecidableEq, Repr

structure ImageRow where
  name : String
  tag : String
  json : Option ImageJson
  gid : String
  deriving DecidableEq, Repr

structure Tables where
  containers : Table ContainerRow
  networks : Table NetworkRow
  allocatedSubnets : Table IpNetwork
  containerNetworks : Table ContainerNetworkRow
  volumes : Table VolumeRow
  volumeContainers : Table VolumeContainerRow
  images : Table ImageRow

abbrev Conn := Connection Tables

namespace Tables

/-- A database in which only images and volumes have been made so far. -/
def fresh (images : Table ImageRow) (volumes : Table VolumeRow) : Tables :=
  ⟨.empty, .empty, .empty, .empty, volumes, .empty, images⟩

def insertContainer (tables : Tables) (row : ContainerRow) : Option Tables :=
  (tables.containers.insertUnless (fun other => other.name = row.name) row).map fun containers =>
    { tables with containers := containers }

def insertNetwork (tables : Tables) (row : NetworkRow) : Option Tables :=
  (tables.networks.insertUnless (fun other => other.name = row.name) row).map fun networks =>
    { tables with networks := networks }

def insertAllocated (tables : Tables) (subnet : IpNetwork) : Option Tables :=
  (tables.allocatedSubnets.insertUnless (fun other => other = subnet) subnet).map fun allocated =>
    { tables with allocatedSubnets := allocated }

def insertContainerNetwork (tables : Tables) (row : ContainerNetworkRow) : Option Tables :=
  (tables.containerNetworks.insertUnless
    (fun other => other.networkId = row.networkId && other.containerId = row.containerId) row).map
    fun containerNetworks => { tables with containerNetworks := containerNetworks }

def insertVolumeContainer (tables : Tables) (row : VolumeContainerRow) : Option Tables :=
  (tables.volumeContainers.insertUnless (fun other => other = row) row).map fun volumeContainers =>
    { tables with volumeContainers := volumeContainers }

/-- INSERT OR IGNORE INTO volumes -/
def ensureVolume (volumes : Table VolumeRow) (source : String) : Table VolumeRow :=
  (volumes.insertUnless (fun other => other.name = source) ⟨source, "local", source⟩).getD
    volumes.skip

end Tables

end Dockermock.Database
