import Mathlib.Logic.Function.Basic
import Dockermock.Library.Lists
import Dockermock.Database.Schema
import Dockermock.Lifecycle.Server

/-!
The pf anchors cni-rdr/<network>: what start_network and add_rdr_ports append to
their redirect and translation rules, and what stop_jail removes. Every ioctl
succeeds, and pf appends at the tail and removes by position. A rule also says
for whom it was appended, which the code neither stores nor reads.
-/

namespace Dockermock.Pf

open Library Database

inductive Proto where
  | tcp | udp
  deriving DecidableEq, Repr

inductive Owner where
  | dns
  | container (id : Nat)
  deriving DecidableEq, Repr

structure Rule where
  owner : Owner
  ifName : String
  src : String
  dst : String
  pool : List String
  dstPort : Nat
  proto : Proto
  deriving DecidableEq, Repr

structure Anchor where
  rdr : List Rule
  nat : List Rule
  deriving DecidableEq, Repr

abbrev Anchors := String → Anchor

/-- An `int` argument as ctypes passes it. -/
def cInt (value : Int) : Int := (BitVec.ofInt 32 value).toInt

/-- What is left of a port in the 16 bits of `htons`. -/
def port16 (value : Int) : Nat := (cInt value % 65536).toNat

/-- The destination port of a new rule. A port that is not positive is not set. -/
def installedPort (value : Int) : Nat := if 0 < cInt value then port16 value else 0

def ipProto (port : Port) : Proto := if port.proto = some "udp" then .udp else .tcp

section Appending

variable (inetPton : String → Bool)

/-- fill_pf_addr_and_mask, up to whether it succeeds: a buffer of 46 bytes holds the
text in front of the slash. -/
def fillPfAddrAndMask (cidr : String) : Bool :=
  let ip := cidr.toList.takeWhile (· ≠ '/')
  if '/' ∈ cidr.toList then ip.length < 46 && inetPton (String.ofList ip)
  else inetPton (String.ofList (ip.take 45))

/-- A source or destination: an interface, a table, or an address with its negation. -/
def filterAddrParses (text : String) : Bool :=
  let chars := text.toList
  if chars.head? = some '(' ∧ chars.getLast? = some ')' then true
  else if chars.head? = some '<' ∧ chars.getLast? = some '>' then true
  else if chars.head? = some '!' then fillPfAddrAndMask inetPton (String.ofList chars.tail)
  else fillPfAddrAndMask inetPton text

/-- append_rdr_rule_generic; nothing where it fails. For an anchor that does not exist
yet the rule becomes its only one, which is the same. -/
def appendRdrRule (anchor : Anchor) (rule : Rule) : Option Anchor :=
  if rule.pool.all (fillPfAddrAndMask inetPton) && filterAddrParses inetPton rule.src &&
      filterAddrParses inetPton rule.dst then
    some { anchor with rdr := anchor.rdr ++ [rule] }
  else none

/-- append_nat_rule_generic: its pool holds interfaces, which are not parsed. -/
def appendNatRule (anchor : Anchor) (rule : Rule) : Option Anchor :=
  if filterAddrParses inetPton rule.src && filterAddrParses inetPton rule.dst then
    some { anchor with nat := anchor.nat ++ [rule] }
  else none

def dnsRule (name subnet gateway : String) : Rule :=
  ⟨.dns, name, subnet, gateway, ["127.0.0.11/32"], installedPort 53, .udp⟩

/-- start_network: one more rule for DNS, whether the bridge was there or not. -/
def startNetwork (anchor : Anchor) (name subnet gateway : String) : Anchor :=
  if name = "host" then anchor
  else (appendRdrRule inetPton anchor (dnsRule name subnet gateway)).getD anchor

def rdrRule (id : Nat) (network : String) (rdr : List String) (port : Port) : Rule :=
  ⟨.container id, "!" ++ network, "0.0.0.0/0.0.0.0", "(self)", rdr,
    installedPort port.host, ipProto port⟩

def natRule (id : Nat) (network address : String) (port : Port) : Rule :=
  ⟨.container id, network, "(lo0)", address, [network], installedPort port.container, ipProto port⟩

/-- The loop of add_rdr_ports. A redirect that fails raises; a translation that fails,
or that has no address, is only logged. -/
def appendPorts (id : Nat) (network : String) (rdr : List String) : List Port → Anchor → Anchor
  | [], anchor => anchor
  | port :: rest, anchor =>
      match appendRdrRule inetPton anchor (rdrRule id network rdr port) with
      | none => anchor
      | some redirected =>
          let translated := rdr.head?.bind fun address =>
            appendNatRule inetPton redirected (natRule id network address port)
          appendPorts id network rdr rest (translated.getD redirected)

end Appending

/-- The containers as the database has them, and the text conversion of libc. -/
structure Site where
  ports : Nat → List Port
  networks : Nat → List String
  distinct : ∀ id, (networks id).Nodup
  inetPton : String → Bool

def addRdrPorts (site : Site) (anchors : Anchors) (id : Nat) (network : String)
    (rdr : List String) : Anchors :=
  if network = "" then anchors
  else Function.update anchors network
    (appendPorts site.inetPton id network rdr (site.ports id) (anchors network))

inductive Action where
  | startNetwork (name subnet gateway : String)
  | addRdrPorts (id : Nat) (network : String) (rdr : List String)
  deriving DecidableEq, Repr

def step (site : Site) (anchors : Anchors) : Action → Option Anchors
  | .startNetwork name subnet gateway =>
      some (Function.update anchors name
        (startNetwork site.inetPton (anchors name) name subnet gateway))
  | .addRdrPorts id network rdr => some (addRdrPorts site anchors id network rdr)

def noRules : Anchors := fun _ => ⟨[], []⟩

section Removing

def hits (value : Int) (proto : Proto) (rule : Rule) : Bool :=
  rule.dstPort = port16 value && rule.proto = proto

/-- Nothing where the 17th position is written behind the end of `rule_positions`. When
all rules match, clear_ruleset takes the translations too. -/
def removeRdrPortRule (anchor : Anchor) (value : Int) (proto : Proto) : Option Anchor :=
  let positions := positionsFrom (hits value proto) 0 anchor.rdr
  if 16 < positions.length then none
  else if anchor.rdr.length = positions.length then some ⟨[], []⟩
  else some { anchor with rdr := removePositions positions 0 anchor.rdr }

def removeNatPortRule (anchor : Anchor) (value : Int) (proto : Proto) : Option Anchor :=
  let positions := positionsFrom (hits value proto) 0 anchor.nat
  if 16 < positions.length then none
  else if anchor.nat.length = positions.length then some { anchor with nat := [] }
  else some { anchor with nat := removePositions positions 0 anchor.nat }

def removePort (anchor : Anchor) (port : Port) : Option Anchor :=
  (removeRdrPortRule anchor port.host (ipProto port)).bind fun redirected =>
    removeNatPortRule redirected port.container (ipProto port)

/-- The two nested loops of stop_jail as the list of their calls. -/
def removalCalls (ports : List Port) (networks : List String) : List (Port × String) :=
  ports.flatMap fun port => networks.map fun network => (port, network)

def removePorts : List (Port × String) → Anchors → Option Anchors
  | [], anchors => some anchors
  | (port, network) :: rest, anchors =>
      (removePort (anchors network) port).bind fun anchor =>
        removePorts rest (Function.update anchors network anchor)

/-- What stop_jail meets before it comes to the rules; `kill` says which pids can be
signalled. -/
structure Jail where
  status : Lifecycle.Status
  pidFile : Lifecycle.PidFile
  kill : Int → Bool

/-- stop_jail gets to the rules: without a jail.pid its `open` raises, and `os.kill` raises
for a process that is gone. -/
def Jail.reached (jail : Jail) : Bool :=
  jail.status = .running &&
    match jail.pidFile with
    | .absent => false
    | .unreadable => true
    | .pid pid => jail.kill pid

/-- stop_jail, as far as the rules go. -/
def stopJail (site : Site) (anchors : Anchors) (id : Nat) (jail : Jail) : Option Anchors :=
  if jail.reached then removePorts (removalCalls (site.ports id) (site.networks id)) anchors
    else some anchors

end Removing

end Dockermock.Pf
