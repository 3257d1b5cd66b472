import Dockermock.Library.Stream
import Dockermock.Pf.Anchor
import Dockermock.PfUtil.PortRules

/-!
start_network, add_rdr_ports and stop_jail on the rulesets that pf holds. pf.py makes
C strings and filter_addr's of the texts, pf_util builds the rules and takes them out.
Every ioctl succeeds. Whether DIOCGETRULESETS finds an anchor that has no rules is
left open: it may be there since an earlier call, and pf may have dropped it again.
-/

namespace Dockermock.Pf.Rulesets

open Library Database PfUtil

variable (inetPton6 : CString → Option (List UInt8))

section Wrappers

/-- `text.encode()`, up to the null where C stops to read. -/
def cString (text : String) : CString := (encode text).takeWhile (· ≠ 0)

def maxPathLen : Nat := 1024

/-- A FilterAddr from a text; one that does not fit into the array raises. -/
def filterAddr (text : String) : Option FilterAddr :=
  let chars := text.toList
  let inner := String.ofList chars.tail.dropLast
  let filter : AddrType × String :=
    if chars.head? = some '(' ∧ chars.getLast? = some ')' then (.dynIftl, inner)
    else if chars.head? = some '<' ∧ chars.getLast? = some '>' then (.table, inner)
    else (.addrMask, text)
  if (encode filter.2).length ≤ maxPathLen then some ⟨some filter.1, cString filter.2⟩ else none

def ipProtocol : Proto → Int
  | .tcp => 6
  | .udp => 17

/-- What pfctl_append_rdr_rule_generic and pfctl_append_nat_rule_generic are called with,
beside the anchor. -/
structure PfctlRule where
  ifName : String
  src : String
  dst : String
  rdrAddress : List String
  rdrPort : Int
  srcPort : Int
  dstPort : Int
  af : Int
  quick : Int

def PfctlRule.arguments (rule : PfctlRule) : Option Arguments := do
  let src ← filterAddr rule.src
  let dst ← filterAddr rule.dst
  return {
    ifName := some (cString rule.ifName)
    src := some src
    srcPort := cInt rule.srcPort
    dst := some dst
    dstPort := cInt rule.dstPort
    rdr := rule.rdrAddress.map cString
    dPort := cInt rule.rdrPort
    proto := cInt rule.af }

/-- An anchor with rules is there, whatever the answer for one without. -/
def rulesetExists (answer : Bool) (anchor : PfUtil.Anchor) : Bool := answer || anchor ≠ ⟨[], [], []⟩

/-- Nothing where it raises. A rule for a new anchor is committed as its whole ruleset. -/
def pfctlAppendRdrRuleGeneric (answer : Bool) (anchor : PfUtil.Anchor) (rule : PfctlRule) :
    Option PfUtil.Anchor :=
  rule.arguments.bind fun args =>
    match appendRdrRuleGeneric inetPton6 (rulesetExists answer anchor) args (cInt rule.quick) with
    | .error _ => none
    | .ok installed =>
        some { anchor with rdr := if rulesetExists answer anchor then anchor.rdr ++ [installed]
          else [installed] }

def pfctlAppendNatRuleGeneric (answer : Bool) (anchor : PfUtil.Anchor) (rule : PfctlRule) :
    Option PfUtil.Anchor :=
  rule.arguments.bind fun args =>
    match appendNatRuleGeneric inetPton6 (rulesetExists answer anchor) args (cInt rule.quick) with
    | .error _ => none
    | .ok installed =>
        some { anchor with nat := if rulesetExists answer anchor then anchor.nat ++ [installed]
          else [installed] }

/-- Whether it returns, which it does for the code 0 alone, and what it leaves. -/
def pfctlRemoveRdrPortRule (answer : Bool) (anchor : PfUtil.Anchor) (port : Int) (proto : Proto) :
    Option (Bool × PfUtil.Anchor) :=
  (PfUtil.removeRdrPortRule (cInt port) (ipProtocol proto)
    (if rulesetExists answer anchor then some anchor else none)).map
    fun done => (done.1 = 0, done.2.getD anchor)

def pfctlRemoveNatPortRule (answer : Bool) (anchor : PfUtil.Anchor) (port : Int) (proto : Proto) :
    Option (Bool × PfUtil.Anchor) :=
  (PfUtil.removeNatPortRule (cInt port) (ipProtocol proto)
    (if rulesetExists answer anchor then some anchor else none)).map
    fun done => (done.1 = 0, done.2.getD anchor)

end Wrappers

section Methods

/-- start_network, which asks for `quick` only where the bridge is there already. -/
def startNetwork (answer bridge : Bool) (anchor : PfUtil.Anchor) (name subnet gateway : String) :
    PfUtil.Anchor :=
  if name = "host" then anchor
  else
    (pfctlAppendRdrRuleGeneric inetPton6 answer anchor
      ⟨name, subnet, gateway, ["127.0.0.11/32"], 53, -1, 53, ipProtocol .udp, if bridge then 1
        else 0⟩).getD anchor

def appendPort (answer : Bool) (network : String) (rdr : List String) (anchor : PfUtil.Anchor)
    (port : Port) : Option PfUtil.Anchor :=
  (pfctlAppendRdrRuleGeneric inetPton6 answer anchor
    ⟨"!" ++ network, "0.0.0.0/0.0.0.0", "(self)", rdr, port.container, -1, port.host,
      ipProtocol (ipProto port), 1⟩).map fun redirected =>
    let translated := rdr.head?.bind fun address =>
      pfctlAppendNatRuleGeneric inetPton6 answer redirected
        ⟨network, "(lo0)", address, [network], -1, -1, port.container, ipProtocol (ipProto port), 0⟩
    translated.getD redirected

/-- The loop of add_rdr_ports, which ends with a redirect that raises. Only its first call can find
an anchor without rules. -/
def appendPorts (answer : Bool) (network : String) (rdr : List String) :
    List Port → PfUtil.Anchor → PfUtil.Anchor
  | [], anchor => anchor
  | port :: rest, anchor =>
      (appendPort inetPton6 answer network rdr anchor port).elim anchor fun after =>
        appendPorts answer network rdr rest after

end Methods

end Dockermock.Pf.Rulesets

namespace Dockermock.Pf

open Library Database

/-- The rulesets under cni-rdr, by network. -/
abbrev Rulesets := String → PfUtil.Anchor

namespace Rulesets

variable (inetPton6 : PfUtil.CString → Option (List UInt8))

def initial : Rulesets := fun _ => ⟨[], [], []⟩

def addRdrPorts (site : Site) (answer : Bool) (rulesets : Rulesets) (id : Nat) (network : String)
    (rdr : List String) : Rulesets :=
  if network = "" then rulesets
  else Function.update rulesets network
    (appendPorts inetPton6 answer network rdr (site.ports id) (rulesets network))

/-- The loops of stop_jail, which leave at the first call that raises. The calls are counted
for the answers of DIOCGETRULESETS. -/
def removePorts (answers : Nat → Bool) : Nat → List (Port × String) → Rulesets → Option Rulesets
  | _, [], rulesets => some rulesets
  | calls, (port, network) :: rest, rulesets =>
      (pfctlRemoveRdrPortRule (answers calls) (rulesets network) port.host (ipProto port)).bind
          fun redirected =>
        if redirected.1 then
          (pfctlRemoveNatPortRule (answers (calls + 1)) redirected.2 port.container
              (ipProto port)).bind fun translated =>
            let after := Function.update rulesets network translated.2
            if translated.1 then removePorts answers (calls + 2) rest after else some after
        else some (Function.update rulesets network redirected.2)

def stopJail (site : Site) (answers : Nat → Bool) (rulesets : Rulesets) (id : Nat) (jail : Jail) :
    Option Rulesets :=
  if jail.reached then
    removePorts answers 0 (removalCalls (site.ports id) (site.networks id)) rulesets
  else some rulesets

/-- `bridge` is what check_interface_exist says. -/
inductive Call where
  | startNetwork (answer bridge : Bool) (name subnet gateway : String)
  | addRdrPorts (answer : Bool) (id : Nat) (network : String) (rdr : List String)
  | stopJail (answers : Nat → Bool) (id : Nat) (jail : Jail)

def step (site : Site) (rulesets : Rulesets) : Call → Option Rulesets
  | .startNetwork answer bridge name subnet gateway =>
      some (Function.update rulesets name
        (startNetwork inetPton6 answer bridge (rulesets name) name subnet gateway))
  | .addRdrPorts answer id network rdr =>
      some (addRdrPorts inetPton6 site answer rulesets id network rdr)
  | .stopJail answers id jail => stopJail site answers rulesets id jail

end Rulesets

end Dockermock.Pf
