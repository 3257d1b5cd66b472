import Dockermock.PfUtil.Cidr

/-!
The rules that the generic functions build, field by field. Each of the two
append functions hands its arguments to the add function if the anchor does not
exist, and has a copy of its construction otherwise. A rule holds what these
functions set; everything else is zero. Ports are in the order of the host.
-/

namespace Dockermock.PfUtil

section Addresses

abbrev Buffer (size : Nat) := Vector UInt8 size

def write {size : Nat} (buffer : Buffer size) (offset : Nat) (bytes : List UInt8) : Buffer size :=
  .ofFn fun place =>
    if offset ≤ place ∧ place < offset + bytes.length then bytes.getD (place - offset) 0
      else buffer[place]

def strlcpy {size : Nat} (buffer : Buffer size) (text : CString) (dstsize : Nat) : Buffer size :=
  write buffer 0 (text.take (dstsize - 1) ++ [0])

def bytesOf (word : BitVec 32) : List UInt8 :=
  [24, 16, 8, 0].map fun shift => (word >>> shift).toNat.toUInt8

inductive AddrType where
  | addrMask | dynIftl | table
  deriving DecidableEq, Repr

/-- pf_addr_wrap. The union `v` holds address and mask of sixteen bytes each; the names of
interfaces and tables lie over them. -/
structure PfAddrWrap where
  v : Buffer 32
  type : AddrType
  iflags : UInt8
  deriving DecidableEq, Repr

def PfAddrWrap.zero : PfAddrWrap := ⟨.replicate 32 0, .addrMask, 0⟩

/-- What fill_pf_addr_and_mask leaves in `out`. -/
def PfAddrWrap.fill (out : PfAddrWrap) : PfAddr → PfAddrWrap
  | .v4 addr mask =>
      { out with v := write (write out.v 0 (bytesOf addr)) 16 (bytesOf mask), iflags := 1 }
  | .v6 addr mask => { out with v := write (write out.v 0 addr) 16 mask }

/-- The name of an interface or a table, and the first word of the mask. -/
def PfAddrWrap.named (out : PfAddrWrap) (type : AddrType) (name : CString) (dstsize : Nat) :
    PfAddrWrap :=
  { out with v := write (strlcpy out.v name dstsize) 16 [0xFF, 0xFF, 0xFF, 0xFF], type := type }

inductive PortOp where
  | none | eq
  deriving DecidableEq, Repr

structure PfRuleAddr where
  addr : PfAddrWrap
  port : BitVec 16
  neg : Bool
  portOp : PortOp
  deriving DecidableEq, Repr

def PfRuleAddr.zero : PfRuleAddr := ⟨.zero, 0, false, .none⟩

/-- A port that is not positive is not compared. -/
def PfRuleAddr.setPort (addr : PfRuleAddr) (port : Int) : PfRuleAddr :=
  if 0 < port then { addr with portOp := .eq, port := .ofInt 16 port }
    else { addr with portOp := .none }

/-- A filter_addr; no type stands for one that the functions do not know. -/
structure FilterAddr where
  type : Option AddrType
  addr : CString
  deriving DecidableEq, Repr

def FilterAddr.negated (filter : FilterAddr) : Bool := filter.addr.head? = some 33

def FilterAddr.text (filter : FilterAddr) : CString :=
  if filter.negated then filter.addr.tail else filter.addr

variable (inetPton6 : CString → Option (List UInt8))

/-- The source or destination of a rule, or what the function returns instead. -/
def setFilter (invalid : Int) (addr : PfRuleAddr) : Option FilterAddr → Except Int PfRuleAddr
  | none => .ok addr
  | some filter =>
      match filter.type with
      | some .addrMask =>
          match fillPfAddrAndMask inetPton6 filter.text with
          | none => .error (-1)
          | some filled =>
              .ok { addr with
                addr := { addr.addr.fill filled with type := .addrMask }, neg := filter.negated }
      | some .dynIftl =>
          .ok { addr with addr := addr.addr.named .dynIftl filter.text 16, neg := filter.negated }
      | some .table =>
          .ok { addr with addr := addr.addr.named .table filter.text 32, neg := filter.negated }
      | none => .error invalid

/-- The addresses that DIOCADDADDR takes for a redirect; the loop fills the same paddr each time. -/
def rdrPool (paddr : PfAddrWrap) : List CString → Except Int (List PfAddrWrap)
  | [] => .ok []
  | text :: rest =>
      match fillPfAddrAndMask inetPton6 text with
      | none => .error 1
      | some filled =>
          let paddr := { paddr with type := .addrMask }.fill filled
          (rdrPool paddr rest).map (paddr :: ·)

/-- The addresses for a translation, which are interfaces. -/
def natPool (paddr : PfAddrWrap) : List CString → List PfAddrWrap
  | [] => []
  | name :: rest =>
      let paddr := paddr.named .dynIftl name 16
      paddr :: natPool paddr rest

end Addresses

section Construction

inductive RuleAction where
  | pass | nat | rdr
  deriving DecidableEq, Repr

inductive Af where
  | unspec | inet
  deriving DecidableEq, Repr

inductive Direction where
  | inOut
  deriving DecidableEq, Repr

inductive PoolOpts where
  | none | roundRobin
  deriving DecidableEq, Repr

structure PfRule where
  action : RuleAction
  af : Af
  proto : UInt8
  direction : Direction
  natpass : UInt8
  rtableid : Int
  quick : UInt8
  ifname : Buffer 16
  ifnot : Bool
  src : PfRuleAddr
  dst : PfRuleAddr
  proxyPort : BitVec 16 × BitVec 16
  opts : PoolOpts
  deriving DecidableEq, Repr

def PfRule.zero : PfRule :=
  ⟨.pass, .unspec, 0, .inOut, 0, 0, 0, .replicate 16 0, false, .zero, .zero, (0, 0), .none⟩

/-- An int in a field of eight bits. -/
def byte (value : Int) : UInt8 := .ofBitVec (.ofInt 8 value)

def PfRule.setIfName (rule : PfRule) : Option CString → PfRule
  | none => rule
  | some [] => rule
  | some (33 :: name) => { rule with ifname := strlcpy rule.ifname name 15, ifnot := true }
  | some name => { rule with ifname := strlcpy rule.ifname name 16 }

/-- What the four functions take beside the anchor and `quick`. -/
structure Arguments where
  ifName : Option CString
  src : Option FilterAddr
  srcPort : Int
  dst : Option FilterAddr
  dstPort : Int
  rdr : List CString
  dPort : Int
  proto : Int
  deriving DecidableEq, Repr

structure Installed where
  rule : PfRule
  pool : List PfAddrWrap
  deriving DecidableEq, Repr

variable (inetPton6 : CString → Option (List UInt8))

def addRdrRuleGeneric (args : Arguments) : Except Int Installed := do
  let pool ← rdrPool inetPton6 .zero args.rdr
  let r := { PfRule.zero with
    action := .rdr, af := .inet, proto := byte args.proto, direction := .inOut, natpass := 1,
      rtableid := -1 }
  let r := r.setIfName args.ifName
  let r := { r with dst := r.dst.setPort args.dstPort }
  let r := { r with src := r.src.setPort args.srcPort }
  let r := { r with proxyPort := (.ofInt 16 args.dPort, r.proxyPort.2), opts := .roundRobin }
  let src ← setFilter inetPton6 (-11) r.src args.src
  let dst ← setFilter inetPton6 (-1) r.dst args.dst
  return ⟨{ r with src := src, dst := dst }, pool⟩

def appendRdrRuleGeneric (rulesetExists : Bool) (args : Arguments) (quick : Int) :
    Except Int Installed := do
  if rulesetExists = false then
    return ← addRdrRuleGeneric inetPton6 args
  let pool ← rdrPool inetPton6 .zero args.rdr
  let r := { PfRule.zero with
    action := .rdr, af := .inet, proto := byte args.proto, direction := .inOut, natpass :=
      1, rtableid := -1,
    quick := byte quick }
  let r := r.setIfName args.ifName
  let r := { r with dst := r.dst.setPort args.dstPort }
  let r := { r with src := r.src.setPort args.srcPort }
  let r := { r with proxyPort := (.ofInt 16 args.dPort, r.proxyPort.2), opts := .roundRobin }
  let src ← setFilter inetPton6 (-11) r.src args.src
  let dst ← setFilter inetPton6 (-1) r.dst args.dst
  return ⟨{ r with src := src, dst := dst }, pool⟩

def addNatRuleGeneric (args : Arguments) : Except Int Installed := do
  let pool := natPool .zero args.rdr
  let r := { PfRule.zero with
    action := .nat, af := .inet, proto := byte args.proto, direction := .inOut, rtableid := -1 }
  let r := r.setIfName args.ifName
  let r := { r with dst := r.dst.setPort args.dstPort }
  let r := { r with src := r.src.setPort args.srcPort }
  let r := { r with proxyPort := (50001, 65535), opts := .roundRobin }
  let src ← setFilter inetPton6 (-11) r.src args.src
  let dst ← setFilter inetPton6 (-1) r.dst args.dst
  return ⟨{ r with src := src, dst := dst }, pool⟩

def appendNatRuleGeneric (rulesetExists : Bool) (args : Arguments) (quick : Int) :
    Except Int Installed := do
  if rulesetExists = false then
    return ← addNatRuleGeneric inetPton6 args
  let pool := natPool .zero args.rdr
  let r := { PfRule.zero with
    action := .nat, af := .inet, proto := byte args.proto, direction := .inOut, rtableid := -1,
      quick := byte quick }
  let r := r.setIfName args.ifName
  let r := { r with dst := r.dst.setPort args.dstPort }
  let r := { r with src := r.src.setPort args.srcPort }
  let r := { r with proxyPort := (50001, 65535), opts := .roundRobin }
  let src ← setFilter inetPton6 (-11) r.src args.src
  let dst ← setFilter inetPton6 (-1) r.dst args.dst
  return ⟨{ r with src := src, dst := dst }, pool⟩

end Construction

section Copies

variable (inetPton6 : CString → Option (List UInt8))

def Installed.withQuick (installed : Installed) (quick : UInt8) : Installed :=
  { installed with rule := { installed.rule with quick := quick } }

theorem setIfName_src (rule : PfRule) (ifName : Option CString) :
    (rule.setIfName ifName).src = rule.src := by
  unfold PfRule.setIfName
  split <;> rfl

theorem setIfName_dst (rule : PfRule) (ifName : Option CString) :
    (rule.setIfName ifName).dst = rule.dst := by
  unfold PfRule.setIfName
  split <;> rfl

theorem setIfName_quick (rule : PfRule) (ifName : Option CString) :
    (rule.setIfName ifName).quick = rule.quick := by
  unfold PfRule.setIfName
  split <;> rfl

theorem setIfName_withQuick (rule : PfRule) (ifName : Option CString) (quick : UInt8) :
    PfRule.setIfName { rule with quick := quick } ifName =
        { rule.setIfName ifName with quick := quick } := by
  unfold PfRule.setIfName
  split <;> rfl

theorem appendRdrRuleGeneric_exists (args : Arguments) (quick : Int) :
    appendRdrRuleGeneric inetPton6 true args quick =
      (addRdrRuleGeneric inetPton6 args).map fun installed => installed.withQuick (byte quick) := by
  simp only [appendRdrRuleGeneric, addRdrRuleGeneric, setIfName_src, setIfName_dst]
  have name := setIfName_withQuick { PfRule.zero with
    action := .rdr, af := .inet, proto := byte args.proto, direction := .inOut, natpass := 1,
      rtableid := -1 }
    args.ifName (byte quick)
  dsimp only at name
  rw [name]
  cases rdrPool inetPton6 .zero args.rdr with
  | error code => rfl
  | ok pool =>
      cases setFilter inetPton6 (-11) (PfRule.zero.src.setPort args.srcPort) args.src with
      | error code => rfl
      | ok src =>
          cases setFilter inetPton6 (-1) (PfRule.zero.dst.setPort args.dstPort) args.dst with
          | error code => rfl
          | ok dst => rfl

theorem appendNatRuleGeneric_exists (args : Arguments) (quick : Int) :
    appendNatRuleGeneric inetPton6 true args quick =
      (addNatRuleGeneric inetPton6 args).map fun installed => installed.withQuick (byte quick) := by
  simp only [appendNatRuleGeneric, addNatRuleGeneric, setIfName_src, setIfName_dst]
  have name := setIfName_withQuick { PfRule.zero with
    action := .nat, af := .inet, proto := byte args.proto, direction := .inOut, rtableid := -1 }
    args.ifName (byte quick)
  dsimp only at name
  rw [name]
  cases setFilter inetPton6 (-11) (PfRule.zero.src.setPort args.srcPort) args.src with
  | error code => rfl
  | ok src =>
      cases setFilter inetPton6 (-1) (PfRule.zero.dst.setPort args.dstPort) args.dst with
      | error code => rfl
      | ok dst => rfl

theorem appendRdrRuleGeneric_new (args : Arguments) (quick : Int) :
    appendRdrRuleGeneric inetPton6 false args quick = addRdrRuleGeneric inetPton6 args := by
  simp only [appendRdrRuleGeneric, if_true]

theorem appendNatRuleGeneric_new (args : Arguments) (quick : Int) :
    appendNatRuleGeneric inetPton6 false args quick = addNatRuleGeneric inetPton6 args := by
  simp only [appendNatRuleGeneric, if_true]

def BuiltFrom {Built : Type} (accepted : Prop) (built : Except Int Built) : Prop :=
  (accepted ∧ ∃ whole, built = .ok whole) ∨ (¬ accepted ∧ ∃ code, built = .error code)

theorem BuiltFrom.bind {First Built : Type} {accepted later : Prop} {first : Except Int First}
    {next : First → Except Int Built} (start : BuiltFrom accepted first)
    (rest : ∀ value, BuiltFrom later (next value)) :
    BuiltFrom (accepted ∧ later) (first >>= next) := by
  rcases start with ⟨known, value, rfl⟩ | ⟨unknown, code, rfl⟩
  · rw [and_iff_right known]
    exact rest value
  · exact .inr ⟨fun both => unknown both.1, code, rfl⟩

theorem BuiltFrom.finish {First Built : Type} {accepted : Prop} {first : Except Int First}
    (start : BuiltFrom accepted first) (whole : First → Built) :
    BuiltFrom accepted (first >>= fun value => pure (whole value)) := by
  rcases start with ⟨known, value, rfl⟩ | ⟨unknown, code, rfl⟩
  · exact .inl ⟨known, whole value, rfl⟩
  · exact .inr ⟨unknown, code, rfl⟩

theorem ok_of_bind {First Built : Type} {first : Except Int First} {next : First → Except Int Built}
    {whole : Built} (done : first >>= next = .ok whole) : ∃ value, next value = .ok whole := by
  cases first with
  | error code => cases done
  | ok value => exact ⟨value, done⟩

/-- A filter has a known type, and an address that can be read where it is one. -/
def Readable : Option FilterAddr → Prop
  | none => True
  | some filter =>
      filter.type ≠ none ∧
        (filter.type = some .addrMask → fillPfAddrAndMask inetPton6 filter.text ≠ none)

theorem setFilter_built (invalid : Int) (addr : PfRuleAddr) (filter : Option FilterAddr) :
    BuiltFrom (Readable inetPton6 filter) (setFilter inetPton6 invalid addr filter) := by
  cases filter with
  | none => simp [BuiltFrom, setFilter, Readable]
  | some filter =>
      rcases filter with ⟨_ | type, text⟩
      · simp [BuiltFrom, setFilter, Readable]
      · cases type with
        | addrMask =>
            simp only [BuiltFrom, setFilter, Readable]
            cases fillPfAddrAndMask inetPton6 _ <;> simp
        | dynIftl => simp [BuiltFrom, setFilter, Readable]
        | table => simp [BuiltFrom, setFilter, Readable]

theorem rdrPool_built (paddr : PfAddrWrap) (rdr : List CString) :
    BuiltFrom (∀ text ∈ rdr, fillPfAddrAndMask inetPton6 text ≠ none)
        (rdrPool inetPton6 paddr rdr) := by
  induction rdr generalizing paddr with
  | nil => simp [BuiltFrom, rdrPool]
  | cons text rest ih =>
      rw [List.forall_mem_cons, rdrPool]
      cases fillPfAddrAndMask inetPton6 text with
      | none => simp [BuiltFrom]
      | some filled =>
          rcases ih ({ paddr with type := .addrMask }.fill filled) with ⟨readable, pool, filled⟩ |
            ⟨unreadable, code, failed⟩
          · refine .inl ⟨⟨by simp, readable⟩, ?_⟩
            simp [filled, Except.map]
          · refine .inr ⟨fun both => unreadable both.2, ?_⟩
            simp [failed, Except.map]

structure RdrAccepted (args : Arguments) : Prop where
  rdr : ∀ text ∈ args.rdr, fillPfAddrAndMask inetPton6 text ≠ none
  src : Readable inetPton6 args.src
  dst : Readable inetPton6 args.dst

structure NatAccepted (args : Arguments) : Prop where
  src : Readable inetPton6 args.src
  dst : Readable inetPton6 args.dst

theorem addRdrRuleGeneric_built (args : Arguments) :
    BuiltFrom (RdrAccepted inetPton6 args) (addRdrRuleGeneric inetPton6 args) := by
  have parts : RdrAccepted inetPton6 args ↔
    (∀ text ∈ args.rdr, fillPfAddrAndMask inetPton6 text ≠ none) ∧
      Readable inetPton6 args.src ∧ Readable inetPton6 args.dst :=
    ⟨fun accepted => ⟨accepted.rdr, accepted.src, accepted.dst⟩,
      fun ⟨rdr, src, dst⟩ => ⟨rdr, src, dst⟩⟩
  rw [parts]
  exact (rdrPool_built inetPton6 _ _).bind fun pool =>
    (setFilter_built inetPton6 _ _ _).bind fun src => (setFilter_built inetPton6 _ _ _).finish _

theorem addNatRuleGeneric_built (args : Arguments) :
    BuiltFrom (NatAccepted inetPton6 args) (addNatRuleGeneric inetPton6 args) := by
  have parts : NatAccepted inetPton6 args ↔
      Readable inetPton6 args.src ∧ Readable inetPton6 args.dst :=
    ⟨fun accepted => ⟨accepted.src, accepted.dst⟩, fun ⟨src, dst⟩ => ⟨src, dst⟩⟩
  rw [parts]
  exact (setFilter_built inetPton6 _ _ _).bind fun src => (setFilter_built inetPton6 _ _ _).finish _

theorem addRdrRuleGeneric_quick {args : Arguments} {installed : Installed}
    (built : addRdrRuleGeneric inetPton6 args = .ok installed) : installed.rule.quick = 0 := by
  rw [addRdrRuleGeneric] at built
  rcases ok_of_bind built with ⟨pool, built⟩
  rcases ok_of_bind built with ⟨src, built⟩
  rcases ok_of_bind built with ⟨dst, built⟩
  cases built
  exact setIfName_quick _ _

theorem addNatRuleGeneric_quick {args : Arguments} {installed : Installed}
    (built : addNatRuleGeneric inetPton6 args = .ok installed) : installed.rule.quick = 0 := by
  rw [addNatRuleGeneric] at built
  rcases ok_of_bind built with ⟨src, built⟩
  rcases ok_of_bind built with ⟨dst, built⟩
  cases built
  exact setIfName_quick _ _

theorem byte_eq_zero_iff (value : Int) : byte value = 0 ↔ value % 256 = 0 := by
  rw [byte, ← UInt8.toNat_inj]
  simp only [UInt8.toNat_ofBitVec, BitVec.toNat_ofInt, UInt8.toNat_zero]
  omega

theorem map_withQuick_eq_iff {accepted : Prop} {built : Except Int Installed}
    (from' : BuiltFrom accepted built)
    (unset : ∀ installed, built = .ok installed → installed.rule.quick = 0) (quick : Int) :
    built.map (fun installed => installed.withQuick (byte quick)) = built ↔
        quick % 256 = 0 ∨ ¬ accepted := by
  rw [← byte_eq_zero_iff]
  rcases from' with ⟨known, installed, rfl⟩ | ⟨unknown, code, rfl⟩
  · have zero := unset installed rfl
    constructor
    · intro same
      have rules : installed.withQuick (byte quick) = installed := Except.ok.inj same
      refine .inl (Eq.trans ?_ zero)
      exact congrArg (fun installed => installed.rule.quick) rules
    · rintro (none | unknown)
      · have same : installed.withQuick (byte quick) = installed := by
          rw [none, ← zero]
          rfl
        exact congrArg Except.ok same
      · exact absurd known unknown
  · exact iff_of_true rfl (.inr unknown)

/-- The rule is the same whether the anchor exists or not exactly if `quick` leaves no trace in it.
-/
theorem appendRuleGeneric_same_iff (args : Arguments) (quick : Int) :
    (appendRdrRuleGeneric inetPton6 true args quick =
      appendRdrRuleGeneric inetPton6 false args quick ↔
      quick % 256 = 0 ∨ ¬ RdrAccepted inetPton6 args) ∧
    (appendNatRuleGeneric inetPton6 true args quick =
      appendNatRuleGeneric inetPton6 false args quick ↔
      quick % 256 = 0 ∨ ¬ NatAccepted inetPton6 args) := by
  rw [appendRdrRuleGeneric_exists, appendNatRuleGeneric_exists, appendRdrRuleGeneric_new,
    appendNatRuleGeneric_new]
  constructor
  · exact map_withQuick_eq_iff (addRdrRuleGeneric_built inetPton6 args)
      (fun _ built => addRdrRuleGeneric_quick inetPton6 built) quick
  · exact map_withQuick_eq_iff (addNatRuleGeneric_built inetPton6 args)
      (fun _ built => addNatRuleGeneric_quick inetPton6 built) quick

def dnsArguments : Arguments where
  ifName := some (ascii "web")
  src := some ⟨some .addrMask, ascii "172.18.0.0/16"⟩
  srcPort := -1
  dst := some ⟨some .addrMask, ascii "172.18.0.1"⟩
  dstPort := 53
  rdr := [ascii "127.0.0.11/32"]
  dPort := 53
  proto := 17

theorem first_rule_not_quick :
    appendRdrRuleGeneric (fun _ => none) true dnsArguments 1 ≠
        appendRdrRuleGeneric (fun _ => none) false dnsArguments 1 ∧
      appendNatRuleGeneric (fun _ => none) true dnsArguments 1 ≠
        appendNatRuleGeneric (fun _ => none) false dnsArguments 1 := by
  constructor <;> decide +kernel

end Copies

end Dockermock.PfUtil
