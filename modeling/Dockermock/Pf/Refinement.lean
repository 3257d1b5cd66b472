import Dockermock.Library.Simulation
import Dockermock.Pf.Removal
import Dockermock.Pf.Rulesets

/-!
The anchors as lists of rules with their texts, against the rulesets of pf with the
rules that pf_util built from these texts. Appending, removing and every run of both
go along, rule by rule and in order, whatever pf says about anchors without rules
and whichever of its rules are quick.
-/

namespace Dockermock.Pf

open Library Database PfUtil

section Texts
variable (inetPton6 : CString → Option (List UInt8))

/-- Nothing in the text that C would read otherwise than Python: no null, ASCII, and room for
the null at its end. -/
structure Plain (text : String) : Prop where
  short : text.length < Rulesets.maxPathLen
  chars : ∀ char ∈ text.toList, 0 < char.toNat ∧ char.toNat < 128

def textParses (text : String) : Bool :=
  let ip := Rulesets.cString text
  if 58 ∈ ip then (inetPton6 ip).isSome else (PfUtil.inetPton ip).isSome

theorem encode_ascii {chars : List Char} (ascii : ∀ char ∈ chars, char.toNat < 128) :
    encode (String.ofList chars) = chars.map fun char => char.toNat.toUInt8 := by
  rw [encode, String.toList_ofList]
  induction chars with
  | nil => rfl
  | cons char rest ih =>
      rcases List.forall_mem_cons.mp ascii with ⟨first, others⟩
      have single : char.utf8Size = 1 := Char.utf8Size_eq_one_iff.mpr (by
        rw [UInt32.le_iff_toNat_le]
        exact Nat.le_of_lt_succ first)
      rw [List.flatMap_cons, ih others, String.utf8EncodeChar_eq_singleton single]
      rfl

theorem toUInt8_inj {left right : Nat} (small : left < 128) (small' : right < 128) :
    left.toUInt8 = right.toUInt8 ↔ left = right := by
  rw [← UInt8.toNat_inj, UInt8.toNat_ofNat', UInt8.toNat_ofNat']
  omega

theorem cString_ascii {chars : List Char}
    (ascii : ∀ char ∈ chars, 0 < char.toNat ∧ char.toNat < 128) :
    Rulesets.cString (String.ofList chars) = chars.map fun char => char.toNat.toUInt8 := by
  rw [Rulesets.cString, encode_ascii fun char member => (ascii char member).2,
    List.takeWhile_eq_self_iff]
  intro byte member
  rcases List.mem_map.mp member with ⟨char, listed, rfl⟩
  have small := ascii char listed
  have other := (toUInt8_inj small.2 (by decide : 0 < 128)).not.mpr small.1.ne'
  simpa using other

theorem takeWhile_slash {chars : List Char}
    (ascii : ∀ char ∈ chars, 0 < char.toNat ∧ char.toNat < 128) :
    (chars.map fun char => char.toNat.toUInt8).takeWhile (· ≠ 47) =
        (chars.takeWhile (· ≠ '/')).map (fun char => char.toNat.toUInt8) ∧
      (chars.map fun char => char.toNat.toUInt8).dropWhile (· ≠ 47) =
        (chars.dropWhile (· ≠ '/')).map fun char => char.toNat.toUInt8 := by
  induction chars with
  | nil => exact ⟨rfl, rfl⟩
  | cons char rest ih =>
      rcases List.forall_mem_cons.mp ascii with ⟨first, others⟩
      have same : char.toNat.toUInt8 = 47 ↔ char = '/' := by
        rw [show (47 : UInt8) = (47 : Nat).toUInt8 from rfl, toUInt8_inj first.2 (by decide)]
        exact ⟨fun same => Char.toNat_inj.mp same, fun same => congrArg Char.toNat same⟩
      by_cases slash : char = '/'
      · simp [slash]
      · have other := same.not.mpr slash
        simpa [slash, other] using ih others

theorem textParses_ascii {chars : List Char}
    (ascii : ∀ char ∈ chars, 0 < char.toNat ∧ char.toNat < 128) :
    textParses inetPton6 (String.ofList chars) =
      if 58 ∈ chars.map (fun char => char.toNat.toUInt8) then
        (inetPton6 (chars.map fun char => char.toNat.toUInt8)).isSome
      else (PfUtil.inetPton (chars.map fun char => char.toNat.toUInt8)).isSome := by
  rw [textParses, cString_ascii ascii]

theorem fill_ascii {chars : List Char} (ascii : ∀ char ∈ chars, 0 < char.toNat ∧ char.toNat < 128) :
    Pf.fillPfAddrAndMask (textParses inetPton6) (String.ofList chars) =
      (PfUtil.fillPfAddrAndMask inetPton6 (Rulesets.cString (String.ofList chars))).isSome := by
  have front : ∀ char ∈ chars.takeWhile (· ≠ '/'), 0 < char.toNat ∧ char.toNat < 128 :=
    fun char member => ascii char (List.takeWhile_subset _ member)
  rw [cString_ascii ascii, Pf.fillPfAddrAndMask, PfUtil.fillPfAddrAndMask]
  simp only [String.toList_ofList]
  rw [(takeWhile_slash ascii).1, (takeWhile_slash ascii).2]
  by_cases slash : '/' ∈ chars
  · have more : chars.dropWhile (· ≠ '/') ≠ [] := fun none => by
      have passed := List.dropWhile_eq_nil_iff.mp none '/' slash
      simp at passed
    rcases List.exists_cons_of_ne_nil more with ⟨char, after, more⟩
    rw [if_pos slash, more, textParses_ascii inetPton6 front, List.map_cons]
    simp only [List.length_map]
    -- in front of a slash a text that does not fit is refused
    by_cases long : 46 ≤ (chars.takeWhile (· ≠ '/')).length
    · rw [if_pos long, decide_eq_false (Nat.not_lt.mpr long)]
      rfl
    · rw [if_neg long, decide_eq_true (Nat.not_le.mp long), Bool.true_and]
      split <;> simp
  · have all : chars.takeWhile (· ≠ '/') = chars :=
      List.takeWhile_eq_self_iff.mpr fun char member => by
        simpa using ne_of_mem_of_not_mem member slash
    have none : chars.dropWhile (· ≠ '/') = [] :=
      List.dropWhile_eq_nil_iff.mpr fun char member => by
        simpa using ne_of_mem_of_not_mem member slash
    have cut : ∀ char ∈ chars.take 45, 0 < char.toNat ∧ char.toNat < 128 := fun char member =>
      ascii char (List.take_subset _ _ member)
    rw [if_neg slash, all, none, textParses_ascii inetPton6 cut, List.map_nil, List.map_take]
    dsimp only
    split <;> simp

theorem encode_fits {text : String} (plain : Plain text) {chars : List Char}
    (inner : chars.Sublist text.toList) :
    (encode (String.ofList chars)).length ≤ Rulesets.maxPathLen := by
  rw [encode_ascii fun char member => (plain.chars char (inner.subset member)).2, List.length_map]
  have short := plain.short
  rw [← String.length_toList] at short
  exact inner.length_le.trans short.le

theorem head_ascii {chars : List Char} (ascii : ∀ char ∈ chars, 0 < char.toNat ∧ char.toNat < 128) :
    (Rulesets.cString (String.ofList chars)).head? = some 33 ↔ chars.head? = some '!' := by
  rw [cString_ascii ascii]
  cases chars with
  | nil => simp
  | cons char rest =>
      have first := (List.forall_mem_cons.mp ascii).1
      have same : char.toNat.toUInt8 = (33 : Nat).toUInt8 ↔ char.toNat = 33 :=
        toUInt8_inj first.2 (by decide)
      rw [List.map_cons, List.head?_cons, List.head?_cons, Option.some_inj, Option.some_inj]
      exact same.trans ⟨fun same => Char.toNat_inj.mp same, fun same => congrArg Char.toNat same⟩

theorem tail_ascii {chars : List Char} (ascii : ∀ char ∈ chars, 0 < char.toNat ∧ char.toNat < 128) :
    (Rulesets.cString (String.ofList chars)).tail =
        Rulesets.cString (String.ofList chars.tail) := by
  rw [cString_ascii ascii,
    cString_ascii fun char member => ascii char (List.mem_of_mem_tail member), List.map_tail]

theorem fill_negated {chars : List Char} (ascii : ∀ char ∈ chars, 0 < char.toNat ∧ char.toNat < 128)
    (type : Option AddrType) :
    (if chars.head? = some '!' then
      Pf.fillPfAddrAndMask (textParses inetPton6) (String.ofList chars.tail)
      else Pf.fillPfAddrAndMask (textParses inetPton6) (String.ofList chars)) =
      (PfUtil.fillPfAddrAndMask inetPton6
        (FilterAddr.text ⟨type, Rulesets.cString (String.ofList chars)⟩)).isSome := by
  rw [FilterAddr.text, FilterAddr.negated]
  dsimp only
  by_cases negated : chars.head? = some '!'
  · rw [if_pos negated, if_pos (decide_eq_true ((head_ascii ascii).mpr negated)), tail_ascii ascii]
    exact fill_ascii inetPton6 fun char member => ascii char (List.mem_of_mem_tail member)
  · rw [if_neg negated, if_neg (by simpa using (head_ascii ascii).not.mpr negated)]
    exact fill_ascii inetPton6 ascii

theorem readable_filterAddr {text : String} (plain : Plain text) :
    ∃ filter, Rulesets.filterAddr text = some filter ∧
      (filterAddrParses (textParses inetPton6) text = true ↔ Readable inetPton6 (some filter)) := by
  have inner : (text.toList.tail.dropLast).Sublist text.toList :=
    (List.dropLast_sublist _).trans (List.tail_sublist _)
  have whole := encode_fits plain (List.Sublist.refl text.toList)
  have address := fill_negated inetPton6 plain.chars (some .addrMask)
  rw [String.ofList_toList] at whole address
  rw [Rulesets.filterAddr, filterAddrParses]
  by_cases interface : text.toList.head? = some '(' ∧ text.toList.getLast? = some ')'
  · refine ⟨⟨some .dynIftl, Rulesets.cString (String.ofList text.toList.tail.dropLast)⟩, ?_, ?_⟩
    · simp only [if_pos interface, if_pos (encode_fits plain inner)]
    · simp [interface, Readable]
  · by_cases table : text.toList.head? = some '<' ∧ text.toList.getLast? = some '>'
    · refine ⟨⟨some .table, Rulesets.cString (String.ofList text.toList.tail.dropLast)⟩, ?_, ?_⟩
      · simp only [if_neg interface, if_pos table, if_pos (encode_fits plain inner)]
      · simp [table, Readable]
    · refine ⟨⟨some .addrMask, Rulesets.cString text⟩, ?_, ?_⟩
      · simp only [if_neg interface, if_neg table, if_pos whole]
      · simp only [if_neg interface, if_neg table, Readable]
        rw [address]
        simp [Option.isSome_iff_ne_none]

end Texts

section Relation
variable (inetPton6 : CString → Option (List UInt8))

structure Describes (rule : Rule) (call : Rulesets.PfctlRule) : Prop where
  ifName : call.ifName = rule.ifName
  src : call.src = rule.src
  dst : call.dst = rule.dst
  pool : call.rdrAddress = rule.pool
  srcPort : call.srcPort = -1
  dstPort : rule.dstPort = installedPort call.dstPort
  proto : call.af = Rulesets.ipProtocol rule.proto

/-- The rule in pf is the one that pf_util builds for that call, up to `quick`. -/
def Realizes (add : Arguments → Except Int Installed) (rule : Rule) (installed : Installed) :
    Prop :=
  ∃ call args built quick, Describes rule call ∧ call.arguments = some args ∧ add args = .ok built ∧
    installed = built.withQuick quick

structure Holds (anchor : Anchor) (ruleset : PfUtil.Anchor) : Prop where
  rdr : List.Forall₂ (Realizes (addRdrRuleGeneric inetPton6)) anchor.rdr ruleset.rdr
  nat : List.Forall₂ (Realizes (addNatRuleGeneric inetPton6)) anchor.nat ruleset.nat
  filter : ruleset.filter = []

end Relation

section Appending
variable {inetPton6 : CString → Option (List UInt8)}

theorem setFilter_port {invalid : Int} {addr after : PfRuleAddr} {filter : Option FilterAddr}
    (done : setFilter inetPton6 invalid addr filter = .ok after) : after.port = addr.port := by
  cases filter with
  | none => rw [Except.ok.inj done]
  | some filter =>
      rcases filter with ⟨_ | type, text⟩
      · cases done
      · cases type with
        | addrMask =>
            rw [setFilter] at done
            cases filled :
                PfUtil.fillPfAddrAndMask inetPton6 (FilterAddr.text ⟨some .addrMask, text⟩) with
            | none =>
                simp only [filled] at done
                cases done
            | some entry =>
                simp only [filled] at done
                rw [← Except.ok.inj done]
        | dynIftl => rw [← Except.ok.inj done]
        | table => rw [← Except.ok.inj done]

theorem setIfName_proto (rule : PfRule) (ifName : Option CString) :
    (rule.setIfName ifName).proto = rule.proto := by
  unfold PfRule.setIfName
  split <;> rfl

/-- The destination port and the protocol of a rule are those it is looked for by. -/
def Sought (args : Arguments) (installed : Installed) : Prop :=
  installed.rule.dst.port = (PfRuleAddr.zero.setPort args.dstPort).port ∧
    installed.rule.proto = byte args.proto

theorem addRdrRuleGeneric_sought {args : Arguments} {built : Installed}
    (done : addRdrRuleGeneric inetPton6 args = .ok built) : Sought args built := by
  rw [addRdrRuleGeneric] at done
  rcases bind_ok done with ⟨pool, _, done⟩
  rcases bind_ok done with ⟨src, _, done⟩
  rcases bind_ok done with ⟨dst, filled, done⟩
  cases done
  rw [setIfName_dst] at filled
  exact ⟨setFilter_port filled, setIfName_proto _ _⟩

theorem addNatRuleGeneric_sought {args : Arguments} {built : Installed}
    (done : addNatRuleGeneric inetPton6 args = .ok built) : Sought args built := by
  rw [addNatRuleGeneric] at done
  rcases bind_ok done with ⟨src, _, done⟩
  rcases bind_ok done with ⟨dst, filled, done⟩
  cases done
  rw [setIfName_dst] at filled
  exact ⟨setFilter_port filled, setIfName_proto _ _⟩

theorem toNat_ofInt (value : Int) : (BitVec.ofInt 16 (cInt value)).toNat = port16 value := by
  rw [BitVec.toNat_ofInt, port16]
  rfl

theorem port_toNat (value : Int) :
    (PfRuleAddr.zero.setPort (cInt value)).port.toNat = installedPort value := by
  rw [PfRuleAddr.setPort, installedPort]
  split
  · exact toNat_ofInt value
  · rfl

theorem arguments_fields {call : Rulesets.PfctlRule} {args : Arguments}
    (parsed : call.arguments = some args) :
    args.dstPort = cInt call.dstPort ∧ args.proto = cInt call.af := by
  simp only [Rulesets.PfctlRule.arguments, Option.bind_eq_bind, Option.bind_eq_some_iff] at parsed
  rcases parsed with ⟨src, _, dst, _, ⟨⟩⟩
  exact ⟨rfl, rfl⟩

theorem matchesPort_realizes {add : Arguments → Except Int Installed}
    (sought : ∀ args built, add args = .ok built → Sought args built) {rule : Rule}
    {installed : Installed} (realizes : Realizes add rule installed) (value : Int) (proto : Proto) :
    matchesPort (cInt value) (Rulesets.ipProtocol proto) installed = hits value proto rule := by
  rcases realizes with ⟨call, args, built, quick, describes, parsed, done, rfl⟩
  rcases sought args built done with ⟨port, protocol⟩
  rcases arguments_fields parsed with ⟨dstPort, af⟩
  have ports : built.rule.dst.port = .ofInt 16 (cInt value) ↔ rule.dstPort = port16 value := by
    rw [port, dstPort, describes.dstPort, ← port_toNat, ← toNat_ofInt, BitVec.toNat_inj]
  have protocols : (built.rule.proto.toNat : Int) = Rulesets.ipProtocol proto ↔
      rule.proto = proto := by
    rw [protocol, af, describes.proto]
    cases rule.proto <;> cases proto <;> decide
  rw [matchesPort, hits, Installed.withQuick, Bool.eq_iff_iff]
  simp [ports, protocols]

/-- What is accepted is built, for an anchor that is there and for a new one. -/
theorem append_result {accepted : Prop} {append : Bool → Except Int Installed}
    {add : Except Int Installed} {quick : UInt8}
    (kept : append true = add.map fun installed => installed.withQuick quick)
    (new : append false = add) (built : BuiltFrom accepted add) (there : Bool) :
    (accepted ∧ ∃ whole quick', add = .ok whole ∧ append there = .ok (whole.withQuick quick')) ∨
      (¬ accepted ∧ ∃ code, append there = .error code) := by
  rcases built with ⟨known, whole, done⟩ | ⟨unknown, code, failed⟩
  · refine .inl ⟨known, ?_⟩
    cases there with
    | true => exact ⟨whole, quick, done, by rw [kept, done]; rfl⟩
    | false => exact ⟨whole, whole.rule.quick, done, by rw [new, done]; rfl⟩
  · refine .inr ⟨unknown, code, ?_⟩
    cases there with
    | true => rw [kept, failed]; rfl
    | false => rw [new, failed]

theorem arguments_plain (inetPton6 : CString → Option (List UInt8)) {rule : Rule}
    {call : Rulesets.PfctlRule} (describes : Describes rule call) (src : Plain rule.src)
    (dst : Plain rule.dst) :
    ∃ args, call.arguments = some args ∧ args.rdr = rule.pool.map Rulesets.cString ∧
      (filterAddrParses (textParses inetPton6) rule.src = true ↔ Readable inetPton6 args.src) ∧
      (filterAddrParses (textParses inetPton6) rule.dst = true ↔ Readable inetPton6 args.dst) := by
  rcases readable_filterAddr inetPton6 src with ⟨source, known, readable⟩
  rcases readable_filterAddr inetPton6 dst with ⟨destination, known', readable'⟩
  rw [← describes.src] at known
  rw [← describes.dst] at known'
  rw [← describes.pool]
  exact ⟨_, by rw [Rulesets.PfctlRule.arguments, known, known']; rfl, rfl, readable, readable'⟩

theorem pool_plain (inetPton6 : CString → Option (List UInt8)) {pool : List String}
    (plain : ∀ text ∈ pool, Plain text) :
    pool.all (Pf.fillPfAddrAndMask (textParses inetPton6)) = true ↔
      ∀ text ∈ pool.map Rulesets.cString, PfUtil.fillPfAddrAndMask inetPton6 text ≠ none := by
  rw [List.all_eq_true, List.forall_mem_map]
  refine forall₂_congr fun text member => ?_
  have same := fill_ascii inetPton6 (plain text member).chars
  rw [String.ofList_toList] at same
  rw [same, Option.isSome_iff_ne_none]

theorem appended_rules {answer : Bool} {ruleset : PfUtil.Anchor}
    (rules : PfUtil.Anchor → List Installed) (bare : rules ⟨[], [], []⟩ = [])
    (installed : Installed) :
    (if Rulesets.rulesetExists answer ruleset then rules ruleset ++ [installed] else [installed]) =
      rules ruleset ++ [installed] := by
  split
  · rfl
  · rename_i gone
    have empty : ruleset = ⟨[], [], []⟩ := by
      simp only [Rulesets.rulesetExists, Bool.or_eq_true, decide_eq_true_eq, not_or,
        not_not] at gone
      exact gone.2
    rw [empty, bare]
    rfl

variable {anchor : Anchor} {ruleset : PfUtil.Anchor} {rule : Rule} {call : Rulesets.PfctlRule}

theorem Holds.appendRdrRule (holds : Holds inetPton6 anchor ruleset)
    (describes : Describes rule call) (src : Plain rule.src) (dst : Plain rule.dst)
    (pool : ∀ text ∈ rule.pool, Plain text) (answer : Bool) :
    Option.Rel (Holds inetPton6) (appendRdrRule (textParses inetPton6) anchor rule)
      (Rulesets.pfctlAppendRdrRuleGeneric inetPton6 answer ruleset call) := by
  rcases arguments_plain inetPton6 describes src dst with ⟨args, parsed, rdr, readable, readable'⟩
  have accepted : RdrAccepted inetPton6 args ↔
    (rule.pool.all (Pf.fillPfAddrAndMask (textParses inetPton6)) &&
      filterAddrParses (textParses inetPton6) rule.src &&
          filterAddrParses (textParses inetPton6) rule.dst) = true := by
    rw [Bool.and_eq_true, Bool.and_eq_true, pool_plain inetPton6 pool, ← rdr, readable,
      readable', and_assoc]
    exact ⟨fun accepted => ⟨accepted.rdr, accepted.src, accepted.dst⟩,
      fun ⟨rdr, src, dst⟩ => ⟨rdr, src, dst⟩⟩
  rw [Pf.appendRdrRule, Rulesets.pfctlAppendRdrRuleGeneric, parsed, Option.bind_some]
  rcases @append_result _ (fun there => appendRdrRuleGeneric inetPton6 there args (cInt call.quick))
    _ _
      (appendRdrRuleGeneric_exists inetPton6 args _) (appendRdrRuleGeneric_new inetPton6 args _)
      (addRdrRuleGeneric_built inetPton6 args) (Rulesets.rulesetExists answer ruleset) with
    ⟨known, whole, quick, built, appended⟩ | ⟨unknown, code, failed⟩
  · rw [if_pos (accepted.mp known), appended]
    dsimp only
    rw [appended_rules PfUtil.Anchor.rdr rfl]
    refine .some { holds with rdr := List.rel_append holds.rdr (.cons ?_ .nil) }
    exact ⟨call, args, whole, quick, describes, parsed, built, rfl⟩
  · rw [if_neg (accepted.not.mp unknown), failed]
    exact .none

theorem Holds.appendNatRule (holds : Holds inetPton6 anchor ruleset)
    (describes : Describes rule call) (src : Plain rule.src) (dst : Plain rule.dst)
    (answer : Bool) :
    Option.Rel (Holds inetPton6) (appendNatRule (textParses inetPton6) anchor rule)
      (Rulesets.pfctlAppendNatRuleGeneric inetPton6 answer ruleset call) := by
  rcases arguments_plain inetPton6 describes src dst with ⟨args, parsed, _, readable, readable'⟩
  have accepted : NatAccepted inetPton6 args ↔ (filterAddrParses (textParses inetPton6) rule.src &&
      filterAddrParses (textParses inetPton6) rule.dst) = true := by
    rw [Bool.and_eq_true, readable, readable']
    exact ⟨fun accepted => ⟨accepted.src, accepted.dst⟩, fun ⟨src, dst⟩ => ⟨src, dst⟩⟩
  rw [Pf.appendNatRule, Rulesets.pfctlAppendNatRuleGeneric, parsed, Option.bind_some]
  rcases @append_result _ (fun there => appendNatRuleGeneric inetPton6 there args (cInt call.quick))
    _ _
      (appendNatRuleGeneric_exists inetPton6 args _) (appendNatRuleGeneric_new inetPton6 args _)
      (addNatRuleGeneric_built inetPton6 args) (Rulesets.rulesetExists answer ruleset) with
    ⟨known, whole, quick, built, appended⟩ | ⟨unknown, code, failed⟩
  · rw [if_pos (accepted.mp known), appended]
    dsimp only
    rw [appended_rules PfUtil.Anchor.nat rfl]
    refine .some { holds with nat := List.rel_append holds.nat (.cons ?_ .nil) }
    exact ⟨call, args, whole, quick, describes, parsed, built, rfl⟩
  · rw [if_neg (accepted.not.mp unknown), failed]
    exact .none

end Appending

section Removing
variable {inetPton6 : CString → Option (List UInt8)} {anchor : Anchor} {ruleset : PfUtil.Anchor}
  {add : Arguments → Except Int Installed} {rules : List Rule} {installed : List Installed}

/-- Both loops find the same rules, and leave the same ones. -/
theorem realized_left (sought : ∀ args built, add args = .ok built → Sought args built)
    (realized : List.Forall₂ (Realizes add) rules installed) (value : Int) (proto : Proto) :
    installed.countP (matchesPort (cInt value) (Rulesets.ipProtocol proto)) =
      rules.countP (hits value proto) ∧
      List.Forall₂ (Realizes add) (rules.filter fun rule => !hits value proto rule)
        (installed.filter fun rule =>
            !matchesPort (cInt value) (Rulesets.ipProtocol proto) rule) := by
  have same : ∀ rule built, Realizes add rule built →
      matchesPort (cInt value) (Rulesets.ipProtocol proto) built = hits value proto rule :=
    fun rule built realizes => matchesPort_realizes sought realizes value proto
  constructor
  · have found : List.Forall₂ (Realizes add) (rules.filter (hits value proto))
        (installed.filter (matchesPort (cInt value) (Rulesets.ipProtocol proto))) :=
      List.rel_filter
        (fun rule built realizes => Bool.eq_iff_iff.mp (same rule built realizes).symm) realized
    rw [List.countP_eq_length_filter, List.countP_eq_length_filter, found.length_eq]
  · refine List.rel_filter (fun rule built realizes => ?_) realized
    exact Bool.eq_iff_iff.mp (congrArg not (same rule built realizes).symm)

theorem all_matched_iff (wanted : Installed → Bool) (installed : List Installed) :
    (∀ rule ∈ installed, wanted rule = true) ↔
        (installed.filter fun rule => !wanted rule) = [] := by
  rw [List.filter_eq_nil_iff]
  simp

theorem Holds.gone (holds : Holds inetPton6 anchor ruleset) {answer : Bool}
    (gone : Rulesets.rulesetExists answer ruleset = false) :
    anchor = ⟨[], []⟩ ∧ ruleset = ⟨[], [], []⟩ := by
  have empty : ruleset = ⟨[], [], []⟩ := by
    simp only [Rulesets.rulesetExists, Bool.or_eq_false_iff, decide_eq_false_iff_not,
      not_not] at gone
    exact gone.2
  subst empty
  cases anchor
  rw [Anchor.mk.injEq]
  exact ⟨⟨List.forall₂_nil_right_iff.mp holds.rdr, List.forall₂_nil_right_iff.mp holds.nat⟩, rfl⟩

theorem Holds.removeRdrPortRule (holds : Holds inetPton6 anchor ruleset) (answer : Bool)
    (value : Int) (proto : Proto) :
    Option.Rel (fun anchor done => done.1 = true ∧ Holds inetPton6 anchor done.2)
      (Pf.removeRdrPortRule anchor value proto)
          (Rulesets.pfctlRemoveRdrPortRule answer ruleset value proto) := by
  rw [Pf.removeRdrPortRule_eq, Rulesets.pfctlRemoveRdrPortRule]
  cases there : Rulesets.rulesetExists answer ruleset with
  | false =>
      rcases holds.gone there with ⟨rfl, rfl⟩
      exact .some ⟨rfl, holds⟩
  | true =>
      rcases realized_left (fun _ _ => addRdrRuleGeneric_sought) holds.rdr value proto with
        ⟨count, left⟩
      rw [if_pos rfl, PfUtil.removeRdrPortRule_eq, count]
      dsimp only
      by_cases few : anchor.rdr.countP (hits value proto) ≤ 16
      · rw [if_pos few, if_neg (Nat.not_lt.mpr few)]
        by_cases none : (anchor.rdr.filter fun rule => !hits value proto rule) = []
        · have all := List.forall₂_nil_left_iff.mp (none ▸ left)
          rw [if_pos ((all_matched_iff _ _).mpr all), if_pos none, none]
          exact .some ⟨rfl, .nil, .nil, rfl⟩
        · have others : ¬ ∀ rule ∈ ruleset.rdr,
              matchesPort (cInt value) (Rulesets.ipProtocol proto) rule = true :=
            fun all => none (List.forall₂_nil_right_iff.mp ((all_matched_iff _ _).mp all ▸ left))
          rw [if_neg others, if_neg none]
          exact .some ⟨rfl, left, holds.nat, holds.filter⟩
      · rw [if_neg few, if_pos (Nat.not_le.mp few)]
        exact .none

theorem Holds.removeNatPortRule (holds : Holds inetPton6 anchor ruleset) (answer : Bool)
    (value : Int) (proto : Proto) :
    Option.Rel (fun anchor done => done.1 = true ∧ Holds inetPton6 anchor done.2)
      (Pf.removeNatPortRule anchor value proto)
          (Rulesets.pfctlRemoveNatPortRule answer ruleset value proto) := by
  rw [Pf.removeNatPortRule_eq, Rulesets.pfctlRemoveNatPortRule]
  cases there : Rulesets.rulesetExists answer ruleset with
  | false =>
      rcases holds.gone there with ⟨rfl, rfl⟩
      exact .some ⟨rfl, holds⟩
  | true =>
      rcases realized_left (fun _ _ => addNatRuleGeneric_sought) holds.nat value proto with
        ⟨count, left⟩
      rw [if_pos rfl]
      by_cases few : anchor.nat.countP (hits value proto) ≤ 16
      · rw [if_neg (Nat.not_lt.mpr few), PfUtil.removeNatPortRule_filter _ _ _ (count ▸ few)]
        exact .some ⟨rfl, holds.rdr, left, holds.filter⟩
      · rw [if_pos (Nat.not_le.mp few), PfUtil.removeNatPortRule, collect_start,
          if_neg (count ▸ few)]
        exact .none

end Removing

section Steps
variable {inetPton6 : CString → Option (List UInt8)} {anchor : Anchor} {ruleset : PfUtil.Anchor}
  {anchors : Anchors} {rulesets : Rulesets}

def Refined (inetPton6 : CString → Option (List UInt8)) (anchors : Anchors) (rulesets : Rulesets) :
    Prop :=
  ∀ network, Holds inetPton6 (anchors network) (rulesets network)

theorem Refined.update (refined : Refined inetPton6 anchors rulesets) (network : String)
    (holds : Holds inetPton6 anchor ruleset) :
    Refined inetPton6 (Function.update anchors network anchor)
        (Function.update rulesets network ruleset) := by
  intro other
  rw [Function.update_apply, Function.update_apply]
  split
  · exact holds
  · exact refined other

theorem plain_texts :
    Plain "127.0.0.11/32" ∧ Plain "0.0.0.0/0.0.0.0" ∧ Plain "(self)" ∧ Plain "(lo0)" :=
  ⟨⟨by decide, by simp⟩, ⟨by decide, by simp⟩, ⟨by decide, by simp⟩, ⟨by decide, by simp⟩⟩

theorem Holds.startNetwork (holds : Holds inetPton6 anchor ruleset) (answer bridge : Bool)
    (name : String) {subnet gateway : String} (src : Plain subnet) (dst : Plain gateway) :
    Holds inetPton6 (Pf.startNetwork (textParses inetPton6) anchor name subnet gateway)
      (Rulesets.startNetwork inetPton6 answer bridge ruleset name subnet gateway) := by
  rw [Pf.startNetwork, Rulesets.startNetwork]
  split
  · exact holds
  · refine rel_getD
      (holds.appendRdrRule ⟨rfl, rfl, rfl, rfl, rfl, rfl, rfl⟩ src dst ?_ answer) holds
    exact List.forall_mem_singleton.mpr plain_texts.1

theorem Holds.appendPort (holds : Holds inetPton6 anchor ruleset) (answer : Bool) (id : Nat)
    (network : String) {rdr : List String} (plain : ∀ text ∈ rdr, Plain text) (port : Port) :
    Option.Rel (Holds inetPton6)
      ((Pf.appendRdrRule (textParses inetPton6) anchor (rdrRule id network rdr port)).map
          fun redirected =>
        (rdr.head?.bind fun address =>
          Pf.appendNatRule (textParses inetPton6) redirected (natRule id network address port)).getD
            redirected)
      (Rulesets.appendPort inetPton6 answer network rdr ruleset port) := by
  have redirect : Describes (rdrRule id network rdr port) ⟨"!" ++ network, "0.0.0.0/0.0.0.0",
    "(self)", rdr,
      port.container, -1, port.host, Rulesets.ipProtocol (ipProto port), 1⟩ :=
        ⟨rfl, rfl, rfl, rfl, rfl, rfl, rfl⟩
  rw [Rulesets.appendPort]
  refine rel_map (holds.appendRdrRule redirect plain_texts.2.1 plain_texts.2.2.1 plain answer) ?_
  intro redirected redirected' still
  cases first : rdr.head? with
  | none => exact still
  | some address =>
      have translate : Describes (natRule id network address port)
        ⟨network, "(lo0)", address, [network], -1, -1,
          port.container, Rulesets.ipProtocol (ipProto port), 0⟩ :=
            ⟨rfl, rfl, rfl, rfl, rfl, rfl, rfl⟩
      have listed := plain address (List.mem_of_head? first)
      exact rel_getD (still.appendNatRule translate plain_texts.2.2.2 listed answer) still

theorem Holds.appendPorts (holds : Holds inetPton6 anchor ruleset) (answer : Bool) (id : Nat)
    (network : String) {rdr : List String} (plain : ∀ text ∈ rdr, Plain text) (ports : List Port) :
    Holds inetPton6 (Pf.appendPorts (textParses inetPton6) id network rdr ports anchor)
      (Rulesets.appendPorts inetPton6 answer network rdr ports ruleset) := by
  induction ports generalizing anchor ruleset with
  | nil =>
      rw [Pf.appendPorts, Rulesets.appendPorts]
      exact holds
  | cons port rest ih =>
      have one := holds.appendPort answer id network plain port
      rw [Pf.appendPorts, Rulesets.appendPorts]
      rcases rel_cases one with ⟨here, there⟩ | ⟨after, after', here, there, still⟩
      · rw [Option.map_eq_none_iff.mp here, there]
        exact holds
      · rcases Option.map_eq_some_iff.mp here with ⟨redirected, appended, rfl⟩
        rw [appended, there]
        exact ih still

theorem Refined.removePorts (refined : Refined inetPton6 anchors rulesets) (answers : Nat → Bool)
    (count : Nat) (calls : List (Port × String)) :
    Option.Rel (Refined inetPton6) (Pf.removePorts calls anchors)
        (Rulesets.removePorts answers count calls rulesets) := by
  induction calls generalizing anchors rulesets count with
  | nil => exact .some refined
  | cons call rest ih =>
      rcases call with ⟨port, network⟩
      rw [Pf.removePorts, Pf.removePort, Rulesets.removePorts, Option.bind_assoc]
      refine rel_bind
        ((refined network).removeRdrPortRule (answers count) port.host (ipProto port)) ?_
      rintro redirected ⟨returned, redirected'⟩ ⟨returned, still⟩
      rw [if_pos returned]
      refine rel_bind
        (still.removeNatPortRule (answers (count + 1)) port.container (ipProto port)) ?_
      rintro translated ⟨returned, translated'⟩ ⟨returned, left⟩
      dsimp only
      rw [if_pos returned]
      exact ih (refined.update network left) (count + 2)

end Steps

section Runs
variable {inetPton6 : CString → Option (List UInt8)}

inductive Operation where
  | start (action : Action)
  | stopJail (id : Nat) (jail : Jail)

def operate (site : Site) (anchors : Anchors) : Operation → Option Anchors
  | .start action => step site anchors action
  | .stopJail id jail => stopJail site anchors id jail

namespace Rulesets.Call

def operation : Call → Operation
  | .startNetwork _ _ name subnet gateway => .start (.startNetwork name subnet gateway)
  | .addRdrPorts _ id network rdr => .start (.addRdrPorts id network rdr)
  | .stopJail _ id jail => .stopJail id jail

def Readable : Call → Prop
  | .startNetwork _ _ _ subnet gateway => Plain subnet ∧ Plain gateway
  | .addRdrPorts _ _ _ rdr => ∀ text ∈ rdr, Plain text
  | .stopJail _ _ _ => True

end Rulesets.Call

theorem refined_turn {site : Site} (reads : site.inetPton = textParses inetPton6)
    (anchors : Anchors) (rulesets : Rulesets) (call : Rulesets.Call)
    (refined : Refined inetPton6 anchors rulesets) (plain : call.Readable) :
    Option.Rel (Refined inetPton6) (operate site anchors call.operation)
        (Rulesets.step inetPton6 site rulesets call) := by
  cases call with
  | startNetwork answer bridge name subnet gateway =>
      rw [Rulesets.Call.operation, operate, step, Rulesets.step, reads]
      exact .some
        (refined.update name ((refined name).startNetwork answer bridge name plain.1 plain.2))
  | addRdrPorts answer id network rdr =>
      rw [Rulesets.Call.operation, operate, step, Rulesets.step, addRdrPorts,
        Rulesets.addRdrPorts, reads]
      refine .some ?_
      split
      · exact refined
      · exact refined.update network ((refined network).appendPorts answer id network plain _)
  | stopJail answers id jail =>
      rw [Rulesets.Call.operation, operate, Rulesets.step, stopJail, Rulesets.stopJail]
      split
      · exact refined.removePorts answers 0 _
      · exact .some refined

def lockstep (site : Site) (reads : site.inetPton = textParses inetPton6) :
    Lockstep (operate site) (Rulesets.step inetPton6 site) Rulesets.Call.operation
        Rulesets.Call.Readable where
  related := Refined inetPton6
  turn := refined_turn reads

theorem refined_initial : Refined inetPton6 noRules Rulesets.initial := fun _ => ⟨.nil, .nil, rfl⟩

/-- Every run on the rulesets of pf is one on the anchors and the other way round, with the same
rules in the same order at its end. -/
theorem rulesets_refine (site : Site) (reads : site.inetPton = textParses inetPton6)
    (calls : List Rulesets.Call) (plain : ∀ call ∈ calls, call.Readable) :
    (∀ rulesets, Run (Rulesets.step inetPton6 site) anyAction Rulesets.initial calls rulesets →
      ∃ anchors, Run (operate site) anyAction noRules (calls.map Rulesets.Call.operation) anchors ∧
        Refined inetPton6 anchors rulesets) ∧
    ∀ anchors, Run (operate site) anyAction noRules (calls.map Rulesets.Call.operation) anchors →
      ∃ rulesets, Run (Rulesets.step inetPton6 site) anyAction Rulesets.initial calls rulesets ∧
        Refined inetPton6 anchors rulesets :=
  ⟨fun _ run => (lockstep site reads).specified run plain refined_initial,
    fun _ run => (lockstep site reads).carried calls run plain refined_initial⟩

section Example

/-- One container with one port on the network web. No text of the run has a colon. -/
def webSite : Site where
  ports := fun _ => [⟨8080, 80, none⟩]
  networks := fun _ => ["web"]
  distinct := fun _ => List.nodup_singleton _
  inetPton := textParses fun _ => none

def webCalls : List Rulesets.Call :=
  [.startNetwork false false "web" "172.18.0.0/16" "172.18.0.1",
    .addRdrPorts false 1 "web" ["172.18.0.2"],
    .startNetwork false true "web" "172.18.0.0/16" "172.18.0.1",
    .stopJail (fun _ => true) 1 ⟨.running, .pid 100, fun pid => pid = 100⟩]

def webRules (rulesets : Rulesets) : List (UInt8 × Nat) × Nat :=
  ((rulesets "web").rdr.map fun installed => (installed.rule.quick, installed.rule.dst.port.toNat),
    (rulesets "web").nat.length)

/-- Of the two rules for DNS the second is quick. -/
theorem rulesets_refine_web :
    ∃ rulesets,
      Run (Rulesets.step (fun _ => none) webSite) anyAction Rulesets.initial webCalls rulesets ∧
      webRules rulesets = ([(0, 53), (1, 53)], 0) ∧
      ∃ anchors,
        Run (operate webSite) anyAction noRules (webCalls.map Rulesets.Call.operation) anchors ∧
        Refined (fun _ => none) anchors rulesets := by
  rcases run_of_replay (Rulesets.step (fun _ => none) webSite) anyAction webRules
    Rulesets.initial webCalls
      ([(0, 53), (1, 53)], 0) (by decide +kernel) with ⟨rulesets, run, read⟩
  have plain : ∀ call ∈ webCalls, call.Readable := by
    have subnet : Plain "172.18.0.0/16" := ⟨by decide, by simp⟩
    have gateway : Plain "172.18.0.1" := ⟨by decide, by simp⟩
    have address : Plain "172.18.0.2" := ⟨by decide, by simp⟩
    simp [webCalls, Rulesets.Call.Readable, subnet, gateway, address]
  exact ⟨rulesets, run, read, (rulesets_refine webSite rfl webCalls plain).1 rulesets run⟩

end Example

end Runs

end Dockermock.Pf
