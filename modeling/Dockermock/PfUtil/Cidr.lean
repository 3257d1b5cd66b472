import Mathlib.Algebra.Group.Nat.Defs
import Mathlib.Algebra.Ring.Int.Defs
import Mathlib.Data.List.TakeWhile
import Dockermock.Library.Lists

/-!
IPv4 addresses as pf_util reads them: inet_pton and atoi on the bytes of a
string, fill_pf_addr_and_mask for the entry that goes into a pool, compare_cidr
for the comparison of a pool's entry with a string. Words are in the order of
the host; the code turns them with ntohl and htonl.
-/

namespace Dockermock.PfUtil

open Library

/-- The bytes of a C string in front of its null. -/
abbrev CString := List UInt8

def ascii (text : String) : CString := text.toList.map fun char => char.toNat.toUInt8

section Parsing

def isDigit (char : UInt8) : Bool := 48 ≤ char ∧ char ≤ 57

def digits (text : CString) : Nat :=
  text.foldl (fun value digit => value * 10 + (digit.toNat - 48)) 0

def ptonOctet (part : CString) : Option Nat :=
  if part ≠ [] ∧ part.length ≤ 3 ∧ part.all isDigit ∧ (part.head? = some 48 → part = [48]) ∧
      digits part ≤ 255 then
    some (digits part)
  else none

/-- `inet_pton(AF_INET, ..)`: four decimal numbers with dots between them. -/
def inetPton (text : CString) : Option (BitVec 32) :=
  match (text.splitOn 46).mapM ptonOctet with
  | some [first, second, third, fourth] =>
      some (.ofNat 32 (((first * 256 + second) * 256 + third) * 256 + fourth))
  | _ => none

def isSpace (char : UInt8) : Bool := char = 32 ∨ (9 ≤ char ∧ char ≤ 13)

/-- `atoi`: the number in front, as strtol gives it, cut down to an int. -/
def atoi (text : CString) : Int :=
  let text := text.dropWhile isSpace
  let signed : Int :=
    match text with
    | 45 :: rest => -digits (rest.takeWhile isDigit)
    | 43 :: rest => digits (rest.takeWhile isDigit)
    | _ => digits (text.takeWhile isDigit)
  (max (-2 ^ 63) (min signed (2 ^ 63 - 1))).bmod (2 ^ 32)

/-- The mask of a prefix length. C leaves a shift by more than 31 places open, the processor
takes the count by 32. -/
def prefixMask (prefixLen : Int) : BitVec 32 :=
  if prefixLen = 0 then 0 else BitVec.allOnes 32 <<< ((32 - prefixLen) % 32).toNat

/-- What fill_pf_addr_and_mask writes: one word each, or sixteen bytes each. -/
inductive PfAddr where
  | v4 (addr mask : BitVec 32)
  | v6 (addr mask : List UInt8)
  deriving DecidableEq, Repr

/-- The loop over the sixteen bytes of an IPv6 mask. -/
def maskBytes : Nat → Int → List UInt8
  | 0, _ => []
  | count + 1, prefixLen =>
      if 8 ≤ prefixLen then 0xFF :: maskBytes count (prefixLen - 8)
      else if 0 < prefixLen then (0xFF <<< (8 - prefixLen).toNat.toUInt8) :: maskBytes count 0
      else 0 :: maskBytes count prefixLen

/-- fill_pf_addr_and_mask. The buffer has 46 bytes: a longer text is refused in front of a slash
and cut off without one. -/
def fillPfAddrAndMask (inetPton6 : CString → Option (List UInt8)) (cidr : CString) :
    Option PfAddr :=
  let ip := cidr.takeWhile (· ≠ 47)
  let filled := fun (ip : CString) (prefixLen : Int) =>
    if 58 ∈ ip then (inetPton6 ip).map fun addr => .v6 addr (maskBytes 16 prefixLen)
    else (inetPton ip).map fun addr => .v4 addr (prefixMask prefixLen)
  match cidr.dropWhile (· ≠ 47) with
  | [] => filled (ip.take 45) (if 58 ∈ ip.take 45 then 128 else 32)
  | _ :: after => if 46 ≤ ip.length then none else filled ip (atoi after)

end Parsing

section Networks

/-- An address with its mask, as a pool has it. -/
@[ext]
structure PoolAddr where
  addr : BitVec 32
  mask : BitVec 32
  deriving DecidableEq, Repr

namespace PoolAddr

def network (entry : PoolAddr) : BitVec 32 := entry.addr &&& entry.mask

def broadcast (entry : PoolAddr) : BitVec 32 := entry.network ||| ~~~entry.mask

def Contains (outer inner : PoolAddr) : Prop :=
  outer.network ≤ inner.network ∧ inner.broadcast ≤ outer.broadcast

instance (outer inner : PoolAddr) :
    Decidable (outer.Contains inner) := inferInstanceAs (Decidable (_ ∧ _))

end PoolAddr

/-- The comparison at the end of compare_cidr. -/
def compareNetworks (entry cidr : PoolAddr) : Int :=
  if entry.Contains cidr then 0
  else if cidr.network < entry.network then 1
  else if entry.network < cidr.network then -1
  else 0

/-- compare_cidr. Its buffer holds 63 bytes; what cannot be read counts as equal. -/
def compareCidr (entry : PoolAddr) (cidr : CString) : Int :=
  let addrBuf := cidr.take 63
  let ip := addrBuf.takeWhile (· ≠ 47)
  let compared := fun (prefixLen : Int) =>
    match inetPton ip with
    | none => 0
    | some addr => compareNetworks entry ⟨addr, prefixMask prefixLen⟩
  match addrBuf.dropWhile (· ≠ 47) with
  | [] => compared 32
  | _ :: after => if atoi after < 0 ∨ 32 < atoi after then 0 else compared (atoi after)

theorem compareNetworks_nonpos {entry cidr : PoolAddr} (below : compareNetworks entry cidr ≤ 0) :
    entry.network ≤ cidr.network := by
  unfold compareNetworks at below
  split at below
  · rename_i inside
    exact inside.1
  · split at below
    · exact absurd below (by decide)
    · rename_i notAbove
      exact BitVec.not_lt.mp notAbove

theorem compareNetworks_neg {entry cidr : PoolAddr} (below : compareNetworks entry cidr < 0) :
    entry.network < cidr.network := by
  unfold compareNetworks at below
  split at below
  · exact absurd below (by decide)
  · split at below
    · exact absurd below (by decide)
    · split at below
      · assumption
      · exact absurd below (by decide)

theorem compareNetworks_pos {entry cidr : PoolAddr} (above : 0 < compareNetworks entry cidr) :
    cidr.network < entry.network := by
  unfold compareNetworks at above
  split at above
  · exact absurd above (by decide)
  · split at above
    · assumption
    · split at above
      · exact absurd above (by decide)
      · exact absurd above (by decide)

theorem compareNetworks_eq_zero_iff (entry cidr : PoolAddr) :
    compareNetworks entry cidr = 0 ↔ entry.Contains cidr ∨ entry.network = cidr.network := by
  constructor
  · intro same
    by_cases inside : entry.Contains cidr
    · exact .inl inside
    · refine .inr (BitVec.le_antisymm (compareNetworks_nonpos (Int.le_of_eq same))
        (BitVec.not_lt.mp fun below => ?_))
      simp [compareNetworks, inside, below, BitVec.lt_asymm below] at same
  · rintro (inside | same)
    · exact if_pos inside
    · simp [compareNetworks, same, BitVec.lt_irrefl]

end Networks

section Prefixes

theorem prefixMask_eq (prefixLen : Nat) (le : prefixLen ≤ 32) :
    prefixMask prefixLen = BitVec.allOnes 32 <<< (32 - prefixLen) := by
  unfold prefixMask
  split
  · rename_i zero
    obtain rfl : prefixLen = 0 := by omega
    decide
  · have count : ((32 - (prefixLen : Int)) % 32).toNat = 32 - prefixLen := by omega
    rw [count]

theorem and_high {width : Nat} (word : BitVec width) (host : Nat) :
    word &&& (BitVec.allOnes width <<< host) = (word >>> host) <<< host := by
  ext place inside
  simp only [BitVec.getElem_and, BitVec.getElem_shiftLeft, BitVec.getElem_allOnes,
    BitVec.getElem_ushiftRight]
  by_cases high : place < host
  · simp [high]
  · have again : host + (place - host) = place := by omega
    simp [high, again, BitVec.getLsbD_eq_getElem inside]

theorem and_high_toNat {width : Nat} (word : BitVec width) (host : Nat) :
    (word &&& (BitVec.allOnes width <<< host)).toNat = word.toNat / 2 ^ host * 2 ^ host := by
  rw [and_high, BitVec.toNat_shiftLeft, BitVec.toNat_ushiftRight, Nat.shiftRight_eq_div_pow,
    Nat.shiftLeft_eq]
  apply Nat.mod_eq_of_lt
  exact Nat.lt_of_le_of_lt (Nat.div_mul_le_self _ _) word.isLt

theorem hostBits : ∀ host ≤ 32, (~~~(BitVec.allOnes 32 <<< host)).toNat = 2 ^ host - 1 := by decide

namespace PoolAddr

/-- The mask is that of a prefix length. -/
def IsPrefix (entry : PoolAddr) : Prop :=
  ∃ prefixLen ≤ 32, entry.mask = prefixMask (prefixLen : Nat)

theorem network_le_broadcast (entry : PoolAddr) : entry.network ≤ entry.broadcast := by
  rw [broadcast, BitVec.le_def, BitVec.toNat_or]
  exact Nat.left_le_or

theorem block_of_mask {entry : PoolAddr} {prefixLen : Nat} (le : prefixLen ≤ 32)
    (mask : entry.mask = prefixMask prefixLen) :
    entry.network.toNat = entry.addr.toNat / 2 ^ (32 - prefixLen) * 2 ^ (32 - prefixLen) ∧
      entry.broadcast.toNat + 1 = (entry.addr.toNat / 2 ^ (32 - prefixLen) + 1) *
          2 ^ (32 - prefixLen) := by
  rw [prefixMask_eq prefixLen le] at mask
  have start : entry.network.toNat = entry.addr.toNat / 2 ^ (32 - prefixLen) *
      2 ^ (32 - prefixLen) := by
    rw [network, mask, and_high_toNat]
  refine ⟨start, ?_⟩
  have size : 0 < 2 ^ (32 - prefixLen) := Nat.two_pow_pos _
  have low : 2 ^ (32 - prefixLen) - 1 < 2 ^ (32 - prefixLen) := by omega
  rw [broadcast, BitVec.toNat_or, start, mask, hostBits _ (Nat.sub_le _ _), ← Nat.shiftLeft_eq,
    ← Nat.shiftLeft_add_eq_or_of_lt low, Nat.shiftLeft_eq, Nat.succ_mul]
  omega

theorem IsPrefix.block {entry : PoolAddr} (isPrefix : entry.IsPrefix) :
    ∃ host index, entry.network.toNat = index * 2 ^ host ∧
        entry.broadcast.toNat + 1 = (index + 1) * 2 ^ host := by
  rcases isPrefix with ⟨prefixLen, le, mask⟩
  exact ⟨_, _, block_of_mask le mask⟩

theorem contains_of_meet {outer inner : PoolAddr} (outerPrefix : outer.IsPrefix)
    (innerPrefix : inner.IsPrefix) (start : outer.network ≤ inner.network)
    (meet : inner.network ≤ outer.broadcast) :
    outer.Contains inner ∨ outer.network = inner.network := by
  rcases outerPrefix.block with ⟨host, index, first, last⟩
  rcases innerPrefix.block with ⟨host', index', first', last'⟩
  rw [BitVec.le_def] at start meet
  -- of two aligned blocks the smaller one lies in the other, and the greater one starts with it
  by_cases smaller : host' ≤ host
  · refine .inl ⟨BitVec.le_def.mpr start, BitVec.le_def.mpr ?_⟩
    have size : 2 ^ host = 2 ^ (host - host') * 2 ^ host' := by
      rw [← Nat.pow_add, Nat.sub_add_cancel smaller]
    have below : index' < (index + 1) * 2 ^ (host - host') := by
      apply Nat.lt_of_mul_lt_mul_right (a := 2 ^ host')
      rw [Nat.mul_assoc, ← size, ← first', ← last]
      omega
    have ends : (index' + 1) * 2 ^ host' ≤ (index + 1) * 2 ^ (host - host') * 2 ^ host' :=
      Nat.mul_le_mul_right _ below
    rw [Nat.mul_assoc, ← size, ← last, ← last'] at ends
    omega
  · refine .inr (BitVec.eq_of_toNat_eq ?_)
    have size : 2 ^ host' = 2 ^ (host' - host) * 2 ^ host := by
      rw [← Nat.pow_add, Nat.sub_add_cancel (Nat.le_of_not_le smaller)]
    rw [size, ← Nat.mul_assoc] at first'
    have least : index ≤ index' * 2 ^ (host' - host) := by
      apply Nat.le_of_mul_le_mul_right (c := 2 ^ host) _ (Nat.two_pow_pos _)
      rw [← first, ← first']
      exact start
    have most : index' * 2 ^ (host' - host) < index + 1 := by
      apply Nat.lt_of_mul_lt_mul_right (a := 2 ^ host)
      rw [← first', ← last]
      omega
    rw [first, first', Nat.le_antisymm least (Nat.le_of_lt_succ most)]

end PoolAddr

end Prefixes

section Valid

/-- An IPv4 address, with its prefix length or as a single one. -/
@[ext]
structure Cidr where
  address : BitVec 32
  prefixLen : Nat
  prefix_le : prefixLen ≤ 32

instance : DecidableEq Cidr := fun _ _ => decidable_of_iff _ Cidr.ext_iff.symm

def Cidr.entry (cidr : Cidr) : PoolAddr := ⟨cidr.address, prefixMask cidr.prefixLen⟩

theorem Cidr.isPrefix (cidr : Cidr) : cidr.entry.IsPrefix := ⟨cidr.prefixLen, cidr.prefix_le, rfl⟩

/-- Four numbers, and one or two digits after the slash. -/
def parseCidr (text : CString) : Option Cidr :=
  (inetPton (text.takeWhile (· ≠ 47))).bind fun address =>
    match text.dropWhile (· ≠ 47) with
    | [] => some ⟨address, 32, by decide⟩
    | _ :: length =>
        if valid : length ≠ [] ∧ length.length ≤ 2 ∧ length.all isDigit ∧ digits length ≤ 32 then
          some ⟨address, digits length, valid.2.2.2⟩
        else none

theorem ptonOctet_some {part : CString} {number : Nat} (valid : ptonOctet part = some number) :
    part ≠ [] ∧ part.length ≤ 3 ∧ part.all isDigit = true ∧ digits part = number ∧
        number ≤ 255 := by
  unfold ptonOctet at valid
  split at valid
  · rename_i conditions
    cases valid
    exact ⟨conditions.1, conditions.2.1, conditions.2.2.1, rfl, conditions.2.2.2.2⟩
  · cases valid

theorem inetPton_octets {text : CString} {address : BitVec 32}
    (read : inetPton text = some address) :
    ∃ first second third fourth firstNumber secondNumber thirdNumber fourthNumber,
      text = first ++ 46 :: (second ++ 46 :: (third ++ 46 :: fourth)) ∧
      ptonOctet first = some firstNumber ∧ ptonOctet second = some secondNumber ∧
      ptonOctet third = some thirdNumber ∧ ptonOctet fourth = some fourthNumber ∧
      address = .ofNat 32
          (((firstNumber * 256 + secondNumber) * 256 + thirdNumber) * 256 + fourthNumber) := by
  unfold inetPton at read
  split at read
  · rename_i numbers
    have joined : [46].intercalate (text.splitOn 46) = text := List.intercalate_splitOn 46
    have parts := (mapM_eq_some_iff _ _ _).mp numbers
    generalize text.splitOn 46 = pieces at joined parts
    rcases parts with _ | ⟨one, _ | ⟨two, _ | ⟨three, _ | ⟨four, _ | _⟩⟩⟩⟩
    refine ⟨_, _, _, _, _, _, _, _, ?_, one, two, three, four, (Option.some.inj read).symm⟩
    rw [← joined]
    simp [List.intercalate, List.intersperse]
  · cases read

theorem inetPton_some {text : CString} {address : BitVec 32} (read : inetPton text = some address) :
    text.length ≤ 15 ∧ ∀ char ∈ text, char = 46 ∨ isDigit char = true := by
  rcases inetPton_octets read with
    ⟨first, second, third, fourth, _, _, _, _, rfl, one, two, three, four, -⟩
  rcases ptonOctet_some one with ⟨-, firstShort, firstDigits, -⟩
  rcases ptonOctet_some two with ⟨-, secondShort, secondDigits, -⟩
  rcases ptonOctet_some three with ⟨-, thirdShort, thirdDigits, -⟩
  rcases ptonOctet_some four with ⟨-, fourthShort, fourthDigits, -⟩
  constructor
  · simp only [List.length_append, List.length_cons]
    omega
  · intro char member
    simp only [List.mem_append, List.mem_cons] at member
    rcases member with here | rfl | here | rfl | here | rfl | here
    · exact .inr (List.all_eq_true.mp firstDigits char here)
    · exact .inl rfl
    · exact .inr (List.all_eq_true.mp secondDigits char here)
    · exact .inl rfl
    · exact .inr (List.all_eq_true.mp thirdDigits char here)
    · exact .inl rfl
    · exact .inr (List.all_eq_true.mp fourthDigits char here)

theorem inetPton_free {text : CString} {address : BitVec 32} (read : inetPton text = some address)
    {char : UInt8} (notDot : char ≠ 46) (notDigit : isDigit char = false) : char ∉ text := by
  intro member
  rcases (inetPton_some read).2 char member with dot | digit
  · exact notDot dot
  · exact Bool.false_ne_true (notDigit.symm.trans digit)

theorem inetPton_colon {text : CString} {address : BitVec 32}
    (read : inetPton text = some address) : 58 ∉ text :=
  inetPton_free read (by decide) (by decide)

theorem digit_plain {char : UInt8} (digit : isDigit char = true) :
    isSpace char = false ∧ char ≠ 45 ∧ char ≠ 43 := by
  simp only [isDigit, decide_eq_true_eq, UInt8.le_iff_toNat_le, UInt8.toNat_ofNat] at digit
  simp only [isSpace, decide_eq_false_iff_not, ne_eq, ← UInt8.toNat_inj, UInt8.le_iff_toNat_le,
    UInt8.toNat_ofNat]
  omega

theorem atoi_append {number : CString} (rest : CString) (some : number ≠ [])
    (all : number.all isDigit = true) (stops : ∀ char ∈ rest.head?, isDigit char = false)
    (small : digits number < 2 ^ 31) :
    atoi (number ++ rest) = digits number := by
  have stopped : rest.takeWhile isDigit = [] := by
    cases rest with
    | nil => rfl
    | cons char rest => exact List.takeWhile_cons_of_neg (by simp [stops char rfl])
  have run : (number ++ rest).takeWhile isDigit = number := by
    rw [List.takeWhile_append_of_pos (List.all_eq_true.mp all), stopped, List.append_nil]
  cases number with
  | nil => exact absurd rfl some
  | cons first more =>
      rcases digit_plain (List.all_eq_true.mp all first List.mem_cons_self) with
        ⟨notSpace, notMinus, notPlus⟩
      have unspaced : (first :: more ++ rest).dropWhile isSpace = first :: more ++ rest :=
        List.dropWhile_cons_of_neg (by simp [notSpace])
      unfold atoi
      simp only [unspaced]
      split
      · rename_i minus
        exact absurd (List.cons.inj minus).1 notMinus
      · rename_i plus
        exact absurd (List.cons.inj plus).1 notPlus
      · rw [run, Int.min_eq_left (by omega), Int.max_eq_right (by omega),
          Int.bmod_eq_of_le (by omega) (by omega)]

theorem atoi_digits {text : CString} (some : text ≠ []) (all : text.all isDigit = true)
    (small : digits text < 2 ^ 31) : atoi text = digits text := by
  have read := atoi_append [] some all (by simp) small
  rwa [List.append_nil] at read

/-- Both readings of a valid string are those of its address and prefix length. -/
theorem parseCidr_reads {text : CString} {cidr : Cidr} (parsed : parseCidr text = some cidr) :
    (∀ inetPton6, fillPfAddrAndMask inetPton6 text = some (.v4 cidr.entry.addr cidr.entry.mask)) ∧
      ∀ entry, compareCidr entry text = compareNetworks entry cidr.entry := by
  unfold parseCidr at parsed
  rcases Option.bind_eq_some_iff.mp parsed with ⟨address, read, rest⟩
  have short := (inetPton_some read).1
  have colon := inetPton_colon read
  have size :=
    congrArg List.length (List.takeWhile_append_dropWhile (p := (· ≠ (47 : UInt8))) (l := text))
  rw [List.length_append] at size
  split at rest
  -- without a slash both readings take the address for a single one
  · rename_i bare
    cases rest
    rw [bare, List.length_nil] at size
    have whole : text.take 63 = text := List.take_of_length_le (by omega)
    have cut : (text.takeWhile (· ≠ 47)).take 45 = text.takeWhile (· ≠ 47) :=
      List.take_of_length_le (by omega)
    constructor
    · intro inetPton6
      unfold fillPfAddrAndMask
      simp only [bare, cut, colon, if_false, read]
      rfl
    · intro entry
      unfold compareCidr
      simp only [whole, bare, read]
      rfl
  -- behind a slash strtol and atoi read the same digits, which are too few to overflow
  · rename_i length slash
    split_ifs at rest with valid
    cases rest
    rw [slash, List.length_cons] at size
    have whole : text.take 63 = text := List.take_of_length_le (by omega)
    have number := atoi_digits valid.1 valid.2.2.1 (by omega)
    constructor
    · intro inetPton6
      unfold fillPfAddrAndMask
      simp only [slash, if_neg (show ¬ 46 ≤ (text.takeWhile (· ≠ 47)).length by omega), colon,
        if_false, read, number]
      rfl
    · intro entry
      unfold compareCidr
      have inRange : ¬ ((digits length : Int) < 0 ∨ 32 < (digits length : Int)) := by omega
      simp only [whole, slash, number, inRange, if_false, read]
      rfl

end Valid

end Dockermock.PfUtil
