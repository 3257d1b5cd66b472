import Dockermock.PfUtil.Cidr

/-!
Which strings fill_pf_addr_and_mask takes, and with which mask. It should take
an address, alone or with a prefix length or a netmask behind a slash. atoi
reads what stands behind the slash: it gives 0 for what is no number and the
first byte of a netmask, and no range is checked afterwards, as compare_cidr
does. A text that is too long is cut off where it has no slash.
-/

namespace Dockermock.PfUtil

open Library

section Grammar

def Leading (bit : Nat → Bool) (width len : Nat) : Prop :=
  ∀ place < width, bit place = decide (place < len)

/-- The bits of a byte array, the highest one of the first byte in front. -/
def maskBit (mask : List UInt8) (place : Nat) : Bool :=
  (mask.getD (place / 8) 0).toBitVec.getMsbD (place % 8)

/-- The contiguous mask of a prefix length, for either family. -/
def IsMask4 (len : Nat) (mask : BitVec 32) : Prop := len ≤ 32 ∧ Leading mask.getMsbD 32 len

def IsMask6 (len : Nat) (mask : List UInt8) : Prop :=
  len ≤ 128 ∧ mask.length = 16 ∧ Leading (maskBit mask) 128 len

def Decimal (text : CString) : Prop := text ≠ [] ∧ text.all isDigit = true

instance (text : CString) : Decidable (Decimal text) := inferInstanceAs (Decidable (_ ∧ _))

/-- What stands behind the slash of an IPv4 address, and the mask it means. -/
inductive Mask4 : CString → BitVec 32 → Prop
  | length {suffix mask} (decimal : Decimal suffix) (isMask : IsMask4 (digits suffix) mask) :
      Mask4 suffix mask
  | dotted {suffix mask len} (read : inetPton suffix = some mask) (isMask : IsMask4 len mask) :
      Mask4 suffix mask

/-- Behind the slash of an IPv6 address stands a prefix length. -/
inductive Mask6 : CString → List UInt8 → Prop
  | length {suffix mask} (decimal : Decimal suffix) (isMask : IsMask6 (digits suffix) mask) :
      Mask6 suffix mask

variable (inetPton6 : CString → Option (List UInt8))

inductive Denotes : CString → PfAddr → Prop
  | single4 {text addr mask} (read : inetPton text = some addr) (isMask : IsMask4 32 mask) :
      Denotes text (.v4 addr mask)
  | single6 {text addr mask} (read : inetPton6 text = some addr) (isMask : IsMask6 128 mask) :
      Denotes text (.v6 addr mask)
  | masked4 {text suffix addr mask} (read : inetPton text = some addr) (masks : Mask4 suffix mask) :
      Denotes (text ++ 47 :: suffix) (.v4 addr mask)
  | masked6 {text suffix addr mask} (read : inetPton6 text = some addr)
      (masks : Mask6 suffix mask) : Denotes (text ++ 47 :: suffix) (.v6 addr mask)

/-- What inet_pton takes for AF_INET6 has a colon and no slash, and fits into INET6_ADDRSTRLEN
bytes. -/
structure Ipv6Texts : Prop where
  colon : ∀ {text addr}, inetPton6 text = some addr → 58 ∈ text
  slash : ∀ {text addr}, inetPton6 text = some addr → 47 ∉ text
  short : ∀ {text addr}, inetPton6 text = some addr → text.length ≤ 45

/-- The string is taken exactly when it means something, and then for what it means. -/
def Exact (cidr : CString) : Prop :=
  ∀ out, fillPfAddrAndMask inetPton6 cidr = some out ↔ Denotes inetPton6 cidr out

/-- Without a slash, the text is not cut off inside an address. With one, there is no address in
front of it, or a prefix length in range behind it, or 0.0.0.0 or 255.255.255.254: the one begins
with the number 0, the other with 255, and the shift by 32 - 255 places is one by a single place. -/
def Understood (cidr : CString) : Prop :=
  match cidr.dropWhile (· ≠ 47) with
  | [] => cidr.length ≤ 45 ∨ inetPton6 (cidr.take 45) = none
  | _ :: suffix =>
      let front := cidr.takeWhile (· ≠ 47)
      (inetPton front = none ∧ inetPton6 front = none) ∨
        (Decimal suffix ∧ digits suffix ≤ if 58 ∈ front then 128 else 32) ∨
        (58 ∉ front ∧ (inetPton suffix = some 0 ∨ inetPton suffix = some 0xFFFFFFFE))

instance (cidr : CString) : Decidable (Understood inetPton6 cidr) := by
  unfold Understood
  split <;> infer_instance

end Grammar

section Masks

theorem leading_bit {bit bit' : Nat → Bool} {width len : Nat} (leading : Leading bit width len)
    (leading' : Leading bit' width len) (place : Nat) (inside : place < width) :
    bit place = bit' place :=
  (leading place inside).trans (leading' place inside).symm

theorem isMask4_unique {len : Nat} {mask mask' : BitVec 32} (isMask : IsMask4 len mask)
    (isMask' : IsMask4 len mask') : mask = mask' :=
  BitVec.eq_of_getMsbD_eq fun place inside => leading_bit isMask.2 isMask'.2 place inside

theorem isMask6_unique {len : Nat} {mask mask' : List UInt8} (isMask : IsMask6 len mask)
    (isMask' : IsMask6 len mask') : mask = mask' := by
  apply List.ext_getElem (isMask.2.1.trans isMask'.2.1.symm)
  intro index inside inside'
  apply UInt8.toBitVec_inj.mp
  apply BitVec.eq_of_getMsbD_eq
  intro place low
  have bound : index < 16 := isMask.2.1 ▸ inside
  have same := leading_bit isMask.2.2 isMask'.2.2 (8 * index + place) (by omega)
  have byte : (8 * index + place) / 8 = index := by omega
  have rest : (8 * index + place) % 8 = place := by omega
  simpa [maskBit, byte, rest, inside, inside'] using same

theorem prefixMask_isMask4 {len : Nat} (le : len ≤ 32) : IsMask4 len (prefixMask len) := by
  refine ⟨le, fun place inside => ?_⟩
  rw [prefixMask_eq len le, BitVec.getMsbD_shiftLeft, BitVec.getMsbD_allOnes]
  exact decide_eq_decide.mpr (by omega)

theorem maskBit_low {byte : UInt8} {rest : List UInt8} {place : Nat} (low : place < 8) :
    maskBit (byte :: rest) place = byte.toBitVec.getMsbD place := by
  simp [maskBit, Nat.div_eq_of_lt low, Nat.mod_eq_of_lt low]

theorem maskBit_high {byte : UInt8} {rest : List UInt8} (place : Nat) :
    maskBit (byte :: rest) (place + 8) = maskBit rest place := by
  simp [maskBit]

theorem length_maskBytes (count : Nat) (prefixLen : Int) :
    (maskBytes count prefixLen).length = count := by
  induction count generalizing prefixLen with
  | zero => rfl
  | succ count ih =>
      unfold maskBytes
      split_ifs <;> simp [ih]

theorem byte_leading : ∀ len < 8, 0 < len → ∀ place < 8,
    ((0xFF : UInt8) <<< (8 - (len : Nat) : Int).toNat.toUInt8).toBitVec.getMsbD place =
        decide (place < len) := by
  decide

theorem maskBytes_turn (count len : Nat) :
    ∃ byte : UInt8, maskBytes (count + 1) len = byte :: maskBytes count ((len - 8 : Nat) : Int) ∧
      ∀ place < 8, byte.toBitVec.getMsbD place = decide (place < len) := by
  rw [maskBytes]
  split_ifs with full part
  · have fewer : (len : Int) - 8 = (len - 8 : Nat) := by omega
    refine ⟨0xFF, by rw [fewer], fun place low => ?_⟩
    rw [show (0xFF : UInt8).toBitVec = BitVec.allOnes 8 from rfl, BitVec.getMsbD_allOnes]
    exact decide_eq_decide.mpr (by omega)
  · have fewer : len - 8 = 0 := by omega
    exact ⟨_, by rw [fewer]; rfl, byte_leading len (by omega) (by omega)⟩
  · obtain rfl : len = 0 := by omega
    exact ⟨0, rfl, by decide⟩

theorem maskBytes_leading (count len : Nat) :
    Leading (maskBit (maskBytes count len)) (8 * count) len := by
  induction count generalizing len with
  | zero => exact fun place inside => absurd inside (Nat.not_lt_zero place)
  | succ count ih =>
      obtain ⟨byte, turn, bits⟩ := maskBytes_turn count len
      intro place inside
      rw [turn]
      by_cases low : place < 8
      · rw [maskBit_low low, bits place low]
      · obtain ⟨further, rfl⟩ := Nat.exists_eq_add_of_le' (Nat.le_of_not_lt low)
        rw [maskBit_high, ih (len - 8) further (by omega)]
        exact decide_eq_decide.mpr (by omega)

theorem maskBytes_isMask6 {len : Nat} (le : len ≤ 128) : IsMask6 len (maskBytes 16 len) :=
  ⟨le, length_maskBytes 16 len, maskBytes_leading 16 len⟩

end Masks

section Suffixes

theorem Decimal.not_dotted {text : CString} (decimal : Decimal text) : inetPton text = none := by
  rw [Option.eq_none_iff_forall_ne_some]
  intro addr read
  obtain ⟨first, _, _, _, _, _, _, _, rfl, -⟩ := inetPton_octets read
  exact absurd (List.all_eq_true.mp decimal.2 46 (by simp)) (by decide)

theorem Mask4.unique {suffix : CString} {mask mask' : BitVec 32} (masks : Mask4 suffix mask)
    (masks' : Mask4 suffix mask') : mask = mask' := by
  cases masks with
  | length decimal isMask =>
      cases masks' with
      | length _ isMask' => exact isMask4_unique isMask isMask'
      | dotted read _ => cases decimal.not_dotted.symm.trans read
  | dotted read _ =>
      cases masks' with
      | length decimal _ => cases decimal.not_dotted.symm.trans read
      | dotted read' _ => exact Option.some.inj (read.symm.trans read')

theorem Mask6.unique {suffix : CString} {mask mask' : List UInt8} (masks : Mask6 suffix mask)
    (masks' : Mask6 suffix mask') : mask = mask' := by
  cases masks with
  | length _ isMask =>
      cases masks' with
      | length _ isMask' => exact isMask6_unique isMask isMask'

theorem atoi_inetPton {text : CString} {mask : BitVec 32} (read : inetPton text = some mask) :
    atoi text = (mask.toNat / 2 ^ 24 : Nat) := by
  obtain ⟨first, second, third, fourth, _, _, _, _, rfl, one, two, three, four, rfl⟩ :=
    inetPton_octets read
  obtain ⟨nonempty, -, allDigits, rfl, firstByte⟩ := ptonOctet_some one
  obtain ⟨-, -, -, -, secondByte⟩ := ptonOctet_some two
  obtain ⟨-, -, -, -, thirdByte⟩ := ptonOctet_some three
  obtain ⟨-, -, -, -, fourthByte⟩ := ptonOctet_some four
  have number : atoi (first ++ 46 :: (second ++ 46 :: (third ++ 46 :: fourth))) = digits first := by
    apply atoi_append _ nonempty allDigits _ (by omega)
    rintro char ⟨⟩
    decide
  rw [number, BitVec.toNat_ofNat]
  omega

theorem prefixMask_first : ∀ len ≤ 32,
    prefixMask ((prefixMask (len : Nat)).toNat / 2 ^ 24 : Nat) = prefixMask (len : Nat) →
    prefixMask (len : Nat) = 0 ∨ prefixMask (len : Nat) = 0xFFFFFFFE := by
  decide

/-- The mask that is stored is the one that is meant. -/
theorem mask4_read_iff (suffix : CString) : Mask4 suffix (prefixMask (atoi suffix)) ↔
    (Decimal suffix ∧ digits suffix ≤ 32) ∨ inetPton suffix = some 0 ∨
        inetPton suffix = some 0xFFFFFFFE := by
  constructor
  · generalize stored : prefixMask (atoi suffix) = mask
    intro masks
    cases masks with
    | length decimal isMask => exact .inl ⟨decimal, isMask.1⟩
    | dotted read isMask =>
        obtain rfl := isMask4_unique isMask (prefixMask_isMask4 isMask.1)
        rw [atoi_inetPton read] at stored
        have ends := prefixMask_first _ isMask.1 stored
        rw [read]
        exact .inr (ends.imp (congrArg some) (congrArg some))
  · rintro (⟨decimal, inRange⟩ | zero | last)
    · rw [atoi_digits decimal.1 decimal.2 (by omega)]
      exact .length decimal (prefixMask_isMask4 inRange)
    · rw [atoi_inetPton zero]
      exact .dotted zero (prefixMask_isMask4 (Nat.zero_le 32))
    · have mask : prefixMask (atoi suffix) = 0xFFFFFFFE := by
        rw [atoi_inetPton last]
        decide
      have isMask : IsMask4 31 (prefixMask (31 : Nat)) := prefixMask_isMask4 (by decide)
      have same : prefixMask (31 : Nat) = 0xFFFFFFFE := by decide
      rw [same] at isMask
      rw [mask]
      exact .dotted last isMask

theorem mask6_read_iff (suffix : CString) :
    Mask6 suffix (maskBytes 16 (atoi suffix)) ↔ Decimal suffix ∧ digits suffix ≤ 128 := by
  constructor
  · generalize maskBytes 16 (atoi suffix) = mask
    intro masks
    cases masks with
    | length decimal isMask => exact ⟨decimal, isMask.1⟩
  · rintro ⟨decimal, inRange⟩
    rw [atoi_digits decimal.1 decimal.2 (by omega)]
    exact .length decimal (maskBytes_isMask6 inRange)

end Suffixes

section Strings

variable {inetPton6 : CString → Option (List UInt8)}

theorem inetPton_slash {text : CString} {addr : BitVec 32} (read : inetPton text = some addr) :
    47 ∉ text :=
  inetPton_free read (by decide) (by decide)

theorem Ipv6Texts.not_v6 (texts : Ipv6Texts inetPton6) {text : CString} {addr : BitVec 32}
    (read : inetPton text = some addr) : inetPton6 text = none := by
  rw [Option.eq_none_iff_forall_ne_some]
  exact fun _ read6 => inetPton_colon read (texts.colon read6)

theorem inetPton_long {text : CString} (long : 15 < text.length) : inetPton text = none := by
  rw [Option.eq_none_iff_forall_ne_some]
  intro _ read
  exact Nat.not_lt.mpr (inetPton_some read).1 long

theorem Ipv6Texts.long (texts : Ipv6Texts inetPton6) {text : CString} (long : 45 < text.length) :
    inetPton text = none ∧ inetPton6 text = none := by
  refine ⟨inetPton_long (by omega), ?_⟩
  rw [Option.eq_none_iff_forall_ne_some]
  intro _ read
  exact Nat.not_lt.mpr (texts.short read) long

theorem denotes_bare (inetPton6 : CString → Option (List UInt8)) {cidr : CString}
    (noSlash : 47 ∉ cidr) (out : PfAddr) : Denotes inetPton6 cidr out ↔
    (∃ addr mask, inetPton cidr = some addr ∧ IsMask4 32 mask ∧ out = .v4 addr mask) ∨
      ∃ addr mask, inetPton6 cidr = some addr ∧ IsMask6 128 mask ∧ out = .v6 addr mask := by
  constructor
  · intro denotes
    cases denotes with
    | single4 read isMask => exact .inl ⟨_, _, read, isMask, rfl⟩
    | single6 read isMask => exact .inr ⟨_, _, read, isMask, rfl⟩
    | masked4 _ _ => simp at noSlash
    | masked6 _ _ => simp at noSlash
  · rintro (⟨addr, mask, read, isMask, rfl⟩ | ⟨addr, mask, read, isMask, rfl⟩)
    · exact .single4 read isMask
    · exact .single6 read isMask

theorem denotes_masked (texts : Ipv6Texts inetPton6) {front : CString} (suffix : CString)
    (noSlash : 47 ∉ front) (out : PfAddr) : Denotes inetPton6 (front ++ 47 :: suffix) out ↔
      (∃ addr mask, inetPton front = some addr ∧ Mask4 suffix mask ∧ out = .v4 addr mask) ∨
        ∃ addr mask, inetPton6 front = some addr ∧ Mask6 suffix mask ∧ out = .v6 addr mask := by
  constructor
  · generalize whole : front ++ 47 :: suffix = cidr
    have slash : 47 ∈ cidr := by simp [← whole]
    intro denotes
    cases denotes with
    | single4 read _ => exact absurd slash (inetPton_slash read)
    | single6 read _ => exact absurd slash (texts.slash read)
    | masked4 read masks =>
        obtain ⟨rfl, rfl⟩ := cut_unique noSlash (inetPton_slash read) whole
        exact .inl ⟨_, _, read, masks, rfl⟩
    | masked6 read masks =>
        obtain ⟨rfl, rfl⟩ := cut_unique noSlash (texts.slash read) whole
        exact .inr ⟨_, _, read, masks, rfl⟩
  · rintro (⟨addr, mask, read, masks, rfl⟩ | ⟨addr, mask, read, masks, rfl⟩)
    · exact .masked4 read masks
    · exact .masked6 read masks

theorem exact_iff_stored {Mask : Type} (means : Mask → Prop) (made : Mask → PfAddr) {stored : Mask}
    {cidr : CString} (filled : fillPfAddrAndMask inetPton6 cidr = some (made stored))
    (denotes : ∀ out, Denotes inetPton6 cidr out ↔ ∃ mask, means mask ∧ out = made mask)
    (injective : Function.Injective made)
    (unique : ∀ mask mask', means mask → means mask' → mask = mask') :
    Exact inetPton6 cidr ↔ means stored := by
  constructor
  · intro exactly
    obtain ⟨mask, meant, same⟩ := (denotes _).mp ((exactly _).mp filled)
    rwa [injective same]
  · intro meant out
    rw [filled, denotes, Option.some.injEq]
    constructor
    · exact fun same => ⟨stored, meant, same.symm⟩
    · rintro ⟨mask, meant', rfl⟩
      rw [unique stored mask meant meant']

theorem exact_of_neither {cidr : CString} (refused : fillPfAddrAndMask inetPton6 cidr = none)
    (means : ∀ out, ¬ Denotes inetPton6 cidr out) : Exact inetPton6 cidr := by
  intro out
  rw [refused]
  exact ⟨fun taken => (by cases taken), fun denotes => absurd denotes (means out)⟩

theorem fill_bare (inetPton6 : CString → Option (List UInt8)) {cidr : CString}
    (noSlash : 47 ∉ cidr) : fillPfAddrAndMask inetPton6 cidr =
      if 58 ∈ cidr.take 45 then (inetPton6 (cidr.take 45)).map fun addr =>
        .v6 addr (maskBytes 16 128)
      else (inetPton (cidr.take 45)).map fun addr => .v4 addr (prefixMask 32) := by
  unfold fillPfAddrAndMask
  simp only [takeWhile_free noSlash, dropWhile_free noSlash]
  split <;> rfl

theorem fill_masked (texts : Ipv6Texts inetPton6) {front : CString} (suffix : CString)
    (noSlash : 47 ∉ front) : fillPfAddrAndMask inetPton6 (front ++ 47 :: suffix) =
      if 58 ∈ front then (inetPton6 front).map fun addr => .v6 addr (maskBytes 16 (atoi suffix))
      else (inetPton front).map fun addr => .v4 addr (prefixMask (atoi suffix)) := by
  unfold fillPfAddrAndMask
  simp only [takeWhile_separator suffix noSlash, dropWhile_separator suffix noSlash]
  split
  · rename_i long
    rcases texts.long long with ⟨none4, none6⟩
    simp [none4, none6]
  · rfl

/-- Read as an address of the one family or the other, a string is taken as it is meant when the
mask that is stored for this family is. -/
theorem exact_iff_masks (texts : Ipv6Texts inetPton6) {front cidr : CString}
    {means4 : BitVec 32 → Prop} {means6 : List UInt8 → Prop} {stored4 : BitVec 32}
    {stored6 : List UInt8}
    (filled : fillPfAddrAndMask inetPton6 cidr = if 58 ∈ front then (inetPton6 front).map
      fun addr => .v6 addr stored6 else (inetPton front).map fun addr => .v4 addr stored4)
    (denotes : ∀ out, Denotes inetPton6 cidr out ↔
      (∃ addr mask, inetPton front = some addr ∧ means4 mask ∧ out = .v4 addr mask) ∨ ∃ addr mask,
        inetPton6 front = some addr ∧ means6 mask ∧ out = .v6 addr mask)
    (unique4 : ∀ mask mask', means4 mask → means4 mask' → mask = mask')
    (unique6 : ∀ mask mask', means6 mask → means6 mask' → mask = mask') :
    Exact inetPton6 cidr ↔ (inetPton front = none ∧ inetPton6 front = none) ∨
      (58 ∉ front ∧ means4 stored4) ∨ (58 ∈ front ∧ means6 stored6) := by
  cases read4 : inetPton front with
  | some addr =>
      -- An IPv4 address
      have colon := inetPton_colon read4
      rw [if_neg colon, read4] at filled
      simp only [read4, texts.not_v6 read4] at denotes
      rw [exact_iff_stored means4 (PfAddr.v4 addr) filled _ _ unique4]
      · simp [colon]
      · intro out
        rw [denotes out]
        simp
      · exact fun _ _ same => (PfAddr.v4.inj same).2
  | none =>
      cases read6 : inetPton6 front with
      | some addr =>
          -- An IPv6 address
          have colon := texts.colon read6
          rw [if_pos colon, read6] at filled
          simp only [read4, read6] at denotes
          rw [exact_iff_stored means6 (PfAddr.v6 addr) filled _ _ unique6]
          · simp [colon]
          · intro out
            rw [denotes out]
            simp
          · exact fun _ _ same => (PfAddr.v6.inj same).2
      | none =>
          -- Neither
          refine iff_of_true (exact_of_neither ?_ fun out meant => ?_) (.inl ⟨rfl, rfl⟩)
          · rw [filled, read4, read6]
            simp
          · simp [denotes, read4, read6] at meant

theorem exact_bare_short (texts : Ipv6Texts inetPton6) {cidr : CString} (noSlash : 47 ∉ cidr)
    (whole : cidr.length ≤ 45) : Exact inetPton6 cidr := by
  have filled := fill_bare inetPton6 noSlash
  rw [List.take_of_length_le whole] at filled
  rw [exact_iff_masks texts filled (denotes_bare inetPton6 noSlash) (fun _ _ => isMask4_unique)
    fun _ _ => isMask6_unique]
  by_cases colon : 58 ∈ cidr
  · exact .inr (.inr ⟨colon, maskBytes_isMask6 (Nat.le_refl 128)⟩)
  · exact .inr (.inl ⟨colon, prefixMask_isMask4 (Nat.le_refl 32)⟩)

/-- A text that does not fit into the buffer is cut off, and its beginning may be an address. -/
theorem exact_bare_long (texts : Ipv6Texts inetPton6) {cidr : CString} (noSlash : 47 ∉ cidr)
    (long : 45 < cidr.length) : Exact inetPton6 cidr ↔ inetPton6 (cidr.take 45) = none := by
  have cut : (cidr.take 45).length = 45 := by
    rw [List.length_take]
    omega
  have meaningless : ∀ out, ¬ Denotes inetPton6 cidr out := by
    intro out
    rcases texts.long long with ⟨none4, none6⟩
    rw [denotes_bare inetPton6 noSlash, none4, none6]
    rintro (⟨_, _, read, -⟩ | ⟨_, _, read, -⟩)
    · cases read
    · cases read
  have none4 : inetPton (cidr.take 45) = none := inetPton_long (by omega)
  have filled := fill_bare inetPton6 noSlash
  constructor
  · intro exactly
    by_contra read
    obtain ⟨addr, read⟩ := Option.ne_none_iff_exists'.mp read
    rw [if_pos (texts.colon read), read] at filled
    exact meaningless _ ((exactly _).mp filled)
  · intro none6
    refine exact_of_neither ?_ meaningless
    rw [filled, none4, none6]
    simp

theorem exact_masked_iff (texts : Ipv6Texts inetPton6) {front : CString} (suffix : CString)
    (noSlash : 47 ∉ front) : Exact inetPton6 (front ++ 47 :: suffix) ↔
      (inetPton front = none ∧ inetPton6 front = none) ∨
        (Decimal suffix ∧ digits suffix ≤ if 58 ∈ front then 128 else 32) ∨
        (58 ∉ front ∧ (inetPton suffix = some 0 ∨ inetPton suffix = some 0xFFFFFFFE)) := by
  rw [exact_iff_masks texts (fill_masked texts suffix noSlash) (denotes_masked texts suffix noSlash)
    (fun _ _ => Mask4.unique) fun _ _ => Mask6.unique, mask4_read_iff, mask6_read_iff]
  by_cases colon : 58 ∈ front
  · simp [colon]
  · simp [colon]

end Strings

/-- fill_pf_addr_and_mask takes a string for what it means, and refuses all others, exactly as far
as the string can be read with atoi and in the buffer. -/
theorem fillPfAddrAndMask_exact_iff (inetPton6 : CString → Option (List UInt8))
    (texts : Ipv6Texts inetPton6) (cidr : CString) :
    Exact inetPton6 cidr ↔ Understood inetPton6 cidr := by
  by_cases slash : 47 ∈ cidr
  · obtain ⟨front, suffix, rfl, noSlash⟩ := List.eq_append_cons_of_mem slash
    unfold Understood
    simp only [takeWhile_separator suffix noSlash, dropWhile_separator suffix noSlash]
    exact exact_masked_iff texts suffix noSlash
  · unfold Understood
    simp only [dropWhile_free slash]
    by_cases whole : cidr.length ≤ 45
    · exact iff_of_true (exact_bare_short texts slash whole) (.inl whole)
    · rw [exact_bare_long texts slash (by omega), or_iff_right whole]

def loopbackReader (text : CString) : Option (List UInt8) :=
  if text = [58, 58, 49] then some (List.replicate 15 0 ++ [1]) else none

theorem loopbackReader_texts : Ipv6Texts loopbackReader := by
  have only : ∀ {text addr}, loopbackReader text = some addr → text = [58, 58, 49] := by
    intro text addr read
    unfold loopbackReader at read
    split at read
    · assumption
    · cases read
  constructor <;> intro text addr read <;> rw [only read] <;> decide

/-- Read with a prefix length, with the netmask that matches every address, and with one that is
misread. -/
theorem fillPfAddrAndMask_exact_network : Exact loopbackReader (ascii "10.1.0.0/16") ∧
    Exact loopbackReader (ascii "0.0.0.0/0.0.0.0") ∧ Exact loopbackReader (ascii "::1/64") ∧
    ¬ Exact loopbackReader (ascii "10.1.0.0/255.255.0.0") :=
  ⟨(fillPfAddrAndMask_exact_iff loopbackReader loopbackReader_texts _).mpr (by decide +kernel),
    (fillPfAddrAndMask_exact_iff loopbackReader loopbackReader_texts _).mpr (by decide +kernel),
    (fillPfAddrAndMask_exact_iff loopbackReader loopbackReader_texts _).mpr (by decide +kernel),
    (fillPfAddrAndMask_exact_iff loopbackReader loopbackReader_texts _).not.mpr (by decide +kernel)⟩

/-- What stands behind the slash is no number: the mask matches every address. -/
theorem fillPfAddrAndMask_garbage :
    fillPfAddrAndMask loopbackReader (ascii "10.0.0.1/abc") = some (.v4 0x0A000001 0) ∧
    ¬ Exact loopbackReader (ascii "10.0.0.1/abc") := by
  refine ⟨by decide +kernel, ?_⟩
  have parts : ascii "10.0.0.1/abc" = ascii "10.0.0.1" ++ 47 :: ascii "abc" := by decide +kernel
  rw [parts, exact_masked_iff loopbackReader_texts _ (by decide +kernel)]
  decide +kernel

end Dockermock.PfUtil
