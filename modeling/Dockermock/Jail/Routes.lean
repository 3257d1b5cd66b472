import Dockermock.PfUtil.Cidr

/-!
The routes of a jail. add_route takes inet_pton for a function that is negative
on a bad address, where it gives zero, and strncmp for one that is true on equal
texts, where it gives zero as well.
-/

namespace Dockermock.Jail.Routes

open Library PfUtil

/-- `strncmp`: the difference at the first place where two strings differ, within so many bytes. -/
def strncmp : Nat → CString → CString → Int
  | 0, _, _ => 0
  | _ + 1, [], [] => 0
  | _ + 1, [], right :: _ => -(right.toNat : Int)
  | _ + 1, left :: _, [] => left.toNat
  | count + 1, left :: restLeft, right :: restRight =>
      if left = right then strncmp count restLeft restRight else (left.toNat : Int) - right.toNat

def rtfUp : BitVec 32 := 0x1
def rtfGateway : BitVec 32 := 0x2
def rtfHost : BitVec 32 := 0x4
def rtfStatic : BitVec 32 := 0x800

/-- What add_route fills in of a routing message; an address that is not filled in is zero. -/
structure RtMsg where
  version : Nat
  type : Nat
  flags : BitVec 32
  seq : Nat
  addrs : Nat
  dst : BitVec 32
  gw : BitVec 32
  dstMask : BitVec 32
  deriving DecidableEq, Repr

structure Outcome where
  returned : Int
  message : Option RtMsg
  deriving DecidableEq, Repr

/-- `inet_pton(AF_INET, ..)`: what it returns, and what it leaves in a zeroed address. -/
def inetPtonInto (text : CString) : Int × BitVec 32 :=
  match inetPton text with
  | some address => (1, address)
  | none => (0, 0)

def allOnesText : CString := ascii "255.255.255.255"

/-- add_route; `writes` says whether the socket takes the message. -/
def addRoute (writes : Bool) (destination netmask : Option CString) (gateway : CString) : Outcome :=
  match destination, netmask with
  | some destination, some netmask =>
      let flags := rtfUp ||| rtfGateway ||| rtfStatic
      let flags :=
        if strncmp netmask.length netmask allOnesText ≠ 0 then flags ||| rtfHost else flags
      let dst := inetPtonInto destination
      if dst.1 < 0 then ⟨-1, none⟩
      else
        let gw := inetPtonInto gateway
        if gw.1 < 0 then ⟨-1, none⟩
        else
          let dstMask := inetPtonInto netmask
          if dstMask.1 < 0 then ⟨-1, none⟩
          else ⟨if writes then 0 else -1, some ⟨5, 1, flags, 1, 7, dst.2, gw.2, dstMask.2⟩⟩
  | _, _ => ⟨-1, none⟩

def Valid (destination netmask gateway : CString) : Prop :=
  (inetPton destination).isSome ∧ (inetPton netmask).isSome ∧ (inetPton gateway).isSome

instance (destination netmask gateway : CString) : Decidable (Valid destination netmask gateway) :=
  inferInstanceAs (Decidable (_ ∧ _ ∧ _))

structure Guarded (writes : Bool) (destination netmask gateway : CString) : Prop where
  refused : ¬ Valid destination netmask gateway →
    addRoute writes (some destination) (some netmask) gateway = ⟨-1, none⟩
  host : ∀ message, (addRoute writes (some destination) (some netmask) gateway).message =
    some message → (message.flags &&& rtfHost ≠ 0 ↔ inetPton netmask = some (BitVec.allOnes 32))

section Comparing

theorem strncmp_eq_zero_iff {left : CString} (right : CString) (free : 0 ∉ left) :
    strncmp left.length left right = 0 ↔ left <+: right := by
  induction left generalizing right with
  | nil => exact iff_of_true (by rw [List.length_nil, strncmp]) List.nil_prefix
  | cons char rest ih =>
      rw [List.mem_cons, not_or] at free
      cases right with
      | nil =>
          rw [List.length_cons, strncmp]
          have some : char.toNat ≠ 0 := fun zero => free.1 (UInt8.toNat_inj.mp zero).symm
          simp [some]
      | cons other others =>
          rw [List.length_cons, strncmp, List.cons_prefix_cons]
          split_ifs with same
          · rw [ih others free.2, and_iff_right same]
          · have apart : char.toNat ≠ other.toNat := fun equal => same (UInt8.toNat_inj.mp equal)
            simp only [same, false_and, iff_false]
            omega

theorem strncmp_address {text : CString} {address : BitVec 32} (read : inetPton text = some address)
    (right : CString) : strncmp text.length text right = 0 ↔ text <+: right := by
  refine strncmp_eq_zero_iff right fun null => ?_
  rcases (inetPton_some read).2 0 null with dot | digit
  · exact absurd dot (by decide)
  · exact absurd digit (by decide)

end Comparing

section Canonical

theorem isDigit_range {char : UInt8} (digit : isDigit char = true) :
    48 ≤ char.toNat ∧ char.toNat ≤ 57 := by
  simpa [isDigit, UInt8.le_iff_toNat_le] using digit

theorem ptonOctet_full {part : CString} (read : ptonOctet part = some 255) :
    part = ascii "255" := by
  obtain ⟨_, short, numeric, value, _⟩ := ptonOctet_some read
  rw [List.all_eq_true] at numeric
  rcases part with _ | ⟨first, _ | ⟨second, _ | ⟨third, _ | ⟨fourth, rest⟩⟩⟩⟩
  · exact absurd value (by decide)
  · have one := isDigit_range (numeric first (by simp))
    simp only [digits, List.foldl] at value
    omega
  · have one := isDigit_range (numeric first (by simp))
    have two := isDigit_range (numeric second (by simp))
    simp only [digits, List.foldl] at value
    omega
  · have one := isDigit_range (numeric first (by simp))
    have two := isDigit_range (numeric second (by simp))
    have three := isDigit_range (numeric third (by simp))
    simp only [digits, List.foldl] at value
    have hundreds : first = 50 := UInt8.toNat_inj.mp (show first.toNat = 50 by omega)
    have tens : second = 53 := UInt8.toNat_inj.mp (show second.toNat = 53 by omega)
    have ones : third = 53 := UInt8.toNat_inj.mp (show third.toNat = 53 by omega)
    rw [hundreds, tens, ones]
    decide
  · simp only [List.length_cons] at short
    omega

theorem inetPton_allOnes_iff (text : CString) :
    inetPton text = some (BitVec.allOnes 32) ↔ text = allOnesText := by
  constructor
  · intro read
    obtain ⟨first, second, third, fourth, one, two, three, four, rfl, isOne, isTwo, isThree,
        isFour, word⟩ :=
      inetPton_octets read
    obtain ⟨_, _, _, _, leOne⟩ := ptonOctet_some isOne
    obtain ⟨_, _, _, _, leTwo⟩ := ptonOctet_some isTwo
    obtain ⟨_, _, _, _, leThree⟩ := ptonOctet_some isThree
    obtain ⟨_, _, _, _, leFour⟩ := ptonOctet_some isFour
    have number := congrArg BitVec.toNat word
    rw [BitVec.toNat_allOnes, BitVec.toNat_ofNat, Nat.mod_eq_of_lt (by omega)] at number
    obtain rfl : one = 255 := by omega
    obtain rfl : two = 255 := by omega
    obtain rfl : three = 255 := by omega
    obtain rfl : four = 255 := by omega
    rw [ptonOctet_full isOne, ptonOctet_full isTwo, ptonOctet_full isThree, ptonOctet_full isFour]
    decide
  · rintro rfl
    decide +kernel

theorem valid_front {text : CString} (valid : (inetPton text).isSome)
    (front : text <+: allOnesText) :
    text = ascii "255.255.255.2" ∨ text = ascii "255.255.255.25" ∨ text = allOnesText := by
  have cuts : ∀ length ≤ 15, (inetPton (allOnesText.take length)).isSome → 13 ≤ length := by
    decide +kernel
  have whole : text = allOnesText.take text.length := List.prefix_iff_eq_take.mp front
  have short : text.length ≤ 15 := front.length_le
  have long := cuts text.length short (whole ▸ valid)
  rw [whole]
  generalize text.length = length at short long ⊢
  obtain rfl | rfl | rfl : length = 13 ∨ length = 14 ∨ length = 15 := by omega
  · exact .inl (by decide)
  · exact .inr (.inl (by decide))
  · exact .inr (.inr (by decide))

end Canonical

theorem addRoute_eq (writes : Bool) (destination netmask gateway : CString) :
    addRoute writes (some destination) (some netmask) gateway =
      ⟨if writes then 0 else -1, some ⟨5, 1,
        if strncmp netmask.length netmask allOnesText ≠ 0 then
          rtfUp ||| rtfGateway ||| rtfStatic ||| rtfHost
        else rtfUp ||| rtfGateway ||| rtfStatic,
        1, 7, (inetPtonInto destination).2, (inetPtonInto gateway).2,
            (inetPtonInto netmask).2⟩⟩ := by
  have taken : ∀ text, ¬ (inetPtonInto text).1 < 0 := by
    intro text
    rw [inetPtonInto]
    split <;> simp
  simp only [addRoute, taken, if_false]

theorem hostFlag_iff (differs : Prop) [Decidable differs] :
    (if differs then rtfUp ||| rtfGateway ||| rtfStatic ||| rtfHost
      else rtfUp ||| rtfGateway ||| rtfStatic) &&& rtfHost ≠ 0 ↔ differs := by
  split_ifs with holds
  · exact iff_of_true (by decide) holds
  · exact iff_of_false (by decide) holds

/-- Bad addresses are refused and the flag is right exactly where all addresses are good and the
netmask is one of the two that are the front of the full one. -/
theorem addRoute_guarded_iff (writes : Bool) (destination netmask gateway : CString) :
    Guarded writes destination netmask gateway ↔ Valid destination netmask gateway ∧
      (netmask = ascii "255.255.255.2" ∨ netmask = ascii "255.255.255.25") := by
  constructor
  · intro guarded
    have valid : Valid destination netmask gateway := by
      by_contra bad
      have refused := congrArg Outcome.message (guarded.refused bad)
      rw [addRoute_eq] at refused
      cases refused
    have host :=
      guarded.host _ (congrArg Outcome.message (addRoute_eq writes destination netmask gateway))
    dsimp only at host
    obtain ⟨address, read⟩ := Option.isSome_iff_exists.mp valid.2.1
    rw [hostFlag_iff, inetPton_allOnes_iff, ne_eq, strncmp_address read] at host
    refine ⟨valid, ?_⟩
    -- strncmp looks at the front only, so that a shorter text passes for 255.255.255.255
    have front : netmask <+: allOnesText := by
      by_contra apart
      exact apart (host.mp apart ▸ List.prefix_rfl)
    rcases valid_front valid.2.1 front with short | short | full
    · exact .inl short
    · exact .inr short
    · exact absurd front (host.mpr full)
  · rintro ⟨valid, shortened⟩
    refine ⟨fun bad => absurd valid bad, fun message sent => ?_⟩
    rw [addRoute_eq] at sent
    cases sent
    dsimp only
    rw [hostFlag_iff]
    rcases shortened with rfl | rfl
    · exact iff_of_false (by decide) (by decide +kernel)
    · exact iff_of_false (by decide) (by decide +kernel)

/-- The default route of a jail: a route to the host 0.0.0.0. -/
theorem default_route_host :
    ¬ ∀ destination netmask gateway, Guarded true destination netmask gateway := by
  intro claimed
  have host := (claimed (ascii "0.0.0.0") (ascii "0.0.0.0") (ascii "10.0.0.1")).host
    ⟨5, 1, rtfUp ||| rtfGateway ||| rtfStatic ||| rtfHost, 1, 7, 0, 0x0A000001, 0⟩
      (by decide +kernel)
  exact absurd (host.mp (by decide)) (by decide +kernel)

section Network

def offsetToNetmask (offset : Nat) : String :=
  let numericMask := ((1 <<< offset) - 1) <<< (32 - offset)
  let part := fun shift : Nat => toString ((numericMask >>> shift) &&& ((1 <<< 8) - 1))
  part 24 ++ "." ++ part 16 ++ "." ++ part 8 ++ "." ++ part 0

theorem strncmp_offsetToNetmask : ∀ offset < 32,
    strncmp (ascii (offsetToNetmask offset)).length (ascii (offsetToNetmask offset))
        allOnesText ≠ 0 := by
  decide +kernel

/-- Every route that setup_network adds to a subnet is one to a host. -/
theorem subnet_route_host (offset : Nat) (subnet : offset < 32) (writes : Bool)
    (destination gateway : CString) : ∃ message,
      (addRoute writes (some destination) (some (ascii (offsetToNetmask offset))) gateway).message =
      some message ∧ message.flags &&& rtfHost ≠ 0 := by
  have differs := strncmp_offsetToNetmask offset subnet
  generalize ascii (offsetToNetmask offset) = netmask at differs
  rw [addRoute_eq]
  exact ⟨_, rfl, (hostFlag_iff _).mpr differs⟩

end Network

end Dockermock.Jail.Routes
