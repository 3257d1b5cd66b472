import Mathlib.Data.Nat.Find
import Dockermock.Library.Lists
import Dockermock.Network.Hosts

/-!
The texts that `ipaddress` takes for IPv4 addresses and networks: four decimal
octets without leading zeros, and behind a slash a prefix length, a netmask or a
hostmask. The text of a network is read back as that network.
-/

namespace Dockermock.Network

/-- `text.isascii() and text.isdigit()` -/
def isDecimal (chars : List Char) : Bool := !chars.isEmpty && chars.all Char.isDigit

def decimal (chars : List Char) : Nat := Nat.ofDigitChars 10 chars 0

def parseOctet (chars : List Char) : Option Nat :=
  if isDecimal chars = false then none
  else if 3 < chars.length then none
  else if chars ≠ ['0'] ∧ chars.head? = some '0' then none
  else if 255 < decimal chars then none
  else some (decimal chars)

def ipIntFromString (chars : List Char) : Option Nat :=
  match (chars.splitOn '.').mapM parseOctet with
  | some [first, second, third, fourth] =>
      some (((first * 256 + second) * 256 + third) * 256 + fourth)
  | _ => none

def prefixFromPrefixString (chars : List Char) : Option Nat :=
  if isDecimal chars = true ∧ decimal chars ≤ 32 then some (decimal chars) else none

def countRighthandZeroBits (value : Nat) : Nat := Nat.findGreatest (fun bits => 2 ^ bits ∣ value) 32

def prefixFromIpInt (value : Nat) : Option Nat :=
  let trailingZeroes := countRighthandZeroBits value
  if value / 2 ^ trailingZeroes = 2 ^ (32 - trailingZeroes) - 1 then
    some (32 - trailingZeroes)
  else none

/-- _prefix_from_ip_string: a netmask, or else a hostmask -/
def prefixFromIpString (chars : List Char) : Option Nat :=
  (ipIntFromString chars).bind fun value =>
    (prefixFromIpInt value).or (prefixFromIpInt (2 ^ 32 - 1 - value))

def makeNetmask (chars : List Char) : Option Nat :=
  (prefixFromPrefixString chars).or (prefixFromIpString chars)

instance (networkAddress prefixlen : Nat) : Decidable (Strict networkAddress prefixlen) :=
  decidable_of_iff
    (prefixlen ≤ 32 ∧ networkAddress < 2 ^ 32 ∧ 2 ^ (32 - prefixlen) ∣ networkAddress)
    ⟨fun checks => ⟨checks.1, checks.2.1, checks.2.2⟩,
      fun valid => ⟨valid.prefix_le, valid.address_lt, valid.aligned⟩⟩

/-- `IPv4Network((address, prefixlen))`, nothing where it raises -/
def IPv4Network.make (address prefixlen : Nat) : Option IPv4Network :=
  if valid : Strict address prefixlen then some (.strict valid) else none

def ipv4Network (text : String) : Option IPv4Network :=
  match text.toList.splitOn '/' with
  | [address] => (ipIntFromString address).bind fun value => IPv4Network.make value 32
  | [address, mask] => (ipIntFromString address).bind fun value =>
      (makeNetmask mask).bind (IPv4Network.make value)
  | _ => none

/-- `IPv4Interface(text)`, an address with the prefix length of its network -/
def ipv4Interface (text : String) : Option (Nat × Nat) :=
  match text.toList.splitOn '/' with
  | [address] => (ipIntFromString address).map fun value => (value, 32)
  | [address, mask] => (ipIntFromString address).bind fun value =>
      (makeNetmask mask).map fun bits => (value, bits)
  | _ => none

def netmaskText (prefixlen : Nat) : String := ipv4Text (2 ^ 32 - 2 ^ (32 - prefixlen))

/-- `ip_network(text)`: what is no IPv4 network is tried as an IPv6 one. -/
def ipNetwork (ipv6Network : String → Option IPv6Network) (text : String) : Option IpNetwork :=
  match ipv4Network text with
  | some net => some (.v4 net)
  | none => (ipv6Network text).map .v6

theorem make_eq (net : IPv4Network) :
    IPv4Network.make net.networkAddress net.prefixlen = some net :=
  dif_pos ⟨net.prefix_le, net.address_lt, net.aligned⟩

theorem make_eq_some_iff (address prefixlen : Nat) (net : IPv4Network) :
    IPv4Network.make address prefixlen = some net ↔
        net.networkAddress = address ∧ net.prefixlen = prefixlen := by
  constructor
  · intro made
    rcases Option.dite_none_right_eq_some.mp made with ⟨valid, same⟩
    rw [← Option.some.inj same]
    exact ⟨rfl, rfl⟩
  · rintro ⟨rfl, rfl⟩
    exact make_eq net

section RoundTrip

theorem parseOctet_toString : ∀ value < 256, parseOctet (toString value).toList = some value := by
  decide +kernel

theorem prefixFromPrefixString_toString :
    ∀ value ≤ 32, prefixFromPrefixString (toString value).toList = some value := by
  decide +kernel

theorem octet_lt (value shift : Nat) : octet value shift < 256 := Nat.mod_lt _ (by decide)

theorem ipv4Text_toList (value : Nat) : (ipv4Text value).toList =
    (toString (octet value 24)).toList ++ '.' :: ((toString (octet value 16)).toList ++
      '.' :: ((toString (octet value 8)).toList ++ '.' :: (toString (octet value 0)).toList)) := by
  simp [ipv4Text]

theorem splitOn_ipv4Text (value : Nat) : (ipv4Text value).toList.splitOn '.' =
    [(toString (octet value 24)).toList, (toString (octet value 16)).toList,
      (toString (octet value 8)).toList, (toString (octet value 0)).toList] := by
  rw [ipv4Text_toList, List.splitOn_append_cons_self_of_not_mem (dot_free _),
    List.splitOn_append_cons_self_of_not_mem (dot_free _),
    List.splitOn_append_cons_self_of_not_mem (dot_free _), List.splitOn_eq_singleton (dot_free _)]

theorem ipIntFromString_ipv4Text (value : Nat) (bound : value < 2 ^ 32) :
    ipIntFromString (ipv4Text value).toList = some value := by
  have octets : ((ipv4Text value).toList.splitOn '.').mapM parseOctet =
      some [octet value 24, octet value 16, octet value 8, octet value 0] := by
    have read : ∀ shift, parseOctet (toString (octet value shift)).toList =
        some (octet value shift) :=
      fun shift => parseOctet_toString _ (octet_lt value shift)
    rw [splitOn_ipv4Text, Library.mapM_eq_some_iff]
    exact .cons (read 24) (.cons (read 16) (.cons (read 8) (.cons (read 0) .nil)))
  rw [ipIntFromString, octets]
  simp only [octet, Option.some.injEq]
  omega

theorem slash_free_toString (value : Nat) : '/' ∉ (toString value).toList := by
  intro member
  have digits : (toString value).toList = Nat.toDigits 10 value := Nat.toList_repr
  rw [digits] at member
  have digit := Nat.isDigit_of_mem_toDigits (by decide) (by decide) member
  simp at digit

theorem slash_free_ipv4Text (value : Nat) : '/' ∉ (ipv4Text value).toList := by
  simp only [ipv4Text_toList, List.mem_append, List.mem_cons, not_or]
  exact ⟨slash_free_toString _, by decide, slash_free_toString _, by
    decide, slash_free_toString _, by decide,
    slash_free_toString _⟩

def IPv4Network.text (net : IPv4Network) : String :=
  ipv4Text net.networkAddress ++ "/" ++ toString net.prefixlen

theorem ipv4Network_text (net : IPv4Network) : ipv4Network net.text = some net := by
  have chars : net.text.toList.splitOn '/' =
      [(ipv4Text net.networkAddress).toList, (toString net.prefixlen).toList] := by
    have parts : net.text.toList =
        (ipv4Text net.networkAddress).toList ++ '/' :: (toString net.prefixlen).toList := by
      simp [IPv4Network.text]
    rw [parts, List.splitOn_append_cons_self_of_not_mem (slash_free_ipv4Text _),
      List.splitOn_eq_singleton (slash_free_toString _)]
  have mask : makeNetmask (toString net.prefixlen).toList = some net.prefixlen := by
    rw [makeNetmask, prefixFromPrefixString_toString _ net.prefix_le, Option.some_or]
  rw [ipv4Network, chars]
  simp only [ipIntFromString_ipv4Text _ net.address_lt, mask, Option.bind_some, make_eq]

theorem ipNetwork_text (ipv6Network : String → Option IPv6Network) (net : IPv4Network) :
    ipNetwork ipv6Network net.text = some (.v4 net) := by
  rw [ipNetwork, ipv4Network_text]

end RoundTrip

end Dockermock.Network
