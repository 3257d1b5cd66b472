import Mathlib.Data.List.Range
import Dockermock.Network.Ipv4

/-!
Host addresses and the text of addresses, as the `ipaddress` module gives them.
A network of a single address has a plain list for `hosts()`, on which `next`
raises; every other network has an iterator.
-/

namespace Dockermock.Network

structure IPv6Network where
  networkAddress : Nat
  prefixlen : Nat
  prefix_le : prefixlen ≤ 128
  address_lt : networkAddress < 2 ^ 128
  aligned : 2 ^ (128 - prefixlen) ∣ networkAddress
  deriving DecidableEq

inductive IpNetwork where
  | v4 (net : IPv4Network)
  | v6 (net : IPv6Network)
  deriving DecidableEq

/-- `ip_network(..).hosts()` of an IPv4 network with more than one address. -/
def IPv4Network.hosts (net : IPv4Network) : List Nat :=
  if net.prefixlen = 31 then [net.networkAddress, net.networkAddress + 1]
  else List.range' (net.networkAddress + 1) (net.numAddresses - 2)

/-- The same for IPv6, where only the network address itself is left out. -/
def IPv6Network.hosts (net : IPv6Network) : List Nat :=
  if net.prefixlen = 127 then [net.networkAddress, net.networkAddress + 1]
  else List.range' (net.networkAddress + 1) (2 ^ (128 - net.prefixlen) - 1)

/-- What `iter`-less `next(net.hosts())` walks over; nothing where it raises. -/
def IpNetwork.hostIter : IpNetwork → Option (List Nat)
  | .v4 net => if net.prefixlen = 32 then none else some net.hosts
  | .v6 net => if net.prefixlen = 128 then none else some net.hosts

def octet (value shift : Nat) : Nat := value / 2 ^ shift % 256

/-- `str(IPv4Address(value))` -/
def ipv4Text (value : Nat) : String :=
  toString (octet value 24) ++ "." ++ (toString (octet value 16) ++ "." ++
    (toString (octet value 8) ++ "." ++ toString (octet value 0)))

theorem dot_free (value : Nat) : '.' ∉ (toString value).toList := by
  intro member
  have digits : (toString value).toList = Nat.toDigits 10 value := Nat.toList_repr
  rw [digits] at member
  have digit := Nat.isDigit_of_mem_toDigits (by decide) (by decide) member
  simp at digit

theorem toString_injective (left right : Nat)
    (same : (toString left).toList = (toString right).toList) : left = right := by
  have values := congrArg (fun digits => Nat.ofDigitChars 10 digits 0) same
  simpa [Nat.toString_eq_repr] using values

theorem cut_at_dot (first second rest other : List Char) (firstFree : '.' ∉ first)
    (secondFree : '.' ∉ second) (same : first ++ '.' :: rest = second ++ '.' :: other) :
    first = second ∧ rest = other := by
  induction first generalizing second with
  | nil =>
      cases second with
      | nil => simpa using same
      | cons char later =>
          rcases List.cons.inj same with ⟨rfl, _⟩
          simp at secondFree
  | cons char later ih =>
      cases second with
      | nil =>
          rcases List.cons.inj same with ⟨rfl, _⟩
          simp at firstFree
      | cons char' later' =>
          rcases List.cons.inj same with ⟨rfl, tails⟩
          simp only [List.mem_cons, not_or] at firstFree secondFree
          rcases ih later' firstFree.2 secondFree.2 tails with ⟨rfl, rests⟩
          exact ⟨rfl, rests⟩

theorem ipv4Text_injective (left right : Nat) (leftBound : left < 2 ^ 32)
    (rightBound : right < 2 ^ 32) (same : ipv4Text left = ipv4Text right) : left = right := by
  have chars := congrArg String.toList same
  simp only [ipv4Text, String.toList_append, List.append_assoc] at chars
  rcases cut_at_dot _ _ _ _ (dot_free _) (dot_free _) chars with ⟨first, chars⟩
  rcases cut_at_dot _ _ _ _ (dot_free _) (dot_free _) chars with ⟨second, chars⟩
  rcases cut_at_dot _ _ _ _ (dot_free _) (dot_free _) chars with ⟨third, fourth⟩
  have highest := toString_injective _ _ first
  have high := toString_injective _ _ second
  have low := toString_injective _ _ third
  have lowest := toString_injective _ _ fourth
  simp only [octet] at highest high low lowest
  omega

theorem hosts_contains (net : IPv4Network) (value : Nat) (member : value ∈ net.hosts) :
    net.Contains value := by
  unfold IPv4Network.hosts at member
  unfold IPv4Network.Contains IPv4Network.broadcast
  by_cases pair : net.prefixlen = 31
  · have two : net.numAddresses = 2 := by simp [IPv4Network.numAddresses, pair]
    simp only [pair, ↓reduceIte, List.mem_cons, List.not_mem_nil, or_false] at member
    omega
  · simp only [pair, ↓reduceIte, List.mem_range'_1] at member
    omega

theorem hosts_lt (net : IPv4Network) (value : Nat) (member : value ∈ net.hosts) : value < 2 ^ 32 :=
  Nat.lt_of_le_of_lt (hosts_contains net value member).2 net.broadcast_lt

theorem hosts_nodup (net : IPv4Network) : net.hosts.Nodup := by
  unfold IPv4Network.hosts
  split
  · simp
  · exact List.nodup_range'

/-- An address that a host may have: none of the two that stand for the network as a
whole, where there are others. -/
structure IPv4Network.IsHost (net : IPv4Network) (value : Nat) : Prop where
  inside : net.Contains value
  usable : net.prefixlen ≤ 30 → value ≠ net.networkAddress ∧ value ≠ net.broadcast

theorem mem_hosts_iff (net : IPv4Network) (wide : net.prefixlen ≤ 31) (value : Nat) :
    value ∈ net.hosts ↔ net.IsHost value := by
  have parts : net.IsHost value ↔ net.Contains value ∧
      (net.prefixlen ≤ 30 → value ≠ net.networkAddress ∧ value ≠ net.broadcast) :=
    ⟨fun host => ⟨host.inside, host.usable⟩, fun both => ⟨both.1, both.2⟩⟩
  rw [parts]
  unfold IPv4Network.hosts IPv4Network.Contains IPv4Network.broadcast
  by_cases pair : net.prefixlen = 31
  · have two : net.numAddresses = 2 := by simp [IPv4Network.numAddresses, pair]
    simp only [pair, ↓reduceIte, List.mem_cons, List.not_mem_nil, or_false, two]
    omega
  · have four : 2 ^ 2 ≤ net.numAddresses := Nat.pow_le_pow_right (by decide) (by omega)
    simp only [pair, ↓reduceIte, List.mem_range'_1]
    omega

theorem hosts_ascending (net : IPv4Network) :
    net.hosts.Pairwise fun left right => left < right := by
  unfold IPv4Network.hosts
  split
  · simp
  · exact List.pairwise_lt_range'

/-- The first host, which start_network gives to the bridge. -/
def IPv4Network.gateway (net : IPv4Network) : Nat :=
  if net.prefixlen = 31 then net.networkAddress else net.networkAddress + 1

theorem hosts_eq_cons (net : IPv4Network) (wide : net.prefixlen ≤ 31) :
    net.hosts = net.gateway :: net.hosts.tail := by
  unfold IPv4Network.hosts IPv4Network.gateway
  split
  · rfl
  · have four : 2 ^ 2 ≤ net.numAddresses := Nat.pow_le_pow_right (by decide) (by omega)
    have more : net.numAddresses - 2 = net.numAddresses - 3 + 1 := by omega
    rw [more, List.range'_succ, List.tail_cons]

theorem mem_hosts_tail_iff (net : IPv4Network) (wide : net.prefixlen ≤ 31) (value : Nat) :
    value ∈ net.hosts.tail ↔ net.IsHost value ∧ net.gateway < value := by
  have ascending := hosts_ascending net
  rw [hosts_eq_cons net wide, List.pairwise_cons] at ascending
  rw [← mem_hosts_iff net wide]
  constructor
  · intro member
    exact ⟨List.mem_of_mem_tail member, ascending.1 value member⟩
  · rintro ⟨member, above⟩
    rw [hosts_eq_cons net wide] at member
    rcases List.mem_cons.mp member with rfl | later
    · exact absurd above (Nat.lt_irrefl _)
    · exact later

theorem gateway_le (net : IPv4Network) (wide : net.prefixlen ≤ 31) (value : Nat)
    (host : net.IsHost value) : net.gateway ≤ value := by
  by_cases first : value = net.gateway
  · exact Nat.le_of_eq first.symm
  · have member := (mem_hosts_iff net wide value).mpr host
    rw [hosts_eq_cons net wide, List.mem_cons] at member
    have later : value ∈ net.hosts.tail := member.resolve_left first
    exact Nat.le_of_lt ((mem_hosts_tail_iff net wide value).mp later).2

end Dockermock.Network
