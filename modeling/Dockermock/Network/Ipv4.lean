import Mathlib.Data.Nat.Bitwise
import Mathlib.Tactic.Ring
import Mathlib.Tactic.Linarith

/-!
IPv4 addresses and networks as Python's `ipaddress` module has them. A network
carries what the strict constructor checks: a prefix length of at most 32 and no
host bits set in its address, so an `IPv4Network` that exists is well formed.
-/

namespace Dockermock.Network

structure IPv4Address where
  value : Nat
  bound : value < 2 ^ 32
  deriving DecidableEq

structure IPv4Network where
  networkAddress : Nat
  prefixlen : Nat
  prefix_le : prefixlen ≤ 32
  address_lt : networkAddress < 2 ^ 32
  aligned : 2 ^ (32 - prefixlen) ∣ networkAddress
  deriving DecidableEq

/-- The strict constructor's checks on their own. -/
structure Strict (networkAddress prefixlen : Nat) : Prop where
  prefix_le : prefixlen ≤ 32
  address_lt : networkAddress < 2 ^ 32
  aligned : 2 ^ (32 - prefixlen) ∣ networkAddress

namespace IPv4Network

def strict {networkAddress prefixlen : Nat} (valid : Strict networkAddress prefixlen) :
    IPv4Network :=
  ⟨networkAddress, prefixlen, valid.prefix_le, valid.address_lt, valid.aligned⟩

def numAddresses (net : IPv4Network) : Nat := 2 ^ (32 - net.prefixlen)

def broadcast (net : IPv4Network) : Nat := net.networkAddress + (net.numAddresses - 1)

/-- `ip in net` -/
def Contains (net : IPv4Network) (ip : Nat) : Prop :=
  net.networkAddress ≤ ip ∧ ip ≤ net.broadcast

instance (net : IPv4Network) (ip : Nat) : Decidable (net.Contains ip) :=
  inferInstanceAs (Decidable (_ ∧ _))

theorem numAddresses_pos (net : IPv4Network) : 0 < net.numAddresses :=
  Nat.two_pow_pos _

theorem contains_iff_div (net : IPv4Network) (ip : Nat) :
    net.Contains ip ↔ ip / net.numAddresses = net.networkAddress / net.numAddresses := by
  obtain ⟨index, start⟩ := net.aligned
  have positive := net.numAddresses_pos
  have address : net.networkAddress = net.numAddresses * index := start
  have quotient : net.networkAddress / net.numAddresses = index := by
    rw [address, Nat.mul_div_cancel_left _ positive]
  rw [quotient, Nat.div_eq_iff positive, Contains, broadcast, address, Nat.mul_comm]
  constructor <;> intro h <;> omega

theorem broadcast_lt (net : IPv4Network) : net.broadcast < 2 ^ 32 := by
  obtain ⟨index, start⟩ := net.aligned
  have positive := net.numAddresses_pos
  have whole : (2 : Nat) ^ 32 = net.numAddresses * 2 ^ net.prefixlen := by
    rw [numAddresses, ← Nat.pow_add, Nat.sub_add_cancel net.prefix_le]
  have address : net.networkAddress = net.numAddresses * index := start
  have inside := net.address_lt
  rw [whole, address] at inside
  have below : index < 2 ^ net.prefixlen := Nat.lt_of_mul_lt_mul_left inside
  have next : net.numAddresses * (index + 1) ≤ net.numAddresses * 2 ^ net.prefixlen :=
    Nat.mul_le_mul_left _ below
  rw [broadcast, address, whole]
  have expand : net.numAddresses * (index + 1) = net.numAddresses * index + net.numAddresses :=
    Nat.mul_succ _ _
  omega

end IPv4Network

end Dockermock.Network
