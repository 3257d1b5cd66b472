import Mathlib.Data.List.Range
import Dockermock.Network.Parsing

/-!
The subnets of a network and the overlap test of the `ipaddress` module. The
test looks at the end points of the two networks only, and is the same as having
an address in common.
-/

namespace Dockermock.Network

open Library

/-- `range(start, stop, step)` for a positive step -/
def pyRange (start stop step : Nat) : List Nat :=
  List.range' start ((stop - start + step - 1) / step) step

namespace IPv4Network

/-- `net.subnets(new_prefix=newPrefix)`, nothing where it raises -/
def subnets (net : IPv4Network) (newPrefix : Nat) : Option (List IPv4Network) :=
  if net.prefixlen = 32 then some [net]
  else if newPrefix < net.prefixlen then none
  else if 32 < newPrefix then none
  else
    let step := net.numAddresses / 2 ^ (newPrefix - net.prefixlen)
    (pyRange net.networkAddress (net.broadcast + 1) step).mapM fun address => make address newPrefix

end IPv4Network

/-- `net.overlaps(other)` by the first and the last addresses of the two -/
def endsOverlap (first last otherFirst otherLast : Nat) : Bool :=
  (otherFirst ≤ first && first ≤ otherLast) || ((otherFirst ≤ last && last ≤ otherLast) ||
    ((first ≤ otherFirst && otherFirst ≤ last) || (first ≤ otherLast && otherLast ≤ last)))

def IPv4Network.overlaps (net other : IPv4Network) : Bool :=
  endsOverlap net.networkAddress net.broadcast other.networkAddress other.broadcast

namespace IPv6Network

def broadcast (net : IPv6Network) : Nat := net.networkAddress + (2 ^ (128 - net.prefixlen) - 1)

def Contains (net : IPv6Network) (ip : Nat) : Prop := net.networkAddress ≤ ip ∧ ip ≤ net.broadcast

def overlaps (net other : IPv6Network) : Bool :=
  endsOverlap net.networkAddress net.broadcast other.networkAddress other.broadcast

end IPv6Network

/-- Networks of different versions contain nothing of one another. -/
def IpNetwork.overlaps : IpNetwork → IpNetwork → Bool
  | .v4 net, .v4 other => net.overlaps other
  | .v6 net, .v6 other => net.overlaps other
  | _, _ => false

section Sharing

/-- There is an address that lies in both networks. -/
def Shares (left right : IPv4Network) : Prop := ∃ ip, left.Contains ip ∧ right.Contains ip

theorem networkAddress_le_broadcast (net : IPv4Network) : net.networkAddress ≤ net.broadcast :=
  Nat.le_add_right _ _

theorem contains_networkAddress (net : IPv4Network) : net.Contains net.networkAddress :=
  ⟨Nat.le_refl _, networkAddress_le_broadcast net⟩

theorem endsOverlap_iff {first last otherFirst otherLast : Nat} (ordered : first ≤ last)
    (otherOrdered : otherFirst ≤ otherLast) :
    endsOverlap first last otherFirst otherLast = true ↔
      ∃ ip, (first ≤ ip ∧ ip ≤ last) ∧ otherFirst ≤ ip ∧ ip ≤ otherLast := by
  simp only [endsOverlap, Bool.or_eq_true, Bool.and_eq_true, decide_eq_true_eq]
  constructor
  · rintro (starts | ends | starts | ends)
    · exact ⟨first, ⟨Nat.le_refl _, ordered⟩, starts⟩
    · exact ⟨last, ⟨ordered, Nat.le_refl _⟩, ends⟩
    · exact ⟨otherFirst, starts, ⟨Nat.le_refl _, otherOrdered⟩⟩
    · exact ⟨otherLast, ends, ⟨otherOrdered, Nat.le_refl _⟩⟩
  · rintro ⟨ip, inside, inOther⟩
    omega

theorem overlaps_iff_shares (left right : IPv4Network) :
    left.overlaps right = true ↔ Shares left right :=
  endsOverlap_iff (networkAddress_le_broadcast left) (networkAddress_le_broadcast right)

theorem overlaps_eq_false_iff (left right : IPv4Network) :
    left.overlaps right = false ↔ ¬ Shares left right := by
  rw [← overlaps_iff_shares, Bool.not_eq_true]

theorem Shares.symm {left right : IPv4Network} (shares : Shares left right) : Shares right left :=
  shares.imp fun _ both => both.symm

theorem Shares.refl (net : IPv4Network) : Shares net net :=
  ⟨net.networkAddress, contains_networkAddress net, contains_networkAddress net⟩

theorem eq_of_shares {left right : IPv4Network} (size : left.prefixlen = right.prefixlen)
    (shares : Shares left right) : left = right := by
  rcases shares with ⟨ip, inLeft, inRight⟩
  rw [IPv4Network.contains_iff_div] at inLeft inRight
  have same : left.numAddresses = right.numAddresses := congrArg (fun bits => 2 ^ (32 - bits)) size
  rw [same] at inLeft
  have leftStart : right.numAddresses * (left.networkAddress / right.numAddresses) =
      left.networkAddress :=
    Nat.mul_div_cancel' (same ▸ left.aligned)
  have rightStart : right.numAddresses * (right.networkAddress / right.numAddresses) =
      right.networkAddress :=
    Nat.mul_div_cancel' right.aligned
  rw [← inLeft, inRight, rightStart] at leftStart
  cases left
  cases right
  cases leftStart
  cases size
  rfl

/-- There is an address, of one version or the other, that lies in both networks. -/
def IpNetwork.Shares : IpNetwork → IpNetwork → Prop
  | .v4 left, .v4 right => Network.Shares left right
  | .v6 left, .v6 right => ∃ ip, left.Contains ip ∧ right.Contains ip
  | _, _ => False

theorem IpNetwork.overlaps_iff_shares (left right : IpNetwork) :
    left.overlaps right = true ↔ left.Shares right := by
  cases left with
  | v4 left =>
      cases right with
      | v4 right => exact Network.overlaps_iff_shares left right
      | v6 right => exact iff_of_false Bool.false_ne_true id
  | v6 left =>
      cases right with
      | v4 right => exact iff_of_false Bool.false_ne_true id
      | v6 right => exact endsOverlap_iff (Nat.le_add_right _ _) (Nat.le_add_right _ _)

theorem IpNetwork.Shares.symm {left right : IpNetwork} (shares : left.Shares right) :
    right.Shares left := by
  cases left <;> cases right <;> first | exact shares.imp fun _ both => both.symm | exact shares

theorem IpNetwork.overlaps_comm (left right : IpNetwork) :
    left.overlaps right = right.overlaps left := by
  rw [Bool.eq_iff_iff, overlaps_iff_shares, overlaps_iff_shares]
  exact ⟨IpNetwork.Shares.symm, IpNetwork.Shares.symm⟩

end Sharing

section Enumeration

/-- An aligned block of the given size inside the base network. -/
structure SubnetOf (base : IPv4Network) (newPrefix : Nat) (subnet : IPv4Network) : Prop where
  size : subnet.prefixlen = newPrefix
  inside : ∀ ip, subnet.Contains ip → base.Contains ip

variable {base : IPv4Network} {newPrefix : Nat} (longer : base.prefixlen ≤ newPrefix)
  (bound : newPrefix ≤ 32)
include longer bound

theorem numAddresses_split :
    base.numAddresses = 2 ^ (newPrefix - base.prefixlen) * 2 ^ (32 - newPrefix) := by
  rw [IPv4Network.numAddresses, ← Nat.pow_add]
  congr 1
  omega

theorem subnets_eq_mapM : base.subnets newPrefix =
    (List.range' base.networkAddress (2 ^ (newPrefix - base.prefixlen)) (2 ^ (32 - newPrefix))).mapM
      fun address => IPv4Network.make address newPrefix := by
  have split := numAddresses_split longer bound
  rw [IPv4Network.subnets]
  by_cases single : base.prefixlen = 32
  · have last : newPrefix = 32 := by omega
    have itself := make_eq base
    rw [single] at itself
    rw [if_pos single, single, last]
    simp [itself]
  · rw [if_neg single, if_neg (by omega), if_neg (by omega)]
    have blocks := Nat.two_pow_pos (newPrefix - base.prefixlen)
    have positive := Nat.two_pow_pos (32 - newPrefix)
    have step : base.numAddresses / 2 ^ (newPrefix - base.prefixlen) = 2 ^ (32 - newPrefix) := by
      rw [split, Nat.mul_div_cancel_left _ blocks]
    have total : base.broadcast + 1 - base.networkAddress = base.numAddresses := by
      have some := base.numAddresses_pos
      rw [IPv4Network.broadcast]
      omega
    have count : (base.numAddresses + 2 ^ (32 - newPrefix) - 1) / 2 ^ (32 - newPrefix) =
        2 ^ (newPrefix - base.prefixlen) := by
      rw [Nat.add_sub_assoc positive, split, Nat.add_comm, Nat.add_mul_div_right _ _ positive,
        Nat.div_eq_of_lt (by omega), Nat.zero_add]
    simp only [step, pyRange, total, count]

theorem block_end_le {index : Nat} (inRange : index < 2 ^ (newPrefix - base.prefixlen)) :
    base.networkAddress + (2 ^ (32 - newPrefix) * index + 2 ^ (32 - newPrefix)) ≤
        base.broadcast + 1 := by
  have split := numAddresses_split longer bound
  have positive := base.numAddresses_pos
  have next : 2 ^ (32 - newPrefix) * (index + 1) ≤ 2 ^ (32 - newPrefix) *
      2 ^ (newPrefix - base.prefixlen) :=
    Nat.mul_le_mul_left _ inRange
  rw [Nat.mul_comm _ (2 ^ (newPrefix - base.prefixlen)), ← split, Nat.mul_succ] at next
  rw [IPv4Network.broadcast]
  omega

theorem base_aligned : 2 ^ (32 - newPrefix) ∣ base.networkAddress :=
  Nat.dvd_trans (Nat.pow_dvd_pow 2 (by omega)) base.aligned

theorem block_strict {address : Nat} (member : address ∈
    List.range' base.networkAddress (2 ^ (newPrefix - base.prefixlen)) (2 ^ (32 - newPrefix))) :
    Strict address newPrefix := by
  rcases List.mem_range'.mp member with ⟨index, inRange, rfl⟩
  have last := block_end_le longer bound inRange
  have positive := Nat.two_pow_pos (32 - newPrefix)
  have inside := base.broadcast_lt
  exact ⟨bound, by omega, Nat.dvd_add (base_aligned longer bound) (Nat.dvd_mul_right _ _)⟩

theorem subnetOf_iff (subnet : IPv4Network) :
    SubnetOf base newPrefix subnet ↔ subnet.prefixlen = newPrefix ∧ subnet.networkAddress ∈
      List.range' base.networkAddress (2 ^ (newPrefix - base.prefixlen))
          (2 ^ (32 - newPrefix)) := by
  rw [List.mem_range']
  constructor
  · rintro ⟨size, inside⟩
    have start := inside _ (contains_networkAddress subnet)
    have aligned : 2 ^ (32 - newPrefix) ∣ subnet.networkAddress := size ▸ subnet.aligned
    rcases Nat.dvd_sub aligned (base_aligned longer bound) with ⟨index, distance⟩
    have offset : subnet.networkAddress = base.networkAddress + 2 ^ (32 - newPrefix) * index := by
      have low := start.1
      omega
    have below : 2 ^ (32 - newPrefix) * index < 2 ^ (32 - newPrefix) *
        2 ^ (newPrefix - base.prefixlen) := by
      have high := start.2
      have some := base.numAddresses_pos
      rw [Nat.mul_comm _ (2 ^ (newPrefix - base.prefixlen)), ← numAddresses_split longer bound]
      rw [IPv4Network.broadcast] at high
      omega
    exact ⟨size, index, Nat.lt_of_mul_lt_mul_left below, offset⟩
  · rintro ⟨size, index, inRange, start⟩
    have last := block_end_le longer bound inRange
    refine ⟨size, fun ip member => ?_⟩
    rcases member with ⟨low, high⟩
    rw [IPv4Network.broadcast, IPv4Network.numAddresses, size] at high
    have positive := Nat.two_pow_pos (32 - newPrefix)
    exact ⟨by omega, by omega⟩

/-- `subnets` gives all blocks of the size, ascending, and does not raise. -/
theorem subnets_spec : ∃ candidates, base.subnets newPrefix = some candidates ∧
    (candidates.Pairwise fun left right => left.networkAddress < right.networkAddress) ∧
      ∀ subnet, subnet ∈ candidates ↔ SubnetOf base newPrefix subnet := by
  rw [subnets_eq_mapM longer bound]
  have made : ∀ address ∈ List.range' base.networkAddress (2 ^ (newPrefix - base.prefixlen))
    (2 ^ (32 - newPrefix)),
      IPv4Network.make address newPrefix ≠ none := by
    intro address member
    rw [IPv4Network.make, dif_pos (block_strict longer bound member)]
    exact Option.some_ne_none _
  rcases Option.isSome_iff_exists.mp ((mapM_isSome_iff _ _).mpr made) with ⟨candidates, mapped⟩
  refine ⟨candidates, mapped, ?_, fun subnet => ?_⟩
  · have starts := mapM_map_eq id IPv4Network.networkAddress
      (fun address net same => ((make_eq_some_iff address newPrefix net).mp same).1) mapped
    rw [← List.pairwise_map (f := IPv4Network.networkAddress), starts, List.map_id]
    exact List.pairwise_lt_range' _ (Nat.two_pow_pos _)
  · rw [subnetOf_iff longer bound]
    constructor
    · intro member
      rcases mem_of_mapM mapped member with ⟨address, among, same⟩
      rcases (make_eq_some_iff _ _ _).mp same with ⟨rfl, size⟩
      exact ⟨size, among⟩
    · rintro ⟨size, among⟩
      rcases mapM_mem mapped among with ⟨made, member, same⟩
      rw [← size, make_eq] at same
      rw [Option.some.inj same]
      exact member

end Enumeration

end Dockermock.Network
