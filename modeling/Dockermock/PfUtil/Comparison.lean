import Dockermock.PfUtil.Cidr

/-!
What compare_cidr promises in its comment, for an address with a contiguous
netmask and a string that can be read: 0 for a range that lies in the network,
otherwise the order of the two network addresses. Two networks that begin with
one address have no such order, and get a 0 whichever of them is the wider one.
-/

namespace Dockermock.PfUtil

namespace PoolAddr

def Has (entry : PoolAddr) (address : BitVec 32) : Prop := address &&& entry.mask = entry.network

instance (entry : PoolAddr) (address : BitVec 32) : Decidable (entry.Has address) :=
  inferInstanceAs (Decidable (_ = _))

def Holds (outer inner : PoolAddr) : Prop := ∀ address, inner.Has address → outer.Has address

theorem has_iff {entry : PoolAddr} (isPrefix : entry.IsPrefix) (address : BitVec 32) :
    entry.Has address ↔ entry.network ≤ address ∧ address ≤ entry.broadcast := by
  rcases isPrefix with ⟨prefixLen, le, mask⟩
  obtain ⟨first, last⟩ := block_of_mask le mask
  have size : 0 < 2 ^ (32 - prefixLen) := Nat.two_pow_pos _
  have masked : (address &&& entry.mask).toNat = address.toNat / 2 ^ (32 - prefixLen) *
      2 ^ (32 - prefixLen) := by
    rw [mask, prefixMask_eq prefixLen le, and_high_toNat]
  have sameBlock : entry.Has address ↔
      address.toNat / 2 ^ (32 - prefixLen) = entry.addr.toNat / 2 ^ (32 - prefixLen) := by
    rw [Has, ← BitVec.toNat_inj, masked, first, Nat.mul_right_cancel_iff size]
  rw [Nat.succ_mul, ← first] at last
  rw [sameBlock, Nat.div_eq_iff size, BitVec.le_def, BitVec.le_def, ← first]
  omega

theorem holds_iff_contains {outer inner : PoolAddr} (outerPrefix : outer.IsPrefix)
    (innerPrefix : inner.IsPrefix) : outer.Holds inner ↔ outer.Contains inner := by
  constructor
  · intro holds
    have network := holds inner.network
      ((has_iff innerPrefix _).mpr ⟨BitVec.le_refl _, inner.network_le_broadcast⟩)
    have broadcast := holds inner.broadcast
      ((has_iff innerPrefix _).mpr ⟨inner.network_le_broadcast, BitVec.le_refl _⟩)
    exact ⟨((has_iff outerPrefix _).mp network).1, ((has_iff outerPrefix _).mp broadcast).2⟩
  · rintro ⟨starts, ends⟩ address has
    obtain ⟨above, below⟩ := (has_iff innerPrefix address).mp has
    exact (has_iff outerPrefix address).mpr ⟨BitVec.le_trans starts above,
      BitVec.le_trans below ends⟩

theorem contains_iff_of_network {outer inner : PoolAddr} {maskLen prefixLen : Nat}
    (outerLe : maskLen ≤ 32) (innerLe : prefixLen ≤ 32)
    (outerMask : outer.mask = prefixMask maskLen) (innerMask : inner.mask = prefixMask prefixLen)
    (same : outer.network = inner.network) :
    outer.Contains inner ↔ maskLen ≤ prefixLen := by
  obtain ⟨first, last⟩ := block_of_mask outerLe outerMask
  obtain ⟨first', last'⟩ := block_of_mask innerLe innerMask
  rw [Nat.succ_mul, ← first] at last
  rw [Nat.succ_mul, ← first', ← same] at last'
  have sizes : 2 ^ (32 - prefixLen) ≤ 2 ^ (32 - maskLen) ↔ 32 - prefixLen ≤ 32 - maskLen :=
    Nat.pow_le_pow_iff_right (by decide)
  rw [Contains, same, BitVec.le_def, BitVec.le_def]
  omega

end PoolAddr

structure Compares (entry cidr : PoolAddr) (result : Int) : Prop where
  inside : result = 0 ↔ entry.Holds cidr
  below : ¬ entry.Holds cidr → entry.network < cidr.network → result = -1
  above : ¬ entry.Holds cidr → cidr.network < entry.network → result = 1

theorem compareNetworks_compares_iff {entry cidr : PoolAddr}
    (holds : entry.Holds cidr ↔ entry.Contains cidr) :
    Compares entry cidr (compareNetworks entry cidr) ↔ entry.network ≠ cidr.network ∨
        entry.Contains cidr := by
  have zero := compareNetworks_eq_zero_iff entry cidr
  constructor
  · intro compares
    by_cases same : entry.network = cidr.network
    · exact .inr (holds.mp (compares.inside.mp (zero.mpr (.inr same))))
    · exact .inl same
  · intro comparable
    have inside : compareNetworks entry cidr = 0 ↔ entry.Contains cidr := by
      rw [zero]
      exact ⟨fun either => either.elim id fun same =>
        comparable.resolve_left (not_not.mpr same), .inl⟩
    refine ⟨inside.trans holds.symm, fun outside below => ?_, fun outside above => ?_⟩
    · rw [compareNetworks, if_neg (outside ∘ holds.mpr),
        if_neg (BitVec.lt_asymm below), if_pos below]
    · rw [compareNetworks, if_neg (outside ∘ holds.mpr), if_pos above]

/-- compare_cidr keeps its contract exactly when the two do not begin with one address, or the
network of the string is not the wider one. -/
theorem compareCidr_compares_iff (address : BitVec 32) (maskLen : Nat) (le : maskLen ≤ 32)
    (text : CString) (cidr : Cidr) (parsed : parseCidr text = some cidr) :
    Compares ⟨address, prefixMask maskLen⟩ cidr.entry
      (compareCidr ⟨address, prefixMask maskLen⟩ text) ↔
      PoolAddr.network ⟨address, prefixMask maskLen⟩ ≠ cidr.entry.network ∨
          maskLen ≤ cidr.prefixLen := by
  have isPrefix : PoolAddr.IsPrefix ⟨address, prefixMask maskLen⟩ := ⟨maskLen, le, rfl⟩
  rw [(parseCidr_reads parsed).2,
    compareNetworks_compares_iff (PoolAddr.holds_iff_contains isPrefix cidr.isPrefix)]
  refine or_congr_right' fun same => ?_
  exact PoolAddr.contains_iff_of_network le cidr.prefix_le rfl rfl (not_not.mp same)

/-- A narrower and a wider network than the pool's: the one lies in it, the other does not. -/
theorem compareCidr_compares_nested :
    Compares ⟨0x0A000000, prefixMask 16⟩ ⟨0x0A000100, prefixMask 24⟩
        (compareCidr ⟨0x0A000000, prefixMask 16⟩ (ascii "10.0.1.0/24")) ∧
      ¬ Compares ⟨0x0A000000, prefixMask 16⟩ ⟨0x0A000000, prefixMask 8⟩
        (compareCidr ⟨0x0A000000, prefixMask 16⟩ (ascii "10.0.0.0/8")) :=
  ⟨(compareCidr_compares_iff 0x0A000000 16 (by decide) (ascii "10.0.1.0/24")
    ⟨0x0A000100, 24, by decide⟩
      (by decide +kernel)).mpr (by decide),
    (compareCidr_compares_iff 0x0A000000 16 (by decide) (ascii "10.0.0.0/8")
      ⟨0x0A000000, 8, by decide⟩ (by decide +kernel)).not.mpr (by decide)⟩

/-- 10.0.0.0/8 does not lie in 10.0.0.0/16, and is said to. -/
theorem compareCidr_wider_equal : compareCidr ⟨0x0A000000, prefixMask 16⟩ (ascii "10.0.0.0/8") = 0 ∧
    ¬ ∀ address maskLen text cidr, maskLen ≤ 32 → parseCidr text = some cidr →
      Compares ⟨address, prefixMask (maskLen : Nat)⟩ cidr.entry
          (compareCidr ⟨address, prefixMask maskLen⟩ text) := by
  have read : parseCidr (ascii "10.0.0.0/8") = some ⟨0x0A000000, 8, by decide⟩ := by decide +kernel
  have equal : compareCidr ⟨0x0A000000, prefixMask 16⟩ (ascii "10.0.0.0/8") = 0 := by decide +kernel
  refine ⟨equal, fun claimed => ?_⟩
  have holds := (claimed 0x0A000000 16 _ _ (by decide) read).inside.mp equal
  exact absurd (holds 0x0A010000 (by decide)) (by decide)

end Dockermock.PfUtil
