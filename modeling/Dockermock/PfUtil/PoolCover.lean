import Mathlib.Data.List.Nodup
import Dockermock.PfUtil.PoolMerge

/-!
Which entries of the list add_addressList_to_pool leaves out. An entry is left
out if it lies in an entry of the pool, or has its network address only; either
way the loop moves on in both lists, so an entry of the pool stands for one entry
of the list, and the next one that lies in it is added.
-/

namespace Dockermock.PfUtil

open Library

section Statements

def Inside (pool : List PoolAddr) (cidr : PoolAddr) : Prop := ∃ entry ∈ pool, entry.Contains cidr

instance (pool : List PoolAddr) (cidr : PoolAddr) : Decidable (Inside pool cidr) :=
  inferInstanceAs (Decidable (∃ entry ∈ pool, entry.Contains cidr))

/-- The whole list lies in the pool afterwards, and what lay in the pool before has not been added.
-/
structure Covers (cidrs : List Cidr) (pool after : List PoolAddr)
    (positions : List Nat) : Prop where
  contained : ∀ cidr ∈ cidrs, Inside after cidr.entry
  fresh : ∀ position ∈ positions, ∀ cidr, cidrs[position]? = some cidr → ¬ Inside pool cidr.entry

/-- The entry is to be left out: it lies in the pool, or there are fewer entries with its network
address in front of it than in the pool. -/
def taken (pool : List PoolAddr) (cidrs : List Cidr) (new : Listed) : Bool :=
  Inside pool new.1.entry ∨
    (cidrs.take new.2).countP (fun cidr => cidr.entry.network = new.1.entry.network) <
      pool.countP fun entry => entry.network = new.1.entry.network

def Stands (new : Listed) (entry : PoolAddr) : Prop :=
  entry.Contains new.1.entry ∨ entry.network = new.1.entry.network

/-- There are entries in the pool, in the order of the list, one for each that is left out; and
one that is left out without lying in the pool lies in one that is not left out. -/
structure Accommodates (pool : List PoolAddr) (cidrs : List Cidr) : Prop where
  own : List.SublistForall₂ Stands (cidrs.zipIdx.filter (taken pool cidrs)) pool
  wider : ∀ new ∈ cidrs.zipIdx, taken pool cidrs new = true → ¬ Inside pool new.1.entry →
    ∃ other ∈ cidrs.zipIdx, taken pool cidrs other = false ∧ other.1.entry.Contains new.1.entry

end Statements

section Networks

variable {pool : List PoolAddr} {cidrs : List Cidr}

theorem compareListed_eq_zero_iff (entry : PoolAddr) (new : Listed) :
    compareListed entry new = 0 ↔ Stands new entry :=
  compareNetworks_eq_zero_iff entry new.1.entry

theorem ascending_passing (prefixes : ∀ entry ∈ pool, entry.IsPrefix)
    (poolAscending : Ascending pool) (listAscending : Ascending (cidrs.map Cidr.entry)) :
    Passing compareListed pool cidrs.zipIdx where
  old entry member := by
    refine (listed_ascending listAscending).imp fun {first second} order less => ?_
    rw [Ne, compareListed_eq_zero_iff]
    have start : entry.network < first.1.entry.network := compareNetworks_neg less
    have apart : ¬ entry.Contains first.1.entry := fun inside => by
      have same := (compareListed_eq_zero_iff entry first).mpr (.inl inside)
      omega
    rintro (inside | same)
    · -- The first one starts inside the entry as well, so it lies in it.
      have meet : first.1.entry.network ≤ entry.broadcast :=
        BitVec.le_trans order (BitVec.le_trans second.1.entry.network_le_broadcast inside.2)
      rcases PoolAddr.contains_of_meet (prefixes entry member) first.1.isPrefix
          (BitVec.le_of_lt start) meet with
        within | equal
      · exact apart within
      · exact BitVec.lt_irrefl _ (equal ▸ start)
    · exact BitVec.not_lt.mpr order (same ▸ start)
  new new _ := by
    refine poolAscending.imp fun {first second} order greater same => ?_
    have above : new.1.entry.network < first.network := compareNetworks_pos greater
    have below : second.network ≤ new.1.entry.network := compareNetworks_nonpos (Int.le_of_eq same)
    exact BitVec.not_lt.mpr (BitVec.le_trans order below) above

/-- Next to an entry that does not lie in the pool, only entries of the pool with its network
address stand for one with that address. -/
theorem stands_of_wide (prefixes : ∀ entry ∈ pool, entry.IsPrefix) {wide : Cidr}
    (outside : ¬ Inside pool wide.entry) {entry : PoolAddr} (member : entry ∈ pool) {new : Listed}
    (network : new.1.entry.network = wide.entry.network) (stands : compareListed entry new = 0) :
    entry.network = wide.entry.network := by
  rcases (compareListed_eq_zero_iff entry new).mp stands with inside | same
  · have start : entry.network ≤ wide.entry.network := network ▸ inside.1
    have meet : wide.entry.network ≤ entry.broadcast :=
      network ▸ BitVec.le_trans new.1.entry.network_le_broadcast inside.2
    exact (PoolAddr.contains_of_meet (prefixes entry member) wide.isPrefix start meet).resolve_left
      fun within => outside ⟨entry, member, within⟩
  · exact same.trans network

/-- Such an entry is left out exactly if too few come before it to use up the pool's. -/
theorem dropped_wide_iff (prefixes : ∀ entry ∈ pool, entry.IsPrefix)
    (poolAscending : Ascending pool) (listAscending : Ascending (cidrs.map Cidr.entry))
    {new : Listed} (listed : new ∈ cidrs.zipIdx) (outside : ¬ Inside pool new.1.entry) :
    new ∈ dropped compareListed pool cidrs.zipIdx ↔
      (cidrs.take new.2).countP (fun cidr => cidr.entry.network = new.1.entry.network) <
        pool.countP fun entry => entry.network = new.1.entry.network := by
  have first := dropped_of_key compareListed (fun entry => entry.network.toNat)
    (fun new : Listed => new.1.entry.network.toNat)
    (fun _ _ less => BitVec.lt_def.mp (compareNetworks_neg less))
    (fun _ _ greater => BitVec.lt_def.mp (compareNetworks_pos greater))
    (fun _ _ same => BitVec.le_def.mp (compareNetworks_nonpos (Int.le_of_eq same)))
    new.1.entry.network.toNat pool cidrs.zipIdx
    (fun entry member other _ network stands =>
      congrArg _ (stands_of_wide prefixes outside member (BitVec.eq_of_toNat_eq network) stands))
    (poolAscending.imp fun order => BitVec.le_def.mp order)
    ((listed_ascending listAscending).imp fun order => BitVec.le_def.mp order)
  simp only [BitVec.toNat_inj] at first
  have here :=
    mem_take_filter_zipIdx (fun cidr => decide (cidr.entry.network = new.1.entry.network))
      cidrs new.1 new.2 0
    (pool.countP fun entry => decide (entry.network = new.1.entry.network))
  rw [Nat.zero_add, Prod.eta, ← first, List.mem_filter] at here
  have found : cidrs[new.2]? = some new.1 := List.mem_zipIdx_iff_getElem?.mp listed
  simpa [found] using here

theorem taken_of_dropped (prefixes : ∀ entry ∈ pool, entry.IsPrefix)
    (poolAscending : Ascending pool) (listAscending : Ascending (cidrs.map Cidr.entry))
    {new : Listed} (left : new ∈ dropped compareListed pool cidrs.zipIdx) :
    taken pool cidrs new = true := by
  have listed : new ∈ cidrs.zipIdx :=
    (added_append_dropped compareListed pool cidrs.zipIdx).subset (List.mem_append_right _ left)
  apply decide_eq_true
  by_cases inside : Inside pool new.1.entry
  · exact .inl inside
  · exact .inr ((dropped_wide_iff prefixes poolAscending listAscending listed inside).mp left)

theorem added_or_dropped {new : Listed} (listed : new ∈ cidrs.zipIdx) :
    (new ∈ added compareListed pool cidrs.zipIdx ∨ new ∈ dropped compareListed pool cidrs.zipIdx) ∧
      ¬ (new ∈ added compareListed pool cidrs.zipIdx ∧
          new ∈ dropped compareListed pool cidrs.zipIdx) := by
  have whole := added_append_dropped compareListed pool cidrs.zipIdx
  refine ⟨List.mem_append.mp (whole.mem_iff.mpr listed), fun both => ?_⟩
  have distinct : cidrs.zipIdx.Nodup := by
    apply List.Nodup.of_map Prod.snd
    rw [List.zipIdx_map_snd]
    exact List.nodup_range'
  exact List.disjoint_of_nodup_append (whole.nodup_iff.mpr distinct) both.1 both.2

end Networks

section Covering

variable {pool : List PoolAddr} {cidrs : List Cidr}

theorem fresh_iff (prefixes : ∀ entry ∈ pool, entry.IsPrefix) (poolAscending : Ascending pool)
    (listAscending : Ascending (cidrs.map Cidr.entry)) :
    (∀ new ∈ added compareListed pool cidrs.zipIdx, ¬ Inside pool new.1.entry) ↔
      ∀ new ∈ added compareListed pool cidrs.zipIdx, taken pool cidrs new = false := by
  constructor
  · intro fresh new member
    have listed := (added_sublist compareListed pool cidrs.zipIdx).subset member
    refine decide_eq_false ?_
    rintro (inside | fewer)
    · exact fresh new member inside
    · have left :=
        (dropped_wide_iff prefixes poolAscending listAscending listed (fresh new member)).mpr fewer
      exact (added_or_dropped listed).2 ⟨member, left⟩
  · intro none new member inside
    have kept := none new member
    rw [taken, decide_eq_false_iff_not] at kept
    exact kept (.inl inside)

theorem mem_merged (entry : PoolAddr) :
    entry ∈ merged pool cidrs.zipIdx ↔
      entry ∈ pool ∨ ∃ new ∈ added compareListed pool cidrs.zipIdx, new.1.entry = entry := by
  have whole :=
    (interleave_perm compareListed pool cidrs.zipIdx).map
      (Sum.elim id fun new : Listed => new.1.entry)
  rw [merged, whole.mem_iff]
  simp

theorem positions_fresh_iff :
    (∀ position ∈ addedPositions pool cidrs.zipIdx, ∀ cidr, cidrs[position]? = some cidr →
      ¬ Inside pool cidr.entry) ↔
      ∀ new ∈ added compareListed pool cidrs.zipIdx, ¬ Inside pool new.1.entry := by
  rw [addedPositions, List.forall_mem_map]
  refine forall₂_congr fun new member => ?_
  have listed :=
    List.mem_zipIdx_iff_getElem?.mp ((added_sublist compareListed pool cidrs.zipIdx).subset member)
  simp [listed]

theorem merged_covers_iff (prefixes : ∀ entry ∈ pool, entry.IsPrefix)
    (poolAscending : Ascending pool) (listAscending : Ascending (cidrs.map Cidr.entry)) :
    Covers cidrs pool (merged pool cidrs.zipIdx) (addedPositions pool cidrs.zipIdx) ↔
        Accommodates pool cidrs := by
  have assigned := none_added_iff (taken pool cidrs) pool cidrs.zipIdx
    (ascending_passing prefixes poolAscending listAscending)
    fun new left => taken_of_dropped prefixes poolAscending listAscending left
  simp only [compareListed_eq_zero_iff] at assigned
  have freshIff := positions_fresh_iff.trans (fresh_iff prefixes poolAscending listAscending)
  -- Whatever is not to be left out is added.
  have untaken : ∀ new ∈ cidrs.zipIdx, taken pool cidrs new = false →
      new ∈ added compareListed pool cidrs.zipIdx := by
    intro new listed kept
    refine (added_or_dropped listed).1.resolve_right fun left => ?_
    rw [taken_of_dropped prefixes poolAscending listAscending left] at kept
    cases kept
  constructor
  · intro covers
    have none := freshIff.mp covers.fresh
    refine ⟨assigned.mp none, fun new listed _ outside => ?_⟩
    rcases covers.contained new.1 (List.fst_mem_of_mem_zipIdx listed) with ⟨entry, member, inside⟩
    rcases mem_merged entry |>.mp member with old | ⟨other, new', rfl⟩
    · exact absurd ⟨entry, old, inside⟩ outside
    · exact ⟨other, (added_sublist compareListed pool cidrs.zipIdx).subset new',
        none other new', inside⟩
  · intro accommodates
    have none := assigned.mpr accommodates.own
    refine ⟨fun cidr member => ?_, freshIff.mpr none⟩
    rcases List.mem_iff_getElem?.mp member with ⟨position, here⟩
    have listed : (cidr, position) ∈ cidrs.zipIdx := List.mem_zipIdx_iff_getElem?.mpr here
    by_cases inside : Inside pool cidr.entry
    · rcases inside with ⟨entry, old, within⟩
      exact ⟨entry, mem_merged entry |>.mpr (.inl old), within⟩
    · cases kept : taken pool cidrs (cidr, position) with
      | false =>
          have new := untaken _ listed kept
          exact ⟨cidr.entry, mem_merged _ |>.mpr (.inr ⟨_, new, rfl⟩), BitVec.le_refl _,
            BitVec.le_refl _⟩
      | true =>
          rcases accommodates.wider _ listed kept inside with ⟨other, among, free, within⟩
          exact ⟨other.1.entry, mem_merged _ |>.mpr (.inr ⟨other, untaken other among free, rfl⟩),
            within⟩

/-- The pool covers the list, with nothing added that it covered before, exactly where it has an
entry to itself for each that is left out. -/
theorem addAddressListToPool_covers_iff (inetPton6 : CString → Option (List UInt8))
    (pool : List PoolAddr) (addrList : List CString) (cidrs : List Cidr) (some' : addrList ≠ [])
    (valid : addrList.mapM parseCidr = some cidrs) (prefixes : ∀ entry ∈ pool, entry.IsPrefix)
    (poolAscending : Ascending pool) (listAscending : Ascending (cidrs.map Cidr.entry)) :
    ∃ after, (∀ turns, pool.length + addrList.length ≤ turns →
        addAddressListToPool inetPton6 addrList turns pool = some (0, after)) ∧
      (Covers cidrs pool after.pool after.changed ↔ Accommodates pool cidrs) := by
  rcases addAddressListToPool_merged inetPton6 some' valid pool with ⟨after, run, merged, changed⟩
  refine ⟨after, run, ?_⟩
  rw [merged, changed]
  exact merged_covers_iff prefixes poolAscending listAscending

section Instances

def tenNet : PoolAddr := ⟨0x0A000000, 0xFF000000⟩

def tenSubnet : PoolAddr := ⟨0x0A000000, 0xFFFFFF00⟩

theorem addAddressListToPool_covers_two :
    ∃ after, (∀ turns, 3 ≤ turns →
        addAddressListToPool (fun _ => none) [ascii "10.1.0.0/16", ascii "11.0.0.1"]
          turns [tenNet] = some (0, after)) ∧
      (Covers [⟨0x0A010000, 16, by decide⟩, ⟨0x0B000001, 32, by decide⟩] [tenNet] after.pool
        after.changed ↔
        Accommodates [tenNet] [⟨0x0A010000, 16, by decide⟩, ⟨0x0B000001, 32, by decide⟩]) :=
  addAddressListToPool_covers_iff (fun _ => none) [tenNet] [ascii "10.1.0.0/16",
    ascii "11.0.0.1"] _ (by decide) (by decide +kernel)
      (fun entry member => ⟨8, by decide, by rw [List.mem_singleton.mp member]; decide⟩)
    (by decide) (by decide)

/-- The second entry inside one of the pool is added, and an entry wider than the pool's is not. -/
theorem entries_added_and_lost :
    (addAddressListToPool (fun _ => none) [ascii "10.1.0.0/16", ascii "10.2.0.0/16"] 3 [tenNet] =
        some (0, ⟨[tenNet, ⟨0x0A020000, 0xFFFF0000⟩], 1, 2, 1, true, tenNet, [1]⟩) ∧
      ¬ Covers [⟨0x0A010000, 16, by decide⟩, ⟨0x0A020000, 16, by decide⟩] [tenNet]
        [tenNet, ⟨0x0A020000, 0xFFFF0000⟩] [1]) ∧
    (addAddressListToPool (fun _ => none) [ascii "10.0.0.0/8"] 2 [tenSubnet] =
        some (0, ⟨[tenSubnet], 1, 1, 1, true, tenSubnet, []⟩) ∧
      ¬ Covers [⟨0x0A000000, 8, by decide⟩] [tenSubnet] [tenSubnet] []) := by
  refine ⟨⟨by decide +kernel, fun covers => ?_⟩, by decide +kernel, fun covers => ?_⟩
  · exact covers.fresh 1 List.mem_cons_self _ rfl (by decide)
  · exact absurd (covers.contained _ List.mem_cons_self) (by decide)

end Instances

end Covering

end Dockermock.PfUtil
