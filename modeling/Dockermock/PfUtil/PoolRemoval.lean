import Dockermock.PfUtil.PoolMerge

/-!
What remove_addressList_from_pool leaves of an ascending pool of single
addresses. The pool shrinks with every removal and the bound of the loop does
not, so after a removal the loop runs past the end of the pool unless the list
ends first.
-/

namespace Dockermock.PfUtil

open Library

section Single

def PoolAddr.Single (entry : PoolAddr) : Prop := entry.mask = BitVec.allOnes 32

instance (entry : PoolAddr) : Decidable entry.Single := inferInstanceAs (Decidable (_ = _))

theorem Cidr.single {cidr : Cidr} (whole : cidr.prefixLen = 32) : cidr.entry.Single := by
  have mask : prefixMask (32 : Nat) = BitVec.allOnes 32 := by decide
  rw [PoolAddr.Single, Cidr.entry, whole, mask]

theorem PoolAddr.Single.network {entry : PoolAddr} (single : entry.Single) :
    entry.network = entry.addr := by
  rw [PoolAddr.network, single, BitVec.and_allOnes]

theorem PoolAddr.Single.broadcast {entry : PoolAddr} (single : entry.Single) :
    entry.broadcast = entry.addr := by
  rw [PoolAddr.broadcast, single.network, single, BitVec.not_allOnes, BitVec.or_zero]

theorem compare_single {entry cidr : PoolAddr} (first : entry.Single) (second : cidr.Single) :
    compareNetworks entry cidr =
      if entry.addr < cidr.addr then -1 else if entry.addr = cidr.addr then 0 else 1 := by
  simp only [compareNetworks, PoolAddr.Contains, first.network, second.network, first.broadcast,
    second.broadcast]
  by_cases below : entry.addr < cidr.addr
  · have apart : ¬ cidr.addr ≤ entry.addr := BitVec.not_le.mpr below
    simp [below, apart, BitVec.lt_asymm below]
  · by_cases same : entry.addr = cidr.addr
    · simp [same, BitVec.lt_irrefl]
    · have above : cidr.addr < entry.addr := by bv_omega
      have apart : ¬ entry.addr ≤ cidr.addr := BitVec.not_le.mpr above
      simp [below, same, above, apart]

end Single

section Removing

variable (inetPton6 : CString → Option (List UInt8)) {addrList : List CString} {cidrs : List Cidr}

def kept (rest : List PoolAddr) (news : List Listed) : List PoolAddr :=
  rest.filter fun entry => ∀ new ∈ news, entry.addr ≠ new.1.address

/-- Nothing is removed, or the list does not go beyond what is left of the pool. -/
def Fits (removed : Nat) (rest : List PoolAddr) (news : List Listed) : Prop :=
  (removed = 0 ∧ ∀ entry ∈ rest, ∀ new ∈ news, entry.addr ≠ new.1.address) ∨
    ∀ new ∈ news, ∃ entry ∈ rest, new.1.address ≤ entry.addr

/-- The bound is the one from before the removals. -/
abbrev Removing (cidrs : List Cidr) (out rest : List PoolAddr) (news : List Listed) (walk : Walk) :
    Prop :=
  Settled cidrs walk.changed.length out rest news walk

theorem removeAddressFromPool_next {cidr : CString} {parsed : Cidr}
    (valid : parseCidr cidr = some parsed) (out : List PoolAddr) (next : PoolAddr)
    (rest : List PoolAddr) :
    removeAddressFromPool inetPton6 cidr out.length (out ++ next :: rest) = some (out ++ rest) := by
  have inside : out.length < (out ++ next :: rest).length := by simp
  simp only [removeAddressFromPool, (parseCidr_reads valid).1, Option.bind_some, changeAddr,
    if_pos inside]
  rw [List.eraseIdx_append_of_length_le (Nat.le_refl _), Nat.sub_self, List.eraseIdx_cons_zero]

section Turns

variable {out rest : List PoolAddr} {next : PoolAddr} {new : Listed}
  {news : List Listed} {walk : Walk}

theorem removeTurn_less (valid : addrList.mapM parseCidr = some cidrs)
    (removing : Removing cidrs out (next :: rest) (new :: news) walk)
    (less : compareListed next new < 0) :
    removeTurn inetPton6 addrList walk =
        (0, { walk with paddr := next, i := walk.i + 1, fetch := true }) := by
  have parsed := (listed_at valid removing.left).2.2.1
  simp only [removeTurn, Settled.address removing, (parseCidr_reads parsed).2]
  exact if_pos less

theorem removeTurn_same (valid : addrList.mapM parseCidr = some cidrs)
    (removing : Removing cidrs out (next :: rest) (new :: news) walk)
    (same : compareListed next new = 0) :
    removeTurn inetPton6 addrList walk =
      (0, ⟨out ++ rest, walk.i, walk.j + 1, walk.total, true, next, walk.changed ++ [walk.j]⟩) := by
  have parsed := (listed_at valid removing.left).2.2.1
  have notLess : ¬ compareListed next new < 0 := by omega
  simp only [removeTurn, Settled.address removing, (parseCidr_reads parsed).2]
  refine (if_neg notLess).trans ((if_pos same).trans ?_)
  rw [removing.pool, removing.index, removeAddressFromPool_next inetPton6 parsed]

theorem removeTurn_greater (valid : addrList.mapM parseCidr = some cidrs)
    (removing : Removing cidrs out (next :: rest) (new :: news) walk)
    (greater : 0 < compareListed next new) :
    removeTurn inetPton6 addrList walk =
        (0, { walk with paddr := next, j := walk.j + 1, fetch := false }) := by
  have parsed := (listed_at valid removing.left).2.2.1
  have notLess : ¬ compareListed next new < 0 := by omega
  have notSame : ¬ compareListed next new = 0 := by omega
  simp only [removeTurn, Settled.address removing, (parseCidr_reads parsed).2]
  exact (if_neg notLess).trans (if_neg notSame)

theorem removeTurn_past (removing : Removing cidrs out [] news walk) :
    removeTurn inetPton6 addrList walk = (-1, walk) := by
  have fetch : walk.fetch = true := by
    cases inHand : walk.fetch with
    | false => exact absurd (removing.inHand inHand) (by simp)
    | true => rfl
  have nothing : walk.address = none := by simp [Walk.address, fetch, removing.pool, removing.index]
  simp only [removeTurn, nothing]

end Turns

section Steps

variable {next : PoolAddr} {rest : List PoolAddr} {new : Listed} {news : List Listed}

def AscendingAddrs (pool : List PoolAddr) : Prop :=
  pool.Pairwise fun first second => first.addr < second.addr

instance (pool : List PoolAddr) :
    Decidable (AscendingAddrs pool) := inferInstanceAs (Decidable (pool.Pairwise _))

def AscendingListed (news : List Listed) : Prop :=
  news.Pairwise fun first second => first.1.address < second.1.address

theorem beyond_listed (ascending : AscendingListed (new :: news))
    (less : next.addr < new.1.address) : ∀ other ∈ new :: news, next.addr < other.1.address := by
  refine List.forall_mem_cons.mpr ⟨less, fun other member => ?_⟩
  have order := (List.pairwise_cons.mp ascending).1 other member
  exact BitVec.lt_trans less order

theorem beyond_pool (ascending : AscendingAddrs (next :: rest))
    (greater : new.1.address < next.addr) : ∀ entry ∈ next :: rest, new.1.address < entry.addr := by
  refine List.forall_mem_cons.mpr ⟨greater, fun entry member => ?_⟩
  have order := (List.pairwise_cons.mp ascending).1 entry member
  exact BitVec.lt_trans greater order

theorem fits_less (removed : Nat) (ascending : AscendingListed (new :: news))
    (less : next.addr < new.1.address) :
    Fits removed (next :: rest) (new :: news) ↔ Fits removed rest (new :: news) := by
  have beyond := beyond_listed ascending less
  refine or_congr (and_congr_right fun _ => ?_) (forall₂_congr fun other member => ?_)
  · rw [List.forall_mem_cons]
    exact and_iff_right fun other member => BitVec.ne_of_lt (beyond other member)
  · simp [BitVec.not_le.mpr (beyond other member)]

theorem fits_same (removed : Nat) (ascending : AscendingListed (new :: news))
    (same : next.addr = new.1.address) :
    Fits removed (next :: rest) (new :: news) ↔ Fits (removed + 1) rest news := by
  have later : ∀ other ∈ news, next.addr < other.1.address := fun other member =>
    same ▸ (List.pairwise_cons.mp ascending).1 other member
  constructor
  · rintro (⟨-, none⟩ | fits)
    · exact absurd same (none next List.mem_cons_self new List.mem_cons_self)
    · refine .inr fun other member => ?_
      rcases fits other (List.mem_cons_of_mem _ member) with ⟨entry, among, below⟩
      rcases List.mem_cons.mp among with rfl | behind
      · exact absurd below (BitVec.not_le.mpr (later other member))
      · exact ⟨entry, behind, below⟩
  · rintro (⟨none, -⟩ | fits)
    · cases none
    · refine .inr
        (List.forall_mem_cons.mpr ⟨⟨next, List.mem_cons_self, same ▸ BitVec.le_refl _⟩, ?_⟩)
      intro other member
      rcases fits other member with ⟨entry, among, below⟩
      exact ⟨entry, List.mem_cons_of_mem _ among, below⟩

theorem fits_greater (removed : Nat) (ascending : AscendingAddrs (next :: rest))
    (greater : new.1.address < next.addr) :
    Fits removed (next :: rest) (new :: news) ↔ Fits removed (next :: rest) news := by
  have beyond := beyond_pool ascending greater
  refine or_congr (and_congr_right fun _ => forall₂_congr fun entry member => ?_) ?_
  · rw [List.forall_mem_cons]
    exact and_iff_right (BitVec.ne_of_lt (beyond entry member)).symm
  · rw [List.forall_mem_cons]
    exact and_iff_right ⟨next, List.mem_cons_self, BitVec.le_of_lt greater⟩

theorem kept_less (ascending : AscendingListed (new :: news)) (less : next.addr < new.1.address) :
    kept (next :: rest) (new :: news) = next :: kept rest (new :: news) := by
  refine List.filter_cons_of_pos (decide_eq_true fun other member => ?_)
  exact BitVec.ne_of_lt (beyond_listed ascending less other member)

theorem kept_same (ascending : AscendingAddrs (next :: rest)) (same : next.addr = new.1.address) :
    kept (next :: rest) (new :: news) = kept rest news := by
  have gone : ¬ ∀ other ∈ new :: news, next.addr ≠ other.1.address :=
    fun none => none new List.mem_cons_self same
  rw [kept, List.filter_cons_of_neg (by simpa using gone)]
  refine List.filter_congr fun entry member => decide_eq_decide.mpr ?_
  have order := (List.pairwise_cons.mp ascending).1 entry member
  rw [List.forall_mem_cons]
  exact and_iff_right (same ▸ (BitVec.ne_of_lt order).symm)

theorem kept_greater (ascending : AscendingAddrs (next :: rest))
    (greater : new.1.address < next.addr) :
    kept (next :: rest) (new :: news) = kept (next :: rest) news := by
  refine List.filter_congr fun entry member => decide_eq_decide.mpr ?_
  rw [List.forall_mem_cons]
  exact and_iff_right (BitVec.ne_of_lt (beyond_pool ascending greater entry member)).symm

end Steps

theorem single_order {entry : PoolAddr} {new : Listed} (first : entry.Single)
    (second : new.1.entry.Single) : (compareListed entry new < 0 → entry.addr < new.1.address) ∧
      (compareListed entry new = 0 → entry.addr = new.1.address) ∧
      (0 < compareListed entry new → new.1.address < entry.addr) := by
  have compared : compareListed entry new = _ := compare_single first second
  by_cases below : entry.addr < new.1.entry.addr
  · rw [if_pos below] at compared
    rw [compared]
    exact ⟨fun _ => below, fun wrong => absurd wrong (by decide),
      fun wrong => absurd wrong (by decide)⟩
  · by_cases same : entry.addr = new.1.entry.addr
    · rw [if_neg below, if_pos same] at compared
      rw [compared]
      exact ⟨fun wrong => absurd wrong (by decide), fun _ => same,
        fun wrong => absurd wrong (by decide)⟩
    · rw [if_neg below, if_neg same] at compared
      rw [compared]
      have above : new.1.entry.addr < entry.addr := by bv_omega
      exact ⟨fun wrong => absurd wrong (by decide), fun wrong => absurd wrong (by decide),
        fun _ => above⟩

theorem fits_nil_iff (removed : Nat) (news : List Listed) :
    Fits removed [] news ↔ removed = 0 ∨ news = [] := by
  have nothing : (∀ new ∈ news, ∃ entry ∈ ([] : List PoolAddr), new.1.address ≤ entry.addr) ↔
      news = [] := by
    rw [List.eq_nil_iff_forall_not_mem]
    simp
  rw [Fits, nothing]
  simp

theorem goesOn_past (valid : addrList.mapM parseCidr = some cidrs) {out : List PoolAddr}
    {news : List Listed} {walk : Walk} (removing : Removing cidrs out [] news walk) :
    walk.goesOn addrList = true ↔ ¬ Fits walk.changed.length [] news := by
  have position : walk.j < addrList.length ↔ news ≠ [] := by
    constructor
    · rintro inside rfl
      exact absurd inside
        (Nat.not_lt.mpr (List.drop_eq_nil_iff.mp (listed_done valid removing.left)))
    · intro more
      cases news with
      | nil => exact absurd rfl more
      | cons new news => exact (listed_at valid removing.left).1
  simp [Walk.goesOn, removing.bound, removing.pool, removing.index, position, fits_nil_iff,
    List.length_pos_iff]

theorem removeLoop_past (valid : addrList.mapM parseCidr = some cidrs) (news : List Listed)
    (out : List PoolAddr) (walk : Walk) (removing : Removing cidrs out [] news walk) :
    ∃ code after, (∀ turns, news.length ≤ turns →
        whileLoop (Walk.goesOn addrList) (removeTurn inetPton6 addrList) turns walk =
          some (code, after)) ∧
      (Fits walk.changed.length [] news → code = 0 ∧ after.pool = out) ∧
      (¬ Fits walk.changed.length [] news → code = -1) := by
  by_cases on : walk.goesOn addrList = true
  · have misfit := (goesOn_past valid removing).mp on
    have more : 0 < news.length :=
      List.length_pos_iff.mpr fun none => misfit ((fits_nil_iff _ _).mpr (.inr none))
    refine ⟨-1, walk, fun turns enough => ?_, fun fits => absurd fits misfit, fun _ => rfl⟩
    obtain ⟨fewer, rfl⟩ : ∃ fewer, turns = fewer + 1 := Nat.exists_eq_add_one.mpr (by omega)
    exact whileLoop_leave _ _ fewer walk (-1) walk on
      (removeTurn_past inetPton6 removing) (by decide)
  · have stops : walk.goesOn addrList = false := by simpa using on
    refine ⟨0, walk, fun turns _ => whileLoop_stop _ _ turns walk stops, fun _ => ⟨rfl, ?_⟩,
      fun misfit => ?_⟩
    · simp [removing.pool]
    · exact absurd ((goesOn_past valid removing).mpr misfit) on

/-- Where the list fits, the loop ends well and leaves what is not listed; elsewhere it fails to
fetch an address past the end. -/
theorem removeLoop_fits (valid : addrList.mapM parseCidr = some cidrs) (rest : List PoolAddr)
    (news : List Listed) (out : List PoolAddr) (walk : Walk)
    (removing : Removing cidrs out rest news walk) (singles : ∀ entry ∈ rest, entry.Single)
    (listedSingles : ∀ new ∈ news, new.1.entry.Single) (ascending : AscendingAddrs rest)
    (listAscending : AscendingListed news) :
    ∃ code after, (∀ turns, rest.length + news.length ≤ turns →
        whileLoop (Walk.goesOn addrList) (removeTurn inetPton6 addrList) turns walk =
          some (code, after)) ∧
      (Fits walk.changed.length rest news → code = 0 ∧ after.pool = out ++ kept rest news) ∧
      (¬ Fits walk.changed.length rest news → code = -1) := by
  -- by the cases of a merge, the two lists being what the loop has still to look at
  induction rest, news using interleave_induction compareListed generalizing out walk with
  | nil news => simpa [kept] using removeLoop_past inetPton6 valid news out walk removing
  | done rest =>
      have ended := List.drop_eq_nil_iff.mp (listed_done valid removing.left)
      have stops : walk.goesOn addrList = false := by
        simp [Walk.goesOn]
        omega
      refine ⟨0, walk, fun turns _ => whileLoop_stop _ _ turns walk stops, fun _ => ?_,
        fun misfit => ?_⟩
      · simp [removing.pool, kept]
      · exact absurd (.inr (by simp)) misfit
  -- the entry of the pool is the lesser: the loop passes it and fetches the next one
  | less next rest new news less ih =>
      have order :=
        (single_order (singles _ List.mem_cons_self) (listedSingles _ List.mem_cons_self)).1 less
      have passed : Removing cidrs (out ++ [next]) rest (new :: news)
          { walk with paddr := next, i := walk.i + 1, fetch := true } :=
        { pool := by simp [removing.pool]
          index := by simp [removing.index]
          bound := removing.bound
          left := removing.left
          inHand := by simp }
      rcases ih (out ++ [next]) _ passed (List.forall_mem_cons.mp singles).2 listedSingles
        (List.pairwise_cons.mp ascending).2 listAscending with ⟨code, after, run, fits, misfit⟩
      refine ⟨code, after, fun turns enough => ?_, ?_, ?_⟩
      · refine whileLoop_enough _ _ (Settled.goesOn valid removing)
          (removeTurn_less inetPton6 valid removing less) run turns ?_
        simp only [List.length_cons] at enough ⊢
        omega
      · rw [fits_less _ listAscending order, kept_less listAscending order]
        simpa using fits
      · rw [fits_less _ listAscending order]
        exact misfit
  -- equal: the entry is removed, so that the index stands for the next one, but the bound stays
  | same next rest new news same ih =>
      have order :=
        (single_order (singles _ List.mem_cons_self) (listedSingles _ List.mem_cons_self)).2.1 same
      have passed : Removing cidrs out rest news
          ⟨out ++ rest, walk.i, walk.j + 1, walk.total, true, next, walk.changed ++ [walk.j]⟩ :=
        { pool := rfl
          index := removing.index
          bound := by simp [removing.bound, removing.pool]; omega
          left := (listed_at valid removing.left).2.2.2
          inHand := by simp }
      rcases ih out _ passed (List.forall_mem_cons.mp singles).2
        (List.forall_mem_cons.mp listedSingles).2
        (List.pairwise_cons.mp ascending).2 (List.pairwise_cons.mp listAscending).2 with
        ⟨code, after, run, fits, misfit⟩
      rw [List.length_append, List.length_singleton] at fits misfit
      refine ⟨code, after, fun turns enough => ?_, ?_, ?_⟩
      · refine whileLoop_enough _ _ (Settled.goesOn valid removing)
          (removeTurn_same inetPton6 valid removing same) run turns ?_
        simp only [List.length_cons] at enough ⊢
        omega
      · rw [fits_same _ listAscending order, kept_same ascending order]
        exact fits
      · rw [fits_same _ listAscending order]
        exact misfit
  -- the entry of the list is the lesser: it is not in the pool
  | greater next rest new news greater ih =>
      have order :=
        (single_order (singles _ List.mem_cons_self) (listedSingles _ List.mem_cons_self)).2.2
          greater
      have passed : Removing cidrs out (next :: rest) news
          { walk with paddr := next, j := walk.j + 1, fetch := false } :=
        { pool := removing.pool
          index := removing.index
          bound := removing.bound
          left := (listed_at valid removing.left).2.2.2
          inHand := by simp }
      rcases ih out _ passed singles (List.forall_mem_cons.mp listedSingles).2 ascending
        (List.pairwise_cons.mp listAscending).2 with ⟨code, after, run, fits, misfit⟩
      refine ⟨code, after, fun turns enough => ?_, ?_, ?_⟩
      · refine whileLoop_enough _ _ (Settled.goesOn valid removing)
          (removeTurn_greater inetPton6 valid removing greater) run turns ?_
        simp only [List.length_cons] at enough ⊢
        omega
      · rw [fits_greater _ ascending order, kept_greater ascending order]
        exact fits
      · rw [fits_greater _ ascending order]
        exact misfit

theorem not_listed_iff (listedSingles : ∀ cidr ∈ cidrs, cidr.prefixLen = 32) {entry : PoolAddr}
    (single : entry.Single) :
    (∀ new ∈ cidrs.zipIdx, entry.addr ≠ new.1.address) ↔ entry ∉ cidrs.map Cidr.entry := by
  constructor
  · intro apart among
    rcases List.mem_map.mp among with ⟨cidr, here, rfl⟩
    rcases List.mem_iff_getElem?.mp here with ⟨position, found⟩
    exact apart (cidr, position) (List.mem_zipIdx_iff_getElem?.mpr found) rfl
  · intro absent new among same
    refine absent (List.mem_map.mpr ⟨new.1, List.fst_mem_of_mem_zipIdx among, ?_⟩)
    have whole : new.1.entry.Single :=
      Cidr.single (listedSingles _ (List.fst_mem_of_mem_zipIdx among))
    exact PoolAddr.ext same.symm (whole.trans single.symm)

theorem fits_listed_iff (pool : List PoolAddr) (singles : ∀ entry ∈ pool, entry.Single)
    (listedSingles : ∀ cidr ∈ cidrs, cidr.prefixLen = 32) :
    Fits 0 pool cidrs.zipIdx ↔ (∀ entry ∈ pool, entry ∉ cidrs.map Cidr.entry) ∨
      ∀ cidr ∈ cidrs, ∃ entry ∈ pool, cidr.address ≤ entry.addr := by
  have reached : (∀ new ∈ cidrs.zipIdx, ∃ entry ∈ pool, new.1.address ≤ entry.addr) ↔
      ∀ cidr ∈ cidrs, ∃ entry ∈ pool, cidr.address ≤ entry.addr := by
    constructor
    · intro each cidr here
      rcases List.mem_iff_getElem?.mp here with ⟨position, found⟩
      exact each (cidr, position) (List.mem_zipIdx_iff_getElem?.mpr found)
    · exact fun each new among => each new.1 (List.fst_mem_of_mem_zipIdx among)
  rw [Fits, reached, and_iff_right rfl]
  exact or_congr (forall₂_congr fun entry member =>
    not_listed_iff listedSingles (singles entry member)) Iff.rfl

/-- The pool is left without the addresses of the list, unless one has been removed and the list
goes on behind the last address. -/
theorem removeAddressListFromPool_exact_iff (pool : List PoolAddr) (addrList : List CString)
    (cidrs : List Cidr) (some' : addrList ≠ []) (valid : addrList.mapM parseCidr = some cidrs)
    (singles : ∀ entry ∈ pool, entry.Single) (listedSingles : ∀ cidr ∈ cidrs, cidr.prefixLen = 32)
    (ascending : AscendingAddrs pool) (listAscending : AscendingAddrs (cidrs.map Cidr.entry)) :
    ∃ code after, (∀ turns, pool.length + addrList.length ≤ turns →
        removeAddressListFromPool inetPton6 addrList turns pool = some (code, after)) ∧
      ((code = 0 ∧ after.pool = pool.filter fun entry => entry ∉ cidrs.map Cidr.entry) ↔
        ((∀ entry ∈ pool, entry ∉ cidrs.map Cidr.entry) ∨
          ∀ cidr ∈ cidrs, ∃ entry ∈ pool, cidr.address ≤ entry.addr)) := by
  have size : cidrs.zipIdx.length = addrList.length := by
    rw [List.length_zipIdx, ((mapM_eq_some_iff _ _ _).mp valid).length_eq]
  have start : Removing cidrs [] pool cidrs.zipIdx (.start pool) :=
    ⟨rfl, rfl, rfl, rfl, fun fetch => by cases fetch⟩
  have zipped : AscendingListed cidrs.zipIdx :=
    pairwise_zipIdx (List.pairwise_map.mp listAscending) 0
  rcases removeLoop_fits inetPton6 valid pool cidrs.zipIdx [] _ start singles
    (fun new member => Cidr.single (listedSingles _ (List.fst_mem_of_mem_zipIdx member)))
        ascending zipped with
    ⟨code, after, run, fits, misfit⟩
  have keptEq : kept pool cidrs.zipIdx = pool.filter fun entry => entry ∉ cidrs.map Cidr.entry :=
    List.filter_congr fun entry member =>
      decide_eq_decide.mpr (not_listed_iff listedSingles (singles entry member))
  refine ⟨code, after, fun turns enough => ?_, ?_⟩
  · rw [removeAddressListFromPool, if_neg some']
    exact run turns (by rw [size]; exact enough)
  · rw [← fits_listed_iff pool singles listedSingles, ← keptEq]
    constructor
    · intro exact'
      by_cases fitting : Fits 0 pool cidrs.zipIdx
      · exact fitting
      · exact absurd (exact'.1.symm.trans (misfit fitting)) (by decide)
    · exact fits

end Removing

section Instances

def single (addr : BitVec 32) : PoolAddr := ⟨addr, BitVec.allOnes 32⟩

theorem removeAddressListFromPool_exact_two :
    ∃ code after, (∀ turns, 3 ≤ turns →
        removeAddressListFromPool (fun _ => none) [ascii "10.0.0.1"] turns [single 0x0A000001,
          single 0x0A000002] = some (code, after)) ∧
      ((code = 0 ∧ after.pool = [single 0x0A000001, single 0x0A000002].filter fun entry =>
          entry ∉ [(⟨0x0A000001, 32, by decide⟩ : Cidr)].map Cidr.entry) ↔
        ((∀ entry ∈ [single 0x0A000001, single 0x0A000002],
            entry ∉ [(⟨0x0A000001, 32, by decide⟩ : Cidr)].map Cidr.entry) ∨
          ∀ cidr ∈ [(⟨0x0A000001, 32, by decide⟩ : Cidr)],
            ∃ entry ∈ [single 0x0A000001, single 0x0A000002], cidr.address ≤ entry.addr)) :=
  removeAddressListFromPool_exact_iff (fun _ => none) [single 0x0A000001, single 0x0A000002]
    [ascii "10.0.0.1"] _
    (by decide) (by decide +kernel) (by decide) (by decide) (by decide) (by decide)

/-- The only address of the pool is removed, and the loop looks for another one to compare with. -/
theorem removeAddressListFromPool_past_end :
    removeAddressListFromPool (fun _ => none) [ascii "10.0.0.1", ascii "10.0.0.2"] 3
      [single 0x0A000001] =
        some (-1, ⟨[], 0, 1, 1, true, single 0x0A000001, [0]⟩) ∧
      [ascii "10.0.0.1", ascii "10.0.0.2"].mapM parseCidr =
        some [⟨0x0A000001, 32, by decide⟩, ⟨0x0A000002, 32, by decide⟩] := by
  constructor <;> decide +kernel

end Instances

end Dockermock.PfUtil
