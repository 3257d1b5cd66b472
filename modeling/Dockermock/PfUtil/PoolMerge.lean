import Dockermock.Library.Merge
import Dockermock.PfUtil.Pool

/-!
What add_addressList_to_pool makes of an ascending pool and an ascending list.
The first loop inserts into the pool it walks and moves index and bound along; an
entry it has compared with stays in hand until it is passed. So pool and list are
interleaved, and each entry of the pool takes one entry of the list at most.
-/

namespace Dockermock.PfUtil

open Library

section Interleaving

abbrev Listed := Cidr × Nat

def compareListed (entry : PoolAddr) (new : Listed) : Int := compareNetworks entry new.1.entry

def merged (pool : List PoolAddr) (news : List Listed) : List PoolAddr :=
  (interleave compareListed pool news).map (Sum.elim id fun new => new.1.entry)

def addedPositions (pool : List PoolAddr) (news : List Listed) : List Nat :=
  (added compareListed pool news).map Prod.snd

variable (inetPton6 : CString → Option (List UInt8)) {addrList : List CString} {cidrs : List Cidr}

theorem listed_at (valid : addrList.mapM parseCidr = some cidrs) {position : Nat} {new : Listed}
    {news : List Listed} (here : cidrs.zipIdx.drop position = new :: news) :
    position < addrList.length ∧ new.2 = position ∧
      parseCidr (addrList.getD position []) = some new.1 ∧
      cidrs.zipIdx.drop (position + 1) = news := by
  have both := (mapM_eq_some_iff _ _ _).mp valid
  have inside : position < cidrs.length := by
    apply Nat.lt_of_not_le
    intro beyond
    rw [List.drop_of_length_le (by simpa using beyond)] at here
    cases here
  have listed : position < addrList.length := both.length_eq ▸ inside
  have zipped : position < cidrs.zipIdx.length := by simpa using inside
  rw [List.drop_eq_getElem_cons zipped] at here
  cases here
  have parsed := both.get listed inside
  refine ⟨listed, by simp, ?_, rfl⟩
  simpa [List.getD_eq_getElem?_getD, listed] using parsed

theorem listed_done (valid : addrList.mapM parseCidr = some cidrs) {position : Nat}
    (done : cidrs.zipIdx.drop position = []) : addrList.drop position = [] := by
  have size := ((mapM_eq_some_iff _ _ _).mp valid).length_eq
  rw [List.drop_eq_nil_iff] at done ⊢
  simpa [size] using done

theorem addAddressToPool_before {cidr : CString} {parsed : Cidr}
    (valid : parseCidr cidr = some parsed) (out : List PoolAddr) (next : PoolAddr)
    (rest : List PoolAddr) :
    addAddressToPool inetPton6 cidr out.length (out ++ next :: rest) =
        some (out ++ parsed.entry :: next :: rest) := by
  simp only [addAddressToPool, (parseCidr_reads valid).1, Option.bind_some, PfAddr.entry]
  cases out with
  | nil => rfl
  | cons first others =>
      have notHead : ((first :: others).length : Int) ≠ 0 := by simp; omega
      have notTail : ((first :: others).length : Int) ≠ -1 := by omega
      rw [if_neg notHead, if_neg notTail, Int.toNat_natCast]
      have inside : (first :: others).length < (first :: others ++ next :: rest).length := by simp
      rw [changeAddr, if_pos inside, insertIdx_append_length]

theorem addAddressToPool_tail {cidr : CString} {parsed : Cidr}
    (valid : parseCidr cidr = some parsed) (pool : List PoolAddr) :
    addAddressToPool inetPton6 cidr (-1) pool = some (pool ++ [parsed.entry]) := by
  simp only [addAddressToPool, (parseCidr_reads valid).1, Option.bind_some, PfAddr.entry]
  rfl

theorem appendRest_listed (valid : addrList.mapM parseCidr = some cidrs) (news : List Listed)
    (walk : Walk) (left : cidrs.zipIdx.drop walk.j = news) :
    ∃ after, appendRest inetPton6 (addrList.drop walk.j) walk = (0, after) ∧
      after.pool = walk.pool ++ news.map (fun new => new.1.entry) ∧
      after.changed = walk.changed ++ news.map Prod.snd := by
  induction news generalizing walk with
  | nil =>
      rw [listed_done valid left]
      exact ⟨walk, rfl, by simp, by simp⟩
  | cons new news ih =>
      rcases listed_at valid left with ⟨inside, position, parsed, later⟩
      rw [List.drop_eq_getElem_cons inside, appendRest]
      have text : addrList[walk.j] = addrList.getD walk.j [] := by simp [inside]
      rw [text]
      simp only [addAddressToPool_tail inetPton6 parsed]
      rcases ih { walk with
        pool := walk.pool ++ [new.1.entry], j := walk.j + 1,
            changed := walk.changed ++ [walk.j] } later with
        ⟨after, run, pool, changed⟩
      refine ⟨after, run, ?_, ?_⟩
      · rw [pool]
        simp
      · rw [changed]
        simp [position]

/-- What holds each time the first loop is about to look at an entry: those in front of the index
are settled, and the entry at the index is the one in hand unless it is yet to be fetched. The bound
may lie behind the end of the pool. -/
structure Settled (cidrs : List Cidr) (beyond : Nat) (out rest : List PoolAddr) (news : List Listed)
    (walk : Walk) : Prop where
  pool : walk.pool = out ++ rest
  index : walk.i = out.length
  bound : walk.total = walk.pool.length + beyond
  left : cidrs.zipIdx.drop walk.j = news
  inHand : walk.fetch = false → rest.head? = some walk.paddr

theorem Settled.address {beyond : Nat} {out rest : List PoolAddr} {news : List Listed} {walk : Walk}
    {next : PoolAddr} (settled : Settled cidrs beyond out (next :: rest) news walk) :
    walk.address = some next := by
  cases fetch : walk.fetch with
  | false =>
      have same := settled.inHand fetch
      simpa [Walk.address, fetch] using same.symm
  | true => simp [Walk.address, fetch, settled.pool, settled.index]

theorem Settled.goesOn (valid : addrList.mapM parseCidr = some cidrs) {beyond : Nat}
    {out rest : List PoolAddr} {new : Listed} {news : List Listed} {walk : Walk} {next : PoolAddr}
    (settled : Settled cidrs beyond out (next :: rest) (new :: news) walk) :
    walk.goesOn addrList = true := by
  have inside := (listed_at valid settled.left).1
  simp [Walk.goesOn, settled.bound, settled.pool, settled.index, inside]
  omega

theorem addTurn_less (valid : addrList.mapM parseCidr = some cidrs) {out rest : List PoolAddr}
    {next : PoolAddr} {new : Listed} {news : List Listed} {walk : Walk}
    (settled : Settled cidrs 0 out (next :: rest) (new :: news) walk)
    (less : compareListed next new < 0) :
    addTurn inetPton6 addrList walk =
        (0, { walk with paddr := next, i := walk.i + 1, fetch := true }) := by
  have parsed := (listed_at valid settled.left).2.2.1
  simp only [addTurn, settled.address, (parseCidr_reads parsed).2]
  exact if_pos less

theorem addTurn_same (valid : addrList.mapM parseCidr = some cidrs) {out rest : List PoolAddr}
    {next : PoolAddr} {new : Listed} {news : List Listed} {walk : Walk}
    (settled : Settled cidrs 0 out (next :: rest) (new :: news) walk)
    (same : compareListed next new = 0) :
    addTurn inetPton6 addrList walk =
      (0, { walk with paddr := next, i := walk.i + 1, j := walk.j + 1, fetch := true }) := by
  have parsed := (listed_at valid settled.left).2.2.1
  have notLess : ¬ compareListed next new < 0 := by omega
  simp only [addTurn, settled.address, (parseCidr_reads parsed).2]
  exact (if_neg notLess).trans (if_pos same)

theorem addTurn_greater (valid : addrList.mapM parseCidr = some cidrs) {out rest : List PoolAddr}
    {next : PoolAddr} {new : Listed} {news : List Listed} {walk : Walk}
    (settled : Settled cidrs 0 out (next :: rest) (new :: news) walk)
    (greater : 0 < compareListed next new) :
    addTurn inetPton6 addrList walk =
      (0, ⟨out ++ new.1.entry :: next :: rest, walk.i + 1, walk.j + 1, walk.total + 1, false, next,
        walk.changed ++ [walk.j]⟩) := by
  have parsed := (listed_at valid settled.left).2.2.1
  have notLess : ¬ compareListed next new < 0 := by omega
  have notSame : ¬ compareListed next new = 0 := by omega
  simp only [addTurn, settled.address, (parseCidr_reads parsed).2]
  refine (if_neg notLess).trans ((if_neg notSame).trans ?_)
  rw [settled.pool, settled.index, addAddressToPool_before inetPton6 parsed]

theorem addFrom_enough {enough : Nat} {walk next : Walk} {result : Int × Walk}
    (on : walk.goesOn addrList = true) (done : addTurn inetPton6 addrList walk = (0, next))
    (rest : ∀ turns, enough ≤ turns → addFrom inetPton6 addrList turns next = some result)
    (turns : Nat) (more : enough < turns) :
    addFrom inetPton6 addrList turns walk = some result := by
  obtain ⟨fewer, rfl⟩ : ∃ fewer, turns = fewer + 1 :=
    Nat.exists_eq_add_one.mpr (Nat.zero_lt_of_lt more)
  rw [addFrom, whileLoop_turn _ _ fewer walk next on done]
  exact rest fewer (Nat.le_of_lt_succ more)

theorem addFrom_merged (valid : addrList.mapM parseCidr = some cidrs) (rest : List PoolAddr)
    (news : List Listed) (out : List PoolAddr) (walk : Walk)
    (settled : Settled cidrs 0 out rest news walk) :
    ∃ after, (∀ turns, rest.length + news.length ≤ turns →
      addFrom inetPton6 addrList turns walk = some (0, after)) ∧
      after.pool = out ++ merged rest news ∧
          after.changed = walk.changed ++ addedPositions rest news := by
  induction rest, news using interleave_induction compareListed generalizing out walk with
  | nil news =>
      have stops : walk.goesOn addrList = false := by
        simp [Walk.goesOn, settled.bound, settled.pool, settled.index]
      rcases appendRest_listed inetPton6 valid news walk settled.left with
        ⟨after, run, pool, changed⟩
      refine ⟨after, fun turns _ => ?_, ?_, ?_⟩
      · simp [addFrom, whileLoop_stop _ _ turns walk stops, run]
      · simp [pool, settled.pool, merged, interleave_nil, List.map_map, Function.comp_def]
      · simp [changed, addedPositions]
  | done rest =>
      have ended := listed_done valid settled.left
      have stops : walk.goesOn addrList = false := by
        have beyond := List.drop_eq_nil_iff.mp ended
        simp [Walk.goesOn]
        omega
      refine ⟨walk, fun turns _ => ?_, ?_, ?_⟩
      · simp [addFrom, whileLoop_stop _ _ turns walk stops, ended, appendRest]
      · simp [settled.pool, merged, interleave_done, List.map_map, Function.comp_def]
      · simp [addedPositions]
  | less next rest new news less ih =>
      have passed : Settled cidrs 0 (out ++ [next]) rest (new :: news)
          { walk with paddr := next, i := walk.i + 1, fetch := true } :=
        { pool := by simp [settled.pool]
          index := by simp [settled.index]
          bound := settled.bound
          left := settled.left
          inHand := by simp }
      rcases ih (out ++ [next]) _ passed with ⟨after, run, pool, changed⟩
      refine ⟨after, fun turns enough => ?_, ?_, ?_⟩
      · refine addFrom_enough inetPton6 (settled.goesOn valid)
          (addTurn_less inetPton6 valid settled less) run turns ?_
        simp only [List.length_cons] at enough ⊢
        omega
      · simp [pool, merged, interleave_less _ _ _ less]
      · rw [changed, addedPositions, addedPositions, added_less _ _ _ less]
  | same next rest new news same ih =>
      have passed : Settled cidrs 0 (out ++ [next]) rest news
          { walk with paddr := next, i := walk.i + 1, j := walk.j + 1, fetch := true } :=
        { pool := by simp [settled.pool]
          index := by simp [settled.index]
          bound := settled.bound
          left := (listed_at valid settled.left).2.2.2
          inHand := by simp }
      rcases ih (out ++ [next]) _ passed with ⟨after, run, pool, changed⟩
      refine ⟨after, fun turns enough => ?_, ?_, ?_⟩
      · refine addFrom_enough inetPton6 (settled.goesOn valid)
          (addTurn_same inetPton6 valid settled same) run turns ?_
        simp only [List.length_cons] at enough ⊢
        omega
      · simp [pool, merged, interleave_same _ _ _ same]
      · rw [changed, addedPositions, addedPositions, added_same _ _ _ same]
  | greater next rest new news greater ih =>
      -- The entry of the pool moves up by one place and stays in hand.
      have passed : Settled cidrs 0 (out ++ [new.1.entry]) (next :: rest) news
          ⟨out ++ new.1.entry :: next :: rest, walk.i + 1, walk.j + 1, walk.total + 1, false, next,
            walk.changed ++ [walk.j]⟩ :=
        { pool := by simp
          index := by simp [settled.index]
          bound := by simp [settled.bound, settled.pool]; omega
          left := (listed_at valid settled.left).2.2.2
          inHand := by simp }
      rcases ih (out ++ [new.1.entry]) _ passed with ⟨after, run, pool, changed⟩
      refine ⟨after, fun turns enough => ?_, ?_, ?_⟩
      · refine addFrom_enough inetPton6 (settled.goesOn valid)
          (addTurn_greater inetPton6 valid settled greater) run turns ?_
        simp only [List.length_cons] at enough ⊢
        omega
      · simp [pool, merged, interleave_greater _ _ _ greater]
      · have position := (listed_at valid settled.left).2.1
        simp [changed, addedPositions, added_greater _ _ _ greater, position]

/-- The whole function, given turns enough. -/
theorem addAddressListToPool_merged (some' : addrList ≠ [])
    (valid : addrList.mapM parseCidr = some cidrs) (pool : List PoolAddr) :
    ∃ after, (∀ turns, pool.length + addrList.length ≤ turns →
        addAddressListToPool inetPton6 addrList turns pool = some (0, after)) ∧
      after.pool = merged pool cidrs.zipIdx ∧ after.changed = addedPositions pool cidrs.zipIdx := by
  have size : cidrs.zipIdx.length = addrList.length := by
    rw [List.length_zipIdx, ((mapM_eq_some_iff _ _ _).mp valid).length_eq]
  have start : Settled cidrs 0 [] pool cidrs.zipIdx (.start pool) :=
    ⟨rfl, rfl, rfl, rfl, fun fetch => by cases fetch⟩
  rcases addFrom_merged inetPton6 valid pool cidrs.zipIdx [] _ start with
    ⟨after, run, merged, changed⟩
  refine ⟨after, fun turns enough => ?_, merged, changed⟩
  rw [addAddressListToPool, if_neg some']
  exact run turns (by rw [size]; exact enough)

end Interleaving

section Ascending

def Ascending (pool : List PoolAddr) : Prop :=
  pool.Pairwise fun first second => first.network ≤ second.network

instance (pool : List PoolAddr) :
    Decidable (Ascending pool) := inferInstanceAs (Decidable (pool.Pairwise _))

structure Grown (cidrs : List Cidr) (pool after : List PoolAddr) (positions : List Nat) : Prop where
  ascending : Ascending after
  kept : List.Sublist pool after
  distinct : positions.Pairwise (· < ·)
  listed : ∀ position ∈ positions, position < cidrs.length
  entries : List.Perm after
    (pool ++ positions.filterMap fun position => cidrs[position]?.map Cidr.entry)

theorem listed_ascending {cidrs : List Cidr} (ascending : Ascending (cidrs.map Cidr.entry)) :
    cidrs.zipIdx.Pairwise fun first second : Listed =>
        first.1.entry.network ≤ second.1.entry.network :=
  pairwise_zipIdx (List.pairwise_map.mp ascending) 0

theorem merged_ascending (pool : List PoolAddr) (cidrs : List Cidr) (poolAscending : Ascending pool)
    (listAscending : Ascending (cidrs.map Cidr.entry)) : Ascending (merged pool cidrs.zipIdx) := by
  have below : ∀ entry (new : Listed), compareListed entry new ≤ 0 →
      entry.network.toNat ≤ new.1.entry.network.toNat :=
    fun _ _ less => BitVec.le_def.mp (compareNetworks_nonpos less)
  have above : ∀ entry (new : Listed), 0 < compareListed entry new →
      new.1.entry.network.toNat ≤ entry.network.toNat :=
    fun _ _ greater => Nat.le_of_lt (BitVec.lt_def.mp (compareNetworks_pos greater))
  have whole := interleave_ascending below above pool cidrs.zipIdx
    (poolAscending.imp fun order => BitVec.le_def.mp order)
    ((listed_ascending listAscending).imp fun order => BitVec.le_def.mp order)
  refine List.pairwise_map.mpr (whole.imp ?_)
  rintro (first | first) (second | second) order
  all_goals exact BitVec.le_def.mpr order

theorem addedPositions_sublist (pool : List PoolAddr) (cidrs : List Cidr) :
    List.Sublist (addedPositions pool cidrs.zipIdx) (List.range' 0 cidrs.length) := by
  have among := (added_sublist compareListed pool cidrs.zipIdx).map Prod.snd
  rwa [List.zipIdx_map_snd] at among

theorem merged_perm (pool : List PoolAddr) (cidrs : List Cidr) :
    List.Perm (merged pool cidrs.zipIdx)
      (pool ++ (addedPositions pool cidrs.zipIdx).filterMap fun position =>
          cidrs[position]?.map Cidr.entry) := by
  have entries : (addedPositions pool cidrs.zipIdx).filterMap
    (fun position => cidrs[position]?.map Cidr.entry) =
      (added compareListed pool cidrs.zipIdx).map fun new => new.1.entry := by
    rw [addedPositions, List.filterMap_map, ← List.filterMap_eq_map]
    apply List.filterMap_congr
    intro new member
    have listed :=
      List.mem_zipIdx_iff_getElem?.mp
        ((added_sublist compareListed pool cidrs.zipIdx).subset member)
    simp [listed]
  have whole :=
    (interleave_perm compareListed pool cidrs.zipIdx).map
      (Sum.elim id fun new : Listed => new.1.entry)
  rw [entries]
  simpa [merged, List.map_map, Function.comp_def] using whole

theorem merged_grown (pool : List PoolAddr) (cidrs : List Cidr) (poolAscending : Ascending pool)
    (listAscending : Ascending (cidrs.map Cidr.entry)) :
    Grown cidrs pool (merged pool cidrs.zipIdx) (addedPositions pool cidrs.zipIdx) where
  ascending := merged_ascending pool cidrs poolAscending listAscending
  kept := interleave_olds compareListed (fun new => new.1.entry) pool cidrs.zipIdx
  distinct := (List.pairwise_lt_range' 1).sublist (addedPositions_sublist pool cidrs)
  listed position member := by simpa using (addedPositions_sublist pool cidrs).subset member
  entries := merged_perm pool cidrs

/-- The function comes to an end, and the pool stays ascending. -/
theorem addAddressListToPool_grown (inetPton6 : CString → Option (List UInt8))
    (pool : List PoolAddr) (addrList : List CString) (cidrs : List Cidr) (some' : addrList ≠ [])
    (valid : addrList.mapM parseCidr = some cidrs) (poolAscending : Ascending pool)
    (listAscending : Ascending (cidrs.map Cidr.entry)) :
    ∃ after, (∀ turns, pool.length + addrList.length ≤ turns →
        addAddressListToPool inetPton6 addrList turns pool = some (0, after)) ∧
      Grown cidrs pool after.pool after.changed := by
  rcases addAddressListToPool_merged inetPton6 some' valid pool with ⟨after, run, merged, changed⟩
  refine ⟨after, run, ?_⟩
  rw [merged, changed]
  exact merged_grown pool cidrs poolAscending listAscending

/-- 10.0.0.0/8 in the pool; one entry in front of it, one inside and one behind. -/
theorem addAddressListToPool_grown_three :
    ∃ after, (∀ turns, 4 ≤ turns → addAddressListToPool (fun _ => none)
        [ascii "9.0.0.0/8", ascii "10.1.0.0/16", ascii "11.0.0.1"] turns
          [⟨0x0A000000, 0xFF000000⟩] = some (0, after)) ∧
      Grown [⟨0x09000000, 8, by decide⟩, ⟨0x0A010000, 16, by decide⟩, ⟨0x0B000001, 32, by decide⟩]
        [⟨0x0A000000, 0xFF000000⟩] after.pool after.changed :=
  addAddressListToPool_grown (fun _ => none) [⟨0x0A000000, 0xFF000000⟩]
    [ascii "9.0.0.0/8", ascii "10.1.0.0/16", ascii "11.0.0.1"] _ (by decide)
      (by decide +kernel) (by decide)
    (by decide)

end Ascending

end Dockermock.PfUtil
