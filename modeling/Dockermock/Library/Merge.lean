import Mathlib.Data.List.Forall2
import Mathlib.Order.Lattice

/-!
One pass over an old and a new list. The comparison has the sign of C: an old
entry below the new one stays where it is, a new entry below the old one goes in
front of it, and where neither is below, the new entry is dropped and both lists
move on. So every old entry takes one new entry at most.
-/

namespace Dockermock.Library

section Interleave

variable {Old New : Type} (cmp : Old → New → Int)

def interleave : List Old → List New → List (Old ⊕ New)
  | [], news => news.map .inr
  | old :: olds, [] => (old :: olds).map .inl
  | old :: olds, new :: news =>
      if cmp old new < 0 then .inl old :: interleave olds (new :: news)
      else if cmp old new = 0 then .inl old :: interleave olds news
      else .inr new :: interleave (old :: olds) news
termination_by olds news => olds.length + news.length

/-- The new entries that are not taken up. -/
def dropped : List Old → List New → List New
  | [], _ => []
  | _ :: _, [] => []
  | old :: olds, new :: news =>
      if cmp old new < 0 then dropped olds (new :: news)
      else if cmp old new = 0 then new :: dropped olds news
      else dropped (old :: olds) news
termination_by olds news => olds.length + news.length

def added (olds : List Old) (news : List New) : List New :=
  (interleave cmp olds news).filterMap Sum.getRight?

theorem interleave_nil (news : List New) :
    interleave cmp [] news = news.map .inr := by rw [interleave]

theorem interleave_done (olds : List Old) : interleave cmp olds [] = olds.map .inl := by
  cases olds <;> rw [interleave]
  rfl

theorem interleave_less {old : Old} {new : New} (olds : List Old) (news : List New)
    (less : cmp old new < 0) :
    interleave cmp (old :: olds) (new :: news) = .inl old :: interleave cmp olds (new :: news) := by
  rw [interleave, if_pos less]

theorem interleave_same {old : Old} {new : New} (olds : List Old) (news : List New)
    (same : cmp old new = 0) :
    interleave cmp (old :: olds) (new :: news) = .inl old :: interleave cmp olds news := by
  rw [interleave, if_neg (by omega), if_pos same]

theorem interleave_greater {old : Old} {new : New} (olds : List Old) (news : List New)
    (greater : 0 < cmp old new) :
    interleave cmp (old :: olds) (new :: news) = .inr new :: interleave cmp (old :: olds) news := by
  rw [interleave, if_neg (by omega), if_neg (by omega)]

theorem dropped_nil (news : List New) : dropped cmp [] news = [] := by rw [dropped]

theorem dropped_done (olds : List Old) : dropped cmp olds [] = [] := by cases olds <;> rw [dropped]

theorem dropped_less {old : Old} {new : New} (olds : List Old) (news : List New)
    (less : cmp old new < 0) :
    dropped cmp (old :: olds) (new :: news) = dropped cmp olds (new :: news) := by
  rw [dropped, if_pos less]

theorem dropped_same {old : Old} {new : New} (olds : List Old) (news : List New)
    (same : cmp old new = 0) :
    dropped cmp (old :: olds) (new :: news) = new :: dropped cmp olds news := by
  rw [dropped, if_neg (by omega), if_pos same]

theorem dropped_greater {old : Old} {new : New} (olds : List Old) (news : List New)
    (greater : 0 < cmp old new) :
    dropped cmp (old :: olds) (new :: news) = dropped cmp (old :: olds) news := by
  rw [dropped, if_neg (by omega), if_neg (by omega)]

theorem interleave_induction {motive : List Old → List New → Prop} (nil : ∀ news, motive [] news)
    (done : ∀ olds, motive olds [])
    (less : ∀ old olds new news, cmp old new < 0 → motive olds (new :: news) →
      motive (old :: olds) (new :: news))
    (same : ∀ old olds new news, cmp old new = 0 → motive olds news →
      motive (old :: olds) (new :: news))
    (greater : ∀ old olds new news, 0 < cmp old new → motive (old :: olds) news →
      motive (old :: olds) (new :: news))
    (olds : List Old) (news : List New) : motive olds news := by
  induction olds, news using interleave.induct cmp with
  | case1 news => exact nil news
  | case2 old olds => exact done _
  | case3 old olds new news below ih => exact less old olds new news below ih
  | case4 old olds new news _ equal ih => exact same old olds new news equal ih
  | case5 old olds new news notBelow notEqual ih => exact greater old olds new news (by omega) ih

theorem interleave_olds (become : New → Old) (olds : List Old) (news : List New) :
    List.Sublist olds ((interleave cmp olds news).map (Sum.elim id become)) := by
  induction olds, news using interleave_induction cmp with
  | nil news => exact List.nil_sublist _
  | done olds => simp [interleave_done, List.map_map, Function.comp_def]
  | less old olds new news below ih =>
      rw [interleave_less cmp olds news below]
      exact ih.cons_cons _
  | same old olds new news equal ih =>
      rw [interleave_same cmp olds news equal]
      exact ih.cons_cons _
  | greater old olds new news above ih =>
      rw [interleave_greater cmp olds news above]
      exact ih.cons _

@[simp]
theorem added_nil (news : List New) : added cmp [] news = news := by
  simp [added, interleave_nil, List.filterMap_map, Function.comp_def]

@[simp]
theorem added_done (olds : List Old) : added cmp olds [] = [] := by
  simp [added, interleave_done, List.filterMap_map, Function.comp_def]

theorem added_less {old : Old} {new : New} (olds : List Old) (news : List New)
    (less : cmp old new < 0) :
    added cmp (old :: olds) (new :: news) = added cmp olds (new :: news) := by
  rw [added, interleave_less cmp olds news less, List.filterMap_cons_none rfl, added]

theorem added_same {old : Old} {new : New} (olds : List Old) (news : List New)
    (same : cmp old new = 0) : added cmp (old :: olds) (new :: news) = added cmp olds news := by
  rw [added, interleave_same cmp olds news same, List.filterMap_cons_none rfl, added]

theorem added_greater {old : Old} {new : New} (olds : List Old) (news : List New)
    (greater : 0 < cmp old new) :
    added cmp (old :: olds) (new :: news) = new :: added cmp (old :: olds) news := by
  simp [added, interleave_greater cmp olds news greater]

theorem added_sublist (olds : List Old) (news : List New) :
    List.Sublist (added cmp olds news) news := by
  induction olds, news using interleave_induction cmp with
  | nil news => simp
  | done olds => simp
  | less old olds new news below ih => rwa [added_less cmp olds news below]
  | same old olds new news equal ih =>
      rw [added_same cmp olds news equal]
      exact ih.cons _
  | greater old olds new news above ih =>
      rw [added_greater cmp olds news above]
      exact ih.cons_cons _

theorem added_append_dropped (olds : List Old) (news : List New) :
    List.Perm (added cmp olds news ++ dropped cmp olds news) news := by
  induction olds, news using interleave_induction cmp with
  | nil news => simp [dropped_nil]
  | done olds => simp [dropped_done]
  | less old olds new news below ih =>
      rwa [added_less cmp olds news below, dropped_less cmp olds news below]
  | same old olds new news equal ih =>
      rw [added_same cmp olds news equal, dropped_same cmp olds news equal]
      exact List.perm_middle.trans (ih.cons new)
  | greater old olds new news above ih =>
      rw [added_greater cmp olds news above, dropped_greater cmp olds news above]
      exact ih.cons new

theorem interleave_perm (olds : List Old) (news : List New) :
    List.Perm (interleave cmp olds news) (olds.map .inl ++ (added cmp olds news).map .inr) := by
  induction olds, news using interleave_induction cmp with
  | nil news => simp [interleave_nil]
  | done olds => simp [interleave_done]
  | less old olds new news below ih =>
      rw [added_less cmp olds news below, interleave_less cmp olds news below]
      exact ih.cons _
  | same old olds new news equal ih =>
      rw [added_same cmp olds news equal, interleave_same cmp olds news equal]
      exact ih.cons _
  | greater old olds new news above ih =>
      rw [added_greater cmp olds news above, interleave_greater cmp olds news above]
      exact (ih.cons _).trans List.perm_middle.symm

theorem mem_interleave (olds : List Old) (news : List New) (entry : Old ⊕ New)
    (member : entry ∈ interleave cmp olds news) :
    (∃ old ∈ olds, entry = .inl old) ∨ ∃ new ∈ news, entry = .inr new := by
  rcases List.mem_append.mp ((interleave_perm cmp olds news).mem_iff.mp member) with old | new
  · rcases List.mem_map.mp old with ⟨entry, among, rfl⟩
    exact .inl ⟨entry, among, rfl⟩
  · rcases List.mem_map.mp new with ⟨entry, among, rfl⟩
    exact .inr ⟨entry, (added_sublist cmp olds news).subset among, rfl⟩

end Interleave

section Order

variable {Old New Key : Type} [Preorder Key] {cmp : Old → New → Int} {oldKey : Old → Key}
  {newKey : New → Key}

theorem interleave_ascending (below : ∀ old new, cmp old new ≤ 0 → oldKey old ≤ newKey new)
    (above : ∀ old new, 0 < cmp old new → newKey new ≤ oldKey old) (olds : List Old)
    (news : List New)
    (oldAscending : olds.Pairwise fun first second => oldKey first ≤ oldKey second)
    (newAscending : news.Pairwise fun first second => newKey first ≤ newKey second) :
    (interleave cmp olds news).Pairwise fun first second =>
      Sum.elim oldKey newKey first ≤ Sum.elim oldKey newKey second := by
  -- An entry at the front is below the whole rest once it is below both of the lists.
  have front : ∀ (entry : Old ⊕ New) (olds : List Old) (news : List New),
      (∀ old ∈ olds, Sum.elim oldKey newKey entry ≤ oldKey old) →
      (∀ new ∈ news, Sum.elim oldKey newKey entry ≤ newKey new) →
      ∀ later ∈ interleave cmp olds news,
          Sum.elim oldKey newKey entry ≤ Sum.elim oldKey newKey later := by
    intro entry olds news oldLater newLater later member
    rcases mem_interleave cmp olds news later member with ⟨old, among, rfl⟩ | ⟨new, among, rfl⟩
    · exact oldLater old among
    · exact newLater new among
  induction olds, news using interleave_induction cmp with
  | nil news => simpa [interleave_nil, List.pairwise_map] using newAscending
  | done olds => simpa [interleave_done, List.pairwise_map] using oldAscending
  | less old olds new news less ih =>
      rw [interleave_less cmp olds news less]
      have first := List.pairwise_cons.mp oldAscending
      have start : oldKey old ≤ newKey new := below old new (Int.le_of_lt less)
      refine List.pairwise_cons.mpr ⟨front (.inl old) _ _ first.1 ?_, ih first.2 newAscending⟩
      exact List.forall_mem_cons.mpr
        ⟨start, fun later member =>
          start.trans ((List.pairwise_cons.mp newAscending).1 later member)⟩
  | same old olds new news same ih =>
      rw [interleave_same cmp olds news same]
      have first := List.pairwise_cons.mp oldAscending
      have next := List.pairwise_cons.mp newAscending
      have start : oldKey old ≤ newKey new := below old new (Int.le_of_eq same)
      exact List.pairwise_cons.mpr
        ⟨front (.inl old) _ _ first.1 fun later member => start.trans (next.1 later member),
          ih first.2 next.2⟩
  | greater old olds new news greater ih =>
      rw [interleave_greater cmp olds news greater]
      have first := List.pairwise_cons.mp oldAscending
      have next := List.pairwise_cons.mp newAscending
      have start : newKey new ≤ oldKey old := above old new greater
      refine List.pairwise_cons.mpr ⟨front (.inr new) _ _ ?_ next.1, ih oldAscending next.2⟩
      exact List.forall_mem_cons.mpr ⟨start, fun later member => start.trans (first.1 later member)⟩

end Order

section Ties

variable {Old New Key : Type} [LinearOrder Key] (cmp : Old → New → Int) (oldKey : Old → Key)
  (newKey : New → Key)

/-- Where the new entries of a key match only old entries of that key, the first of them are
dropped, one for each of the old ones. -/
theorem dropped_of_key (below : ∀ old new, cmp old new < 0 → oldKey old < newKey new)
    (above : ∀ old new, 0 < cmp old new → newKey new < oldKey old)
    (matched : ∀ old new, cmp old new = 0 → oldKey old ≤ newKey new) (key : Key) (olds : List Old)
    (news : List New)
    (ties : ∀ old ∈ olds, ∀ new ∈ news, newKey new = key → cmp old new = 0 → oldKey old = key)
    (oldAscending : olds.Pairwise fun first second => oldKey first ≤ oldKey second)
    (newAscending : news.Pairwise fun first second => newKey first ≤ newKey second) :
    (dropped cmp olds news).filter (fun new => newKey new = key) =
      (news.filter fun new => newKey new = key).take (olds.countP fun old => oldKey old = key) := by
  -- Beyond the key there are no new entries of it left, nor old ones.
  have newBeyond : ∀ (new : New) (news : List New), key < newKey new →
      (new :: news).Pairwise (fun first second => newKey first ≤ newKey second) →
      (new :: news).filter (fun new => newKey new = key) = [] := by
    intro new news beyond ascending
    refine List.filter_eq_nil_iff.mpr
      (List.forall_mem_cons.mpr ⟨by simp [beyond.ne'], fun later member => ?_⟩)
    have order := (List.pairwise_cons.mp ascending).1 later member
    simp [(beyond.trans_le order).ne']
  have oldBeyond : ∀ (old : Old) (olds : List Old), key < oldKey old →
      (old :: olds).Pairwise (fun first second => oldKey first ≤ oldKey second) →
      (old :: olds).countP (fun old => oldKey old = key) = 0 := by
    intro old olds beyond ascending
    refine List.countP_eq_zero.mpr
      (List.forall_mem_cons.mpr ⟨by simp [beyond.ne'], fun later member => ?_⟩)
    have order := (List.pairwise_cons.mp ascending).1 later member
    simp [(beyond.trans_le order).ne']
  induction olds, news using interleave_induction cmp with
  | nil news => simp [dropped_nil]
  | done olds => simp [dropped_done]
  | less old olds new news less ih =>
      have rest := ih (fun other member => ties other (List.mem_cons_of_mem _ member))
        (List.pairwise_cons.mp oldAscending).2 newAscending
      rw [dropped_less cmp olds news less, rest]
      by_cases tie : oldKey old = key
      · rw [newBeyond new news (tie ▸ below old new less) newAscending, List.take_nil,
          List.take_nil]
      · rw [List.countP_cons_of_neg (by simpa using tie)]
  | same old olds new news same ih =>
      have next := List.pairwise_cons.mp newAscending
      have rest := ih
        (fun other member later among =>
          ties other (List.mem_cons_of_mem _ member) later (List.mem_cons_of_mem _ among))
        (List.pairwise_cons.mp oldAscending).2 next.2
      rw [dropped_same cmp olds news same]
      by_cases tie : newKey new = key
      · have old' := ties old List.mem_cons_self new List.mem_cons_self tie same
        rw [List.filter_cons_of_pos (by simpa using tie),
          List.filter_cons_of_pos (by simpa using tie),
          List.countP_cons_of_pos (by simpa using old'), List.take_succ_cons, rest]
      · rw [List.filter_cons_of_neg (by simpa using tie), rest]
        by_cases old' : oldKey old = key
        · have beyond : key < newKey new :=
            lt_of_le_of_ne (old' ▸ matched old new same) (Ne.symm tie)
          have none := newBeyond new news beyond newAscending
          rw [List.filter_cons_of_neg (by simpa using tie)] at none ⊢
          rw [none, List.take_nil, List.take_nil]
        · rw [List.filter_cons_of_neg (by simpa using tie),
            List.countP_cons_of_neg (by simpa using old')]
  | greater old olds new news greater ih =>
      have rest := ih
        (fun other member later among => ties other member later (List.mem_cons_of_mem _ among))
        oldAscending (List.pairwise_cons.mp newAscending).2
      rw [dropped_greater cmp olds news greater, rest]
      by_cases tie : newKey new = key
      · rw [oldBeyond old olds (tie ▸ above old new greater) oldAscending, List.take_zero,
          List.take_zero]
      · rw [List.filter_cons_of_neg (by simpa using tie)]

end Ties

section Assignment

variable {Old New : Type} {cmp : Old → New → Int}

/-- An old entry that is passed matches no later new entry, and a new entry that has gone in
matches no later old one. -/
structure Passing (cmp : Old → New → Int) (olds : List Old) (news : List New) : Prop where
  old : ∀ old ∈ olds, news.Pairwise fun first second => cmp old first < 0 → cmp old second ≠ 0
  new : ∀ new ∈ news, olds.Pairwise fun first second => 0 < cmp first new → cmp second new ≠ 0

theorem Passing.tail_olds {old : Old} {olds : List Old} {news : List New}
    (passing : Passing cmp (old :: olds) news) : Passing cmp olds news where
  old other member := passing.old other (List.mem_cons_of_mem _ member)
  new other member := (List.pairwise_cons.mp (passing.new other member)).2

theorem Passing.tail_news {new : New} {olds : List Old} {news : List New}
    (passing : Passing cmp olds (new :: news)) : Passing cmp olds news where
  old other member := (List.pairwise_cons.mp (passing.old other member)).2
  new other member := passing.new other (List.mem_cons_of_mem _ member)

/-- The new entries that are to be dropped are dropped, and no others, exactly if they can be given
old entries of their own in the order of the lists: the pass gives each the first one there is. -/
theorem none_added_iff (wanted : New → Bool) (olds : List Old) (news : List New)
    (passing : Passing cmp olds news) (only : ∀ new ∈ dropped cmp olds news, wanted new = true) :
    (∀ new ∈ added cmp olds news, wanted new = false) ↔
      List.SublistForall₂ (fun new old => cmp old new = 0) (news.filter wanted) olds := by
  induction olds, news using interleave_induction cmp with
  | nil news =>
      rw [added_nil]
      constructor
      · intro none
        have empty : news.filter wanted = [] := List.filter_eq_nil_iff.mpr fun new member => by
          simp [none new member]
        rw [empty]
        exact .nil
      · intro assigned new member
        have empty : news.filter wanted = [] := by
          generalize news.filter wanted = wanteds at assigned
          cases assigned
          rfl
        simpa using List.filter_eq_nil_iff.mp empty new member
  | done olds => simpa using List.SublistForall₂.nil
  | less old olds new news less ih =>
      rw [added_less cmp olds news less]
      rw [dropped_less cmp olds news less] at only
      rw [ih passing.tail_olds only]
      refine ⟨.cons_right, fun assigned => ?_⟩
      have passed := List.pairwise_cons.mp (passing.old old List.mem_cons_self)
      have unmatched : ∀ other ∈ (new :: news).filter wanted, cmp old other ≠ 0 := by
        intro other member
        rcases List.mem_cons.mp (List.mem_of_mem_filter member) with rfl | later
        · exact Int.ne_of_lt less
        · exact passed.1 other later less
      generalize (new :: news).filter wanted = wanteds at assigned unmatched
      cases assigned with
      | nil => exact .nil
      | cons matched _ => exact absurd matched (unmatched _ List.mem_cons_self)
      | cons_right rest => exact rest
  | same old olds new news same ih =>
      rw [added_same cmp olds news same]
      rw [dropped_same cmp olds news same, List.forall_mem_cons] at only
      rw [ih passing.tail_olds.tail_news only.2, List.filter_cons_of_pos only.1]
      refine ⟨.cons same, fun assigned => ?_⟩
      cases assigned with
      | cons _ rest => exact rest
      | cons_right rest =>
          rcases List.sublistForall₂_iff.mp rest with ⟨chosen, matched, among⟩
          cases matched with
          | cons _ others =>
              exact List.sublistForall₂_iff.mpr
                ⟨_, others, (List.sublist_cons_self _ _).trans among⟩
  | greater old olds new news greater ih =>
      rw [added_greater cmp olds news greater, List.forall_mem_cons]
      rw [dropped_greater cmp olds news greater] at only
      rw [ih passing.tail_news only]
      cases chosen : wanted new with
      | false => rw [List.filter_cons_of_neg (by simp [chosen])]; simp
      | true =>
          rw [List.filter_cons_of_pos chosen]
          refine ⟨fun both => absurd both.1 (by decide), fun assigned => ?_⟩
          -- Neither this old entry nor a later one matches.
          have passed := List.pairwise_cons.mp (passing.new new List.mem_cons_self)
          rcases List.sublistForall₂_iff.mp assigned with ⟨_, matched, among⟩
          cases matched with
          | cons equal _ =>
              rcases List.mem_cons.mp (among.subset List.mem_cons_self) with rfl | later
              · exact absurd equal (Int.ne_of_gt greater)
              · exact absurd equal (passed.1 _ later greater)

end Assignment

end Dockermock.Library
