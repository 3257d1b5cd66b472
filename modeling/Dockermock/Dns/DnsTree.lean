import Mathlib.Data.List.Flatten
import Dockermock.Library.Dict
import Dockermock.Library.History

/-!
The in-memory DNS tree of app2/dns/DnsTree.py: nested dictionaries keyed by the
labels of a domain read from its end. `insertAt` is the loop of `DnsTree.insert`
over one label list; a child created on the way holds no address. Addresses are
any type, since the tree only stores and returns them. The tree's lock makes
each insert one step, and Python's recursion limit is left out.
-/

namespace Dockermock.Dns

open Library

/-! `rsplit_generator` scans for the last dot below `start`, yields what follows
it and moves `start` onto the dot. It ends after a scan without a dot, and also
when `start` reaches zero, so nothing is yielded in front of a leading dot. -/
section Labels

/-- `domain.rfind('.', 0, start)`, with `none` for -1. -/
def rfind (domain : List Char) : Nat → Option Nat
  | 0 => none
  | index + 1 => if domain[index]? = some '.' then some index else rfind domain index

def slice (domain : List Char) (first last : Nat) : String :=
  String.ofList ((domain.take last).drop first)

def rsplitFrom (domain : List Char) : Nat → Nat → List String
  | 0, _ => []
  | fuel + 1, start =>
      if start = 0 then [] else
        match rfind domain start with
        | none => [slice domain 0 start]
        | some dot => slice domain (dot + 1) start :: rsplitFrom domain fuel dot

def rsplitGenerator (domain : String) : List String :=
  rsplitFrom domain.toList domain.toList.length domain.toList.length

theorem rfind_lt (domain : List Char) (start dot : Nat)
    (found : rfind domain start = some dot) : dot < start := by
  induction start with
  | zero => simp [rfind] at found
  | succ index ih =>
      simp only [rfind] at found
      split at found
      · cases found
        exact Nat.lt_succ_self _
      · exact Nat.lt_succ_of_lt (ih found)

/-- Every scan moves `start` down, so the length of the domain is fuel enough
and the loop never stops for lack of it. -/
theorem rsplitFrom_fuel (domain : List Char) (fuel extra start : Nat) (enough : start ≤ fuel) :
    rsplitFrom domain (fuel + extra) start = rsplitFrom domain fuel start := by
  induction fuel generalizing start with
  | zero =>
      have done : start = 0 := Nat.le_zero.mp enough
      cases extra <;> simp [rsplitFrom, done]
  | succ fuel ih =>
      rw [Nat.succ_add]
      simp only [rsplitFrom]
      cases found : rfind domain start with
      | none => rfl
      | some dot =>
          have lower := rfind_lt domain start dot found
          simp only [ih dot (by omega)]

example : rsplitGenerator "www.example.com" = ["com", "example", "www"] := by decide

end Labels

inductive DnsTreeNode (Addr : Type) where
  | mk (children : List (String × DnsTreeNode Addr)) (ip : Option Addr)

variable {Addr : Type}

namespace DnsTreeNode

def blank : DnsTreeNode Addr := .mk [] none

def children : DnsTreeNode Addr → List (String × DnsTreeNode Addr)
  | .mk children _ => children

def ip : DnsTreeNode Addr → Option Addr
  | .mk _ ip => ip

def insertAt : List String → Addr → DnsTreeNode Addr → DnsTreeNode Addr
  | [], address, .mk children _ => .mk children (some address)
  | part :: rest, address, .mk children ip =>
      let child := (children.lookup part).getD blank
      .mk (assign part (insertAt rest address child) children) ip

def descend : List String → DnsTreeNode Addr → Option (DnsTreeNode Addr)
  | [], node => some node
  | part :: rest, node =>
      match node.children.lookup part with
      | some child => descend rest child
      | none => none

mutual

def collectAll : DnsTreeNode Addr → List Addr
  | .mk children ip => ip.toList ++ collectChildren children

def collectChildren : List (String × DnsTreeNode Addr) → List Addr
  | [] => []
  | (_, child) :: rest => collectAll child ++ collectChildren rest

end

def readAt (path : List String) (node : DnsTreeNode Addr) : Option Addr :=
  (descend path node).bind ip

@[simp] theorem readAt_nil (node : DnsTreeNode Addr) : readAt [] node = node.ip := rfl

theorem readAt_cons (part : String) (rest : List String) (node : DnsTreeNode Addr) :
    readAt (part :: rest) node = (node.children.lookup part).bind (readAt rest) := by
  unfold readAt
  rw [descend]
  cases node.children.lookup part <;> rfl

theorem readAt_blank (path : List String) : readAt path (blank : DnsTreeNode Addr) = none := by
  cases path with
  | nil => rfl
  | cons part rest => simp [readAt_cons, blank, children]

theorem readAt_insertAt (path probe : List String) (address : Addr) (node : DnsTreeNode Addr) :
    readAt probe (insertAt path address node) =
      if probe = path then some address else readAt probe node := by
  induction path generalizing probe node with
  | nil =>
      cases node with
      | mk kids stored =>
          cases probe with
          | nil => rfl
          | cons part rest => simp [insertAt, readAt_cons, children]
  | cons label below ih =>
      cases node with
      | mk kids stored =>
          cases probe with
          | nil => simp [insertAt, ip]
          | cons part rest =>
              simp only [insertAt, readAt_cons, children, lookup_assign, List.cons.injEq]
              by_cases here : part = label
              · subst here
                simp only [↓reduceIte, Option.bind_some, ih, true_and]
                cases kids.lookup part with
                | none => simp [readAt_blank]
                | some child => rfl
              · simp [here]

theorem readAt_descend (path below : List String) (node reached : DnsTreeNode Addr)
    (found : descend path node = some reached) :
    readAt below reached = readAt (path ++ below) node := by
  induction path generalizing node with
  | nil =>
      cases found
      rfl
  | cons part rest ih =>
      rw [descend] at found
      rw [List.cons_append, readAt_cons]
      cases child : node.children.lookup part with
      | none => simp [child] at found
      | some next =>
          rw [child] at found
          exact ih next found

theorem readAt_lost (path below : List String) (node : DnsTreeNode Addr)
    (lost : descend path node = none) : readAt (path ++ below) node = none := by
  induction path generalizing node with
  | nil => simp [descend] at lost
  | cons part rest ih =>
      rw [descend] at lost
      rw [List.cons_append, readAt_cons]
      cases child : node.children.lookup part with
      | none => rfl
      | some next =>
          rw [child] at lost
          exact ih next lost

inductive Distinct : DnsTreeNode Addr → Prop where
  | mk {children : List (String × DnsTreeNode Addr)} {ip : Option Addr} :
      (children.map Prod.fst).Nodup → (∀ entry ∈ children, Distinct entry.2) →
      Distinct (.mk children ip)

theorem distinct_blank : Distinct (blank : DnsTreeNode Addr) :=
  Distinct.mk List.nodup_nil (by simp)

theorem distinct_insertAt (path : List String) (address : Addr) (node : DnsTreeNode Addr)
    (valid : Distinct node) : Distinct (insertAt path address node) := by
  induction path generalizing node with
  | nil =>
      cases valid with
      | mk keys below => exact Distinct.mk keys below
  | cons part rest ih =>
      cases valid with
      | @mk kids stored keys below =>
          have childValid : Distinct ((kids.lookup part).getD blank) := by
            cases found : kids.lookup part with
            | none => exact distinct_blank
            | some child =>
                exact below (part, child) ((lookup_eq_some_iff_mem kids keys part child).mp found)
          exact Distinct.mk (assign_distinct part _ kids keys)
            (assign_forall (fun entry => Distinct entry.2) part _ kids (ih _ childValid) below)

/-! The entries of a tree, each with its path: what `collect_all` returns once
the paths are dropped. -/

mutual

def entriesOf : DnsTreeNode Addr → List (List String × Addr)
  | .mk children ip => (ip.map fun address => ([], address)).toList ++ childEntries children

def childEntries : List (String × DnsTreeNode Addr) → List (List String × Addr)
  | [] => []
  | (part, child) :: rest =>
      (entriesOf child).map (fun entry => (part :: entry.1, entry.2)) ++ childEntries rest

end

mutual

theorem collect_all_entries : (node : DnsTreeNode Addr) →
    collectAll node = (entriesOf node).map Prod.snd
  | .mk children ip => by
      rw [collectAll, entriesOf, List.map_append, collect_children_entries children]
      cases ip <;> rfl

theorem collect_children_entries : (children : List (String × DnsTreeNode Addr)) →
    collectChildren children = (childEntries children).map Prod.snd
  | [] => rfl
  | (part, child) :: rest => by
      rw [collectChildren, childEntries, List.map_append, collect_children_entries rest,
        collect_all_entries child, List.map_map]
      rfl

end

theorem mem_childEntries (children : List (String × DnsTreeNode Addr)) (path : List String)
    (address : Addr) :
    (path, address) ∈ childEntries children ↔
      ∃ part child rest, (part, child) ∈ children ∧ path = part :: rest ∧
        (rest, address) ∈ entriesOf child := by
  induction children with
  | nil => simp [childEntries]
  | cons entry others ih =>
      obtain ⟨label, first⟩ := entry
      rw [childEntries, List.mem_append, ih]
      constructor
      · rintro (here | ⟨part, child, rest, member, same, held⟩)
        · obtain ⟨⟨rest, value⟩, held, equal⟩ := List.mem_map.mp here
          cases equal
          exact ⟨label, first, rest, List.mem_cons_self, rfl, held⟩
        · exact ⟨part, child, rest, List.mem_cons_of_mem _ member, same, held⟩
      · rintro ⟨part, child, rest, member, rfl, held⟩
        rcases List.mem_cons.mp member with same | later
        · cases same
          exact Or.inl (List.mem_map.mpr ⟨(rest, address), held, rfl⟩)
        · exact Or.inr ⟨part, child, rest, later, rfl, held⟩

theorem mem_entriesOf (node : DnsTreeNode Addr) (valid : Distinct node) (path : List String)
    (address : Addr) : (path, address) ∈ entriesOf node ↔ readAt path node = some address := by
  induction valid generalizing path address with
  | @mk kids stored keys _ ih =>
      rw [entriesOf, List.mem_append, mem_childEntries]
      cases path with
      | nil => cases stored <;> simp [ip, eq_comm]
      | cons label below =>
          have outside : ((label :: below, address) ∈
              (stored.map fun value => (([] : List String), value)).toList) ↔ False := by
            cases stored <;> simp
          rw [outside, false_or, readAt_cons, children]
          constructor
          · rintro ⟨part, child, rest, member, same, held⟩
            cases same
            rw [(lookup_eq_some_iff_mem kids keys label child).mpr member]
            exact (ih (label, child) member below address).mp held
          · intro read
            obtain ⟨child, found, held⟩ := Option.bind_eq_some_iff.mp read
            have member := (lookup_eq_some_iff_mem kids keys label child).mp found
            exact ⟨label, child, below, member, rfl,
              (ih (label, child) member below address).mpr held⟩

theorem childEntries_nodup (children : List (String × DnsTreeNode Addr))
    (keys : (children.map Prod.fst).Nodup)
    (each : ∀ entry ∈ children, (entriesOf entry.2).Nodup) : (childEntries children).Nodup := by
  induction children with
  | nil => exact List.nodup_nil
  | cons entry others ih =>
      obtain ⟨label, first⟩ := entry
      rw [List.map_cons, List.nodup_cons] at keys
      rw [childEntries]
      refine List.Nodup.append ?_
        (ih keys.2 fun e member => each e (List.mem_cons_of_mem _ member)) ?_
      · refine (each (label, first) List.mem_cons_self).map ?_
        intro left right same
        simpa [Prod.ext_iff] using same
      · intro candidate here later
        obtain ⟨⟨below, value⟩, _, rfl⟩ := List.mem_map.mp here
        obtain ⟨part, child, rest, member, same, _⟩ := (mem_childEntries others _ _).mp later
        cases same
        exact keys.1 (List.mem_map.mpr ⟨(label, child), member, rfl⟩)

theorem entriesOf_nodup (node : DnsTreeNode Addr) (valid : Distinct node) :
    (entriesOf node).Nodup := by
  induction valid with
  | @mk kids stored keys _ ih =>
      rw [entriesOf]
      refine List.Nodup.append ?_ (childEntries_nodup kids keys ih) ?_
      · cases stored <;> simp
      · intro candidate here later
        obtain ⟨path, value⟩ := candidate
        obtain ⟨part, child, rest, _, same, _⟩ := (mem_childEntries kids _ _).mp later
        cases stored <;> simp [same] at here

end DnsTreeNode

structure DnsTree (Addr : Type) where
  root : DnsTreeNode Addr
  distinct : root.Distinct

namespace DnsTree

open DnsTreeNode

def empty : DnsTree Addr := ⟨blank, distinct_blank⟩

def insert (tree : DnsTree Addr) (domain : String) (ip : Addr) : DnsTree Addr :=
  ⟨insertAt (rsplitGenerator domain) ip tree.root,
    distinct_insertAt (rsplitGenerator domain) ip tree.root tree.distinct⟩

def collectFrom (tree : DnsTree Addr) (domain : String) : List Addr :=
  match descend (rsplitGenerator domain) tree.root with
  | some node => collectAll node
  | none => []

def insertAll (history : List (String × Addr)) : DnsTree Addr :=
  history.foldl (fun tree entry => tree.insert entry.1 entry.2) empty

def labelled (history : List (String × Addr)) : List (List String × Addr) :=
  history.map fun entry => (rsplitGenerator entry.1, entry.2)

/-- After any inserts the tree reads as the latest address of every label list. -/
theorem insert_all_reads_latest (history : List (String × Addr)) (path : List String) :
    readAt path (insertAll history).root = latest (labelled history) path :=
  replay_reads_latest (fun tree path => readAt path tree.root)
    (fun tree entry => tree.insert entry.1 entry.2)
    (fun entry => (rsplitGenerator entry.1, entry.2)) empty readAt_blank
    (fun tree entry probe => readAt_insertAt (rsplitGenerator entry.1) probe entry.2 tree.root)
      history path

/-- Entries below a reached node, with their whole paths: exactly the entries of
the tree whose label list extends the descended one. -/
theorem descend_entries_perm (tree : DnsTree Addr) (path : List String)
    (history : List (List String × Addr))
    (reads : ∀ probe, readAt probe tree.root = latest history probe) (node : DnsTreeNode Addr)
    (valid : node.Distinct) (found : descend path tree.root = some node) :
    ((entriesOf node).map fun entry => (path ++ entry.1, entry.2)).Perm
      ((current history).filter fun entry => path.isPrefixOf entry.1) := by
  refine (List.perm_ext_iff_of_nodup ?_ ((current_nodup history).filter _)).mpr ?_
  · refine (entriesOf_nodup node valid).map ?_
    intro left right same
    simpa [Prod.ext_iff] using same
  · rintro ⟨whole, address⟩
    rw [List.mem_filter, mem_current, List.isPrefixOf_iff_prefix, ← reads]
    constructor
    · intro member
      obtain ⟨⟨below, value⟩, held, equal⟩ := List.mem_map.mp member
      cases equal
      have read := (mem_entriesOf node valid below value).mp held
      exact ⟨readAt_descend path below tree.root node found ▸ read, List.prefix_append path below⟩
    · rintro ⟨read, below, rfl⟩
      have held := (mem_entriesOf node valid below address).mpr
        ((readAt_descend path below tree.root node found).trans read)
      exact List.mem_map.mpr ⟨(below, address), held, rfl⟩

theorem distinct_descend (path : List String) (node reached : DnsTreeNode Addr)
    (valid : node.Distinct) (found : descend path node = some reached) : reached.Distinct := by
  induction path generalizing node with
  | nil =>
      cases found
      exact valid
  | cons part rest ih =>
      cases valid with
      | @mk kids stored keys below =>
          rw [descend, children] at found
          cases child : kids.lookup part with
          | none => simp [child] at found
          | some next =>
              rw [child] at found
              exact ih next
                (below (part, next) ((lookup_eq_some_iff_mem kids keys part next).mp child)) found

/-- Whatever was inserted in whatever order, a query collects the latest address
of each inserted label list that extends its own, each once and nothing else. -/
theorem collect_from_exact (history : List (String × Addr)) (query : String) :
    ((insertAll history).collectFrom query).Perm
      (((current (labelled history)).filter
        fun entry => (rsplitGenerator query).isPrefixOf entry.1).map Prod.snd) := by
  -- The walk down and the collection are exact; what the tree reads is the history's latest.
  have reads := insert_all_reads_latest history
  rw [collectFrom]
  cases found : descend (rsplitGenerator query) (insertAll history).root with
  | none =>
      have nothing : (current (labelled history)).filter
          (fun entry => (rsplitGenerator query).isPrefixOf entry.1) = [] := by
        apply List.filter_eq_nil_iff.mpr
        rintro ⟨whole, address⟩ member below
        obtain ⟨rest, rfl⟩ := List.isPrefixOf_iff_prefix.mp below
        rw [mem_current, ← reads, readAt_lost _ rest _ found] at member
        simp at member
      rw [nothing]
      exact List.Perm.refl []
  | some node =>
      have valid := distinct_descend _ _ node (insertAll history).distinct found
      have listed := (descend_entries_perm _ _ _ reads node valid found).map Prod.snd
      rw [List.map_map] at listed
      have collected : collectAll node =
          (entriesOf node).map
              (Prod.snd ∘ fun entry => (rsplitGenerator query ++ entry.1, entry.2)) :=
        collect_all_entries node
      rw [← collected] at listed
      exact listed

end DnsTree

end Dockermock.Dns
