import Dockermock.Library.Traversal
import Dockermock.Dns.DnsTree
import Dockermock.Dns.Shared

/-!
The domain tree as the threads of the server share it. `insert` holds the lock of
the tree, `collect_from` does not take it, so that every reading of a query is a
step between the steps of an insert. A node object is named by the labels on the
way to it: no child is ever replaced.
-/

namespace Dockermock.Dns.SharedTree

open Library Library.Traversal DnsTreeNode
open Shared (Turn)

variable {Addr : Type}

section Memory

def updateAt (change : DnsTreeNode Addr → DnsTreeNode Addr) :
    List String → DnsTreeNode Addr → DnsTreeNode Addr
  | [], node => change node
  | part :: rest, .mk children ip =>
      match children.lookup part with
      | some child => .mk (assign part (updateAt change rest child) children) ip
      | none => .mk children ip

def create (node : List String) (part : String) : DnsTreeNode Addr → DnsTreeNode Addr :=
  updateAt (fun there => .mk (assign part blank there.children) there.ip) node

def setIp (node : List String) (ip : Addr) : DnsTreeNode Addr → DnsTreeNode Addr :=
  updateAt (fun there => .mk there.children (some ip)) node

/-- The keys of a node's dictionary and its address, of a node that is not there none. -/
def look (root : DnsTreeNode Addr) (node : List String) : List String × Option Addr :=
  match descend node root with
  | some there => (there.children.map Prod.fst, there.ip)
  | none => ([], none)

theorem assign_keys_held (part : String) (value held : DnsTreeNode Addr)
    (children : List (String × DnsTreeNode Addr)) (found : children.lookup part = some held) :
    (assign part value children).map Prod.fst = children.map Prod.fst := by
  induction children with
  | nil => cases found
  | cons entry rest ih =>
      rcases entry with ⟨other, stored⟩
      by_cases here : other = part
      · simp [assign, here]
      · rw [lookup_cons_other other part stored rest (Ne.symm here)] at found
        rw [assign, if_neg here, List.map_cons, List.map_cons, ih found]

def labels (root : DnsTreeNode Addr) : Children String := fun node => (look root node).1

theorem readAt_eq_look (root : DnsTreeNode Addr) (node : List String) :
    readAt node root = (look root node).2 := by
  rw [readAt, look]
  cases descend node root <;> rfl

theorem look_cons (children : List (String × DnsTreeNode Addr)) (ip : Option Addr) (part : String)
    (rest : List String) :
    look (.mk children ip) (part :: rest) =
      match children.lookup part with
      | some child => look child rest
      | none => ([], none) := by
  rw [look, descend, DnsTreeNode.children]
  cases children.lookup part <;> rfl

theorem look_blank (node : List String) : look (blank : DnsTreeNode Addr) node = ([], none) := by
  cases node <;> rfl

theorem look_updateAt {change : DnsTreeNode Addr → DnsTreeNode Addr} {node : List String}
    {root there : DnsTreeNode Addr} (found : descend node root = some there)
    (local' : ∀ part rest, look (change there) (part :: rest) = look there (part :: rest))
    (probe : List String) :
    look (updateAt change node root) probe = if probe = node then look (change there) []
        else look root probe := by
  induction node generalizing root probe with
  | nil =>
      cases found
      cases probe with
      | nil => rfl
      | cons part rest => exact local' part rest
  | cons part rest ih =>
      rcases root with ⟨kids, stored⟩
      rw [descend, DnsTreeNode.children] at found
      cases held : kids.lookup part with
      | none =>
          rw [held] at found
          cases found
      | some child =>
          rw [held] at found
          rw [updateAt, held]
          cases probe with
          | nil =>
              rw [if_neg (List.cons_ne_nil part rest).symm]
              exact Prod.ext (assign_keys_held part _ child kids held) rfl
          | cons label below =>
              simp only [look_cons, lookup_assign, List.cons.injEq]
              -- a step into the child that was rebuilt, or past it
              by_cases here : label = part
              · subst here
                simp only [if_true, true_and, held]
                exact ih found below
              · simp only [here, false_and, if_false]

theorem descend_iff_member (root : DnsTreeNode Addr) (node : List String) (part : String) :
    descend (node ++ [part]) root ≠ none ↔ part ∈ labels root node := by
  induction node generalizing root with
  | nil =>
      rcases root with ⟨kids, stored⟩
      rw [List.nil_append, descend, DnsTreeNode.children]
      change _ ↔ part ∈ kids.map Prod.fst
      have known : (kids.lookup part).isSome ↔ part ∈ kids.map Prod.fst := by
        simp [List.lookup_isSome_iff]
      rw [← known]
      cases kids.lookup part <;> simp [descend]
  | cons label rest ih =>
      rcases root with ⟨kids, stored⟩
      rw [List.cons_append, descend, labels, look_cons, DnsTreeNode.children]
      cases held : kids.lookup label with
      | none => simp
      | some child => exact ih child

theorem descend_of_append {root : DnsTreeNode Addr} {node below : List String}
    (there : descend (node ++ below) root ≠ none) : descend node root ≠ none := by
  induction node generalizing root with
  | nil => exact Option.some_ne_none root
  | cons label rest ih =>
      rw [List.cons_append, descend] at there
      rw [descend]
      cases held : root.children.lookup label with
      | none =>
          rw [held] at there
          exact absurd rfl there
      | some child =>
          rw [held] at there
          exact ih there

theorem descend_of_read {root : DnsTreeNode Addr} {node : List String}
    (held : readAt node root ≠ none) :
    descend node root ≠ none := fun lost => held (by rw [readAt, lost, Option.bind_none])

section Changes
variable {root : DnsTreeNode Addr} {node : List String}

theorem look_create (there : descend node root ≠ none) {part : String}
    (fresh : part ∉ labels root node) (probe : List String) :
    look (create node part root) probe =
      if probe = node then (labels root node ++ [part], readAt node root) else look root probe := by
  rcases Option.ne_none_iff_exists'.mp there with ⟨⟨kids, stored⟩, found⟩
  have seen : labels root node = kids.map Prod.fst := by rw [labels, look, found]; rfl
  have absent : kids.lookup part = none := by
    rw [seen] at fresh
    refine List.lookup_eq_none_iff.mpr fun entry member => bne_iff_ne.mpr ?_
    rintro rfl
    exact fresh (List.mem_map_of_mem member)
  rw [create, look_updateAt found, seen, readAt, found]
  · refine if_congr Iff.rfl (Prod.ext ?_ rfl) rfl
    change (assign part blank kids).map Prod.fst = _
    rw [assign_fresh part blank kids absent, List.map_append]
    rfl
  · intro label rest
    simp only [DnsTreeNode.children, look_cons, lookup_assign]
    by_cases here : label = part
    · subst here
      simp [absent, look_blank]
    · simp [here]

theorem look_setIp (there : descend node root ≠ none) (ip : Addr) (probe : List String) :
    look (setIp node ip root) probe = if probe = node then (labels root node, some ip)
        else look root probe := by
  rcases Option.ne_none_iff_exists'.mp there with ⟨⟨kids, stored⟩, found⟩
  have seen : labels root node = kids.map Prod.fst := by rw [labels, look, found]; rfl
  rw [setIp, look_updateAt found, seen]
  · rfl
  · intro label rest
    rfl

theorem labels_create (there : descend node root ≠ none) {part : String}
    (fresh : part ∉ labels root node) (probe : List String) :
    labels (create node part root) probe = if probe = node then labels root node ++ [part]
        else labels root probe := by
  rw [labels, look_create there fresh, apply_ite Prod.fst]
  rfl

theorem readAt_create (there : descend node root ≠ none) {part : String}
    (fresh : part ∉ labels root node) (probe : List String) :
    readAt probe (create node part root) = readAt probe root := by
  rw [readAt_eq_look, look_create there fresh, apply_ite Prod.snd, ← readAt_eq_look]
  split_ifs with here
  · rw [here]
  · rfl

theorem labels_setIp (there : descend node root ≠ none) (ip : Addr) :
    labels (setIp node ip root) = labels root := by
  funext probe
  rw [labels, look_setIp there, apply_ite Prod.fst]
  split_ifs with here
  · rw [here]
  · rfl

theorem readAt_setIp (there : descend node root ≠ none) (ip : Addr) (probe : List String) :
    readAt probe (setIp node ip root) = if probe = node then some ip else readAt probe root := by
  rw [readAt_eq_look, look_setIp there, apply_ite Prod.snd, ← readAt_eq_look]

end Changes

end Memory

section Code

/-- Where an insert is: in front of the test of the loop, of the assignment of a new node, or of
`node = node.children[part]`. -/
inductive InsertPoint where
  | testing (node : List String) (parts : List String)
  | creating (node : List String) (part : String) (rest : List String)
  | descending (node : List String) (part : String) (rest : List String)

/-- A query on its way down, and then in collect_all. That one asks twice for an address, to test it
and to append it, then for an iterator over the children, and then for one child after the other.
The lists of the nested calls are one list here: each is appended to the next outer one. -/
inductive CollectPoint (Addr : Type) where
  | testing (node : List String) (parts : List String)
  | descending (node : List String) (part : String) (rest : List String)
  | asking (node : List String) (frames : List (Frame String)) (ips : List (Option Addr))
  | taking (node : List String) (frames : List (Frame String)) (ips : List (Option Addr))
  | opening (node : List String) (frames : List (Frame String)) (ips : List (Option Addr))
  | turning (frames : List (Frame String)) (ips : List (Option Addr))

structure InsertCall (Addr : Type) where
  domain : String
  ip : Addr
  point : InsertPoint

/-- `since` is the number of inserts that had returned when the call began. -/
structure CollectCall (Addr : Type) where
  domain : String
  since : Nat
  point : CollectPoint Addr

structure Answer (Addr : Type) where
  domain : String
  since : Nat
  upTo : Nat
  ips : List (Option Addr)

/-- A query that has raised, with the domain of the insert that held the lock then. -/
structure Failure where
  domain : String
  since : Nat
  upTo : Nat
  inserting : Option String

/-- The history of the inserts that have returned, the times of the queries and their ends serve the
properties only. -/
structure System (Addr : Type) where
  root : DnsTreeNode Addr
  inserting : Option (InsertCall Addr)
  collects : Dict Nat (CollectCall Addr)
  history : List (String × Addr)
  answers : List (Answer Addr)
  failures : List Failure

inductive Action (Addr : Type) where
  | insert (domain : String) (ip : Addr)
  | insertOn
  | collect (call : Nat) (domain : String)
  | collectOn (call : Nat)

def insertTurn (root : DnsTreeNode Addr) (ip : Addr) :
    InsertPoint → DnsTreeNode Addr × Turn InsertPoint Unit
  | .testing node [] => (setIp node ip root, .returned ())
  | .testing node (part :: rest) =>
      if part ∈ labels root node then (root, .goesOn (.descending node part rest))
      else (root, .goesOn (.creating node part rest))
  | .creating node part rest => (create node part root, .goesOn (.descending node part rest))
  | .descending node part rest =>
      if part ∈ labels root node then (root, .goesOn (.testing (node ++ [part]) rest))
        else (root, .raised)

/-- An iterator over a dictionary raises when the dictionary has another size than at its beginning.
-/
def collectTurn (root : DnsTreeNode Addr) :
    CollectPoint Addr → Turn (CollectPoint Addr) (List (Option Addr))
  | .testing node [] => .goesOn (.asking node [] [])
  | .testing node (part :: rest) =>
      if part ∈ labels root node then .goesOn (.descending node part rest) else .returned []
  | .descending node part rest =>
      if part ∈ labels root node then .goesOn (.testing (node ++ [part]) rest) else .raised
  | .asking node frames ips =>
      if readAt node root = none then .goesOn (.opening node frames ips)
        else .goesOn (.taking node frames ips)
  | .taking node frames ips => .goesOn (.opening node frames (ips ++ [readAt node root]))
  | .opening node frames ips =>
      .goesOn (.turning (⟨node, (labels root node).length, 0⟩ :: frames) ips)
  | .turning [] ips => .returned ips
  | .turning (frame :: rest) ips =>
      if (labels root frame.path).length = frame.size then
        match (labels root frame.path)[frame.next]? with
        | some part =>
            .goesOn (.asking (frame.path ++ [part])
              ({ frame with next := frame.next + 1 } :: rest) ips)
        | none => .goesOn (.turning rest ips)
      else .raised

namespace System

def initial : System Addr := ⟨blank, none, .empty, [], [], []⟩

def insertStep (system : System Addr) (call : InsertCall Addr) : System Addr :=
  match insertTurn system.root call.ip call.point with
  | (root, .goesOn point) =>
      { system with root := root, inserting := some { call with point := point } }
  | (root, .returned _) =>
      { system with
        root := root, inserting := none, history := system.history ++ [(call.domain, call.ip)] }
  | (root, .raised) => { system with root := root, inserting := none }

def collectStep (system : System Addr) (id : Nat) (call : CollectCall Addr) : System Addr :=
  match collectTurn system.root call.point with
  | .goesOn point => { system with collects := system.collects.set id { call with point := point } }
  | .returned ips =>
      { system with
        collects := system.collects.pop id
        answers := system.answers ++ [⟨call.domain, call.since, system.history.length, ips⟩] }
  | .raised =>
      { system with
        collects := system.collects.pop id
        failures := system.failures ++
          [⟨call.domain, call.since, system.history.length, system.inserting.map InsertCall.domain⟩]
            }

/-- An insert waits for the lock; a query waits for nothing. -/
def step (system : System Addr) : Action Addr → Option (System Addr)
  | .insert domain ip =>
      if system.inserting.isNone then
        some { system with inserting := some ⟨domain, ip, .testing [] (rsplitGenerator domain)⟩ }
      else none
  | .insertOn => system.inserting.map system.insertStep
  | .collect id domain =>
      if system.collects.get id |>.isNone then
        let point := CollectPoint.testing [] (rsplitGenerator domain)
        some { system with collects :=
          system.collects.set id ⟨domain, system.history.length, point⟩ }
      else none
  | .collectOn id => (system.collects.get id).map (system.collectStep id)

end System

end Code

end Dockermock.Dns.SharedTree
