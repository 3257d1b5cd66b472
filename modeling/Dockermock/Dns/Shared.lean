import Dockermock.Library.Dict
import Dockermock.Library.Registers
import Dockermock.Library.Transition
import Dockermock.Dns.SubnetTrie

/-!
The trie as the threads of the server share it. POST /subnet and the DNS server
take no lock, so that every reading and every assignment of `insert` and `find`
is a step of its own, in any order with those of the other calls. Node objects
are numbered as they are made; the root is the first.
-/

namespace Dockermock.Dns.Shared

open Library Network

variable {Name : Type}

section Memory

structure Cell (Name : Type) where
  zero : Option Nat
  one : Option Nat
  networkName : Option Name

def Cell.blank : Cell Name := ⟨none, none, none⟩

def Cell.child : Cell Name → Bool → Option Nat
  | cell, false => cell.zero
  | cell, true => cell.one

def Cell.setChild (node : Nat) : Bool → Cell Name → Cell Name
  | false, cell => { cell with zero := some node }
  | true, cell => { cell with one := some node }

abbrev Heap (Name : Type) := List (Cell Name)

namespace Heap

def child (heap : Heap Name) (node : Nat) (bit : Bool) : Option Nat :=
  heap[node]?.bind fun cell => cell.child bit

def networkName (heap : Heap Name) (node : Nat) : Option Name := heap[node]?.bind Cell.networkName

def create (heap : Heap Name) (node : Nat) (bit : Bool) : Heap Name :=
  heap.modify node (Cell.setChild heap.length bit) ++ [.blank]

def setName (heap : Heap Name) (node : Nat) (name : Name) : Heap Name :=
  heap.modify node fun cell => { cell with networkName := some name }

theorem child_setChild (cell : Cell Name) (node : Nat) (bit probe : Bool) :
    (cell.setChild node bit).child probe = if probe = bit then some node else cell.child probe := by
  cases bit <;> cases probe <;> rfl

theorem networkName_setChild (cell : Cell Name) (node : Nat) (bit : Bool) :
    (cell.setChild node bit).networkName = cell.networkName := by
  cases bit <;> rfl

@[simp] theorem length_create (heap : Heap Name) (node : Nat) (bit : Bool) :
    (heap.create node bit).length = heap.length + 1 := by
  simp [create]

@[simp] theorem length_setName (heap : Heap Name) (node : Nat) (name : Name) :
    (heap.setName node name).length = heap.length := by
  simp [setName]

theorem child_create {heap : Heap Name} {node : Nat} (there : node < heap.length) (bit : Bool)
    (probe : Nat) (side : Bool) :
    (heap.create node bit).child probe side =
      if probe = node ∧ side = bit then some heap.length else heap.child probe side := by
  unfold child create
  by_cases old : probe < heap.length
  · rw [List.getElem?_append_left (by simpa using old), List.getElem?_modify]
    by_cases here : node = probe
    · subst here
      simp [List.getElem?_eq_getElem old, child_setChild]
    · simp [here, Ne.symm here]
  · have other : probe ≠ node := fun same => old (same ▸ there)
    rw [if_neg fun both => other both.1, List.getElem?_eq_none (Nat.le_of_not_lt old)]
    rw [List.getElem?_append_right (by simpa using Nat.le_of_not_lt old), List.length_modify]
    rcases probe - heap.length with _ | _
    · cases side <;> rfl
    · rfl

@[simp] theorem networkName_create (heap : Heap Name) (node : Nat) (bit : Bool) (probe : Nat) :
    (heap.create node bit).networkName probe = heap.networkName probe := by
  unfold networkName create
  by_cases old : probe < heap.length
  · rw [List.getElem?_append_left (by simpa using old), List.getElem?_modify]
    by_cases here : node = probe
    · subst here
      simp [List.getElem?_eq_getElem old, networkName_setChild]
    · simp [here]
  · rw [List.getElem?_eq_none (Nat.le_of_not_lt old)]
    rw [List.getElem?_append_right (by simpa using Nat.le_of_not_lt old), List.length_modify]
    rcases probe - heap.length with _ | _ <;> rfl

@[simp] theorem child_setName (heap : Heap Name) (node : Nat) (name : Name) (probe : Nat)
    (side : Bool) : (heap.setName node name).child probe side = heap.child probe side := by
  unfold child setName
  rw [List.getElem?_modify]
  by_cases here : node = probe
  · cases heap[probe]? with
    | none => simp
    | some cell => cases side <;> simp [here, Cell.child]
  · simp [here]

theorem networkName_setName {heap : Heap Name} {node : Nat} (there : node < heap.length)
    (name : Name) (probe : Nat) :
    (heap.setName node name).networkName probe = if probe = node then some name
        else heap.networkName probe := by
  unfold networkName setName
  rw [List.getElem?_modify]
  by_cases here : node = probe
  · subst here
    simp [List.getElem?_eq_getElem there]
  · simp [here, Ne.symm here]

end Heap

end Memory

section Code

/-- Where an insert is: in front of the test of the loop, of the assignment of a new node, or of
`node = node.children[bit]`. -/
inductive InsertPoint where
  | testing (node : Nat) (bits : List Bool)
  | creating (node : Nat) (bit : Bool) (rest : List Bool)
  | descending (node : Nat) (bit : Bool) (rest : List Bool)

/-- A find asks twice for the name of the node it comes to, to test it and to take it. -/
inductive FindPoint (Name : Type) where
  | testing (node : Nat) (bits : List Bool) (lastFound : Option Name)
  | descending (node : Nat) (bit : Bool) (rest : List Bool) (lastFound : Option Name)
  | naming (node : Nat) (rest : List Bool) (lastFound : Option Name)
  | taking (node : Nat) (rest : List Bool) (lastFound : Option Name)

inductive Turn (Point Result : Type) where
  | goesOn (point : Point)
  | returned (result : Result)
  | raised

structure InsertCall (Name : Type) where
  networkName : Name
  subnet : IPv4Network
  point : InsertPoint

/-- `since` is the number of inserts that had returned when the call began. -/
structure FindCall (Name : Type) where
  ip : IPv4Address
  since : Nat
  point : FindPoint Name

structure Answer (Name : Type) where
  ip : IPv4Address
  since : Nat
  upTo : Nat
  found : Option Name

/-- The history of the inserts that have returned and the times of the finds serve the properties
only. -/
structure System (Name : Type) where
  heap : Heap Name
  inserts : Dict Nat (InsertCall Name)
  finds : Dict Nat (FindCall Name)
  history : List (Name × IPv4Network)
  answers : List (Answer Name)

inductive Action (Name : Type) where
  | insert (call : Nat) (networkName : Name) (subnet : IPv4Network)
  | insertOn (call : Nat)
  | find (call : Nat) (ip : IPv4Address)
  | findOn (call : Nat)

def insertTurn (heap : Heap Name) (networkName : Name) :
    InsertPoint → Heap Name × Turn InsertPoint Unit
  | .testing node [] => (heap.setName node networkName, .returned ())
  | .testing node (bit :: rest) =>
      if heap.child node bit = none then (heap, .goesOn (.creating node bit rest))
      else (heap, .goesOn (.descending node bit rest))
  | .creating node bit rest => (heap.create node bit, .goesOn (.descending node bit rest))
  | .descending node bit rest =>
      match heap.child node bit with
      | some next => (heap, .goesOn (.testing next rest))
      | none => (heap, .raised)

def findTurn (heap : Heap Name) : FindPoint Name → Turn (FindPoint Name) (Option Name)
  | .testing _ [] lastFound => .returned lastFound
  | .testing node (bit :: rest) lastFound =>
      if heap.child node bit = none then .returned lastFound
        else .goesOn (.descending node bit rest lastFound)
  | .descending node bit rest lastFound =>
      match heap.child node bit with
      | some next => .goesOn (.naming next rest lastFound)
      | none => .raised
  | .naming node rest lastFound =>
      if heap.networkName node = none then .goesOn (.testing node rest lastFound)
      else .goesOn (.taking node rest lastFound)
  | .taking node rest _ => .goesOn (.testing node rest (heap.networkName node))

namespace System

def initial : System Name := ⟨[.blank], .empty, .empty, [], []⟩

def insertStep (system : System Name) (id : Nat) (call : InsertCall Name) : System Name :=
  match insertTurn system.heap call.networkName call.point with
  | (heap, .goesOn point) =>
      { system with heap := heap, inserts := system.inserts.set id { call with point := point } }
  | (heap, .returned _) =>
      { system with
        heap := heap
        inserts := system.inserts.pop id
        history := system.history ++ [(call.networkName, call.subnet)] }
  | (heap, .raised) => { system with heap := heap, inserts := system.inserts.pop id }

def findStep (system : System Name) (id : Nat) (call : FindCall Name) : System Name :=
  match findTurn system.heap call.point with
  | .goesOn point => { system with finds := system.finds.set id { call with point := point } }
  | .returned found =>
      { system with
        finds := system.finds.pop id
        answers := system.answers ++ [⟨call.ip, call.since, system.history.length, found⟩] }
  | .raised => { system with finds := system.finds.pop id }

def step (system : System Name) : Action Name → Option (System Name)
  | .insert id networkName subnet =>
      let point := InsertPoint.testing 0 (bitsOf subnet.networkAddress subnet.prefixlen)
      if system.inserts.get id = none then
        some { system with inserts := system.inserts.set id ⟨networkName, subnet, point⟩ }
      else none
  | .insertOn id => (system.inserts.get id).map (system.insertStep id)
  | .find id ip =>
      let point := FindPoint.testing 0 (bitsOf ip.value 32) none
      if system.finds.get id = none then
        some { system with finds := system.finds.set id ⟨ip, system.history.length, point⟩ }
      else none
  | .findOn id => (system.finds.get id).map (system.findStep id)

end System

end Code

section Placement

open SubnetTrie (networkPath networkPath_length networkPath_iff_contains)

def InsertPoint.node : InsertPoint → Nat
  | .testing node _ => node
  | .creating node _ _ => node
  | .descending node _ _ => node

def InsertPoint.ahead : InsertPoint → List Bool
  | .testing _ bits => bits
  | .creating _ bit rest => bit :: rest
  | .descending _ bit rest => bit :: rest

def FindPoint.node : FindPoint Name → Nat
  | .testing node _ _ => node
  | .descending node _ _ _ => node
  | .naming node _ _ => node
  | .taking node _ _ => node

def FindPoint.ahead : FindPoint Name → List Bool
  | .testing _ bits _ => bits
  | .descending _ bit rest _ => bit :: rest
  | .naming _ rest _ => rest
  | .taking _ rest _ => rest

def FindPoint.lastFound : FindPoint Name → Option Name
  | .testing _ _ lastFound => lastFound
  | .descending _ _ _ lastFound => lastFound
  | .naming _ _ lastFound => lastFound
  | .taking _ _ lastFound => lastFound

/-- A name was inserted for a network with the address. -/
def Vouched (history : List (Name × IPv4Network)) (ip : IPv4Address) (found : Option Name) : Prop :=
  ∀ name, found = some name → ∃ net, (name, net) ∈ history ∧ net.Contains ip.value

theorem Vouched.later {history : List (Name × IPv4Network)} {ip : IPv4Address} {found : Option Name}
    (vouched : Vouched history ip found) (entry : Name × IPv4Network) :
    Vouched (history ++ [entry]) ip found := by
  intro name same
  rcases vouched name same with ⟨net, member, contains⟩
  exact ⟨net, List.mem_append_left _ member, contains⟩

/-- Every node object has a place in the trie for good, even one that is no longer below the root,
and every call is at the node that its address has at that place. -/
structure Placed (place : Nat → List Bool) (system : System Name) : Prop where
  root : 0 < system.heap.length ∧ place 0 = []
  edges : ∀ node bit next, system.heap.child node bit = some next →
    next < system.heap.length ∧ place next = place node ++ [bit]
  names : ∀ node name, system.heap.networkName node = some name →
    ∃ net, (name, net) ∈ system.history ∧ networkPath net = place node
  inserts : ∀ id call, system.inserts.get id = some call →
    call.point.node < system.heap.length ∧
      place call.point.node ++ call.point.ahead = networkPath call.subnet
  finds : ∀ id call, system.finds.get id = some call →
    call.point.node < system.heap.length ∧
      place call.point.node ++ call.point.ahead = bitsOf call.ip.value 32 ∧
      Vouched system.history call.ip call.point.lastFound
  answers : ∀ answer ∈ system.answers, answer.upTo ≤ system.history.length ∧
    Vouched (system.history.take answer.upTo) answer.ip answer.found

theorem initial_placed : Placed (fun _ => []) (System.initial : System Name) where
  root := ⟨Nat.one_pos, rfl⟩
  edges := by
    intro node bit next held
    rcases node with _ | _ <;> cases bit <;> cases held
  names := by
    intro node name held
    rcases node with _ | _ <;> cases held
  inserts := nofun
  finds := nofun
  answers := nofun

variable {place : Nat → List Bool} {system : System Name} {id : Nat}

theorem Placed.insertOn (placed : Placed place system) {call : InsertCall Name}
    (there : call.point.node < system.heap.length)
    (path : place call.point.node ++ call.point.ahead = networkPath call.subnet) :
    Placed place { system with inserts := system.inserts.set id call } := by
  refine { placed with inserts := fun other held look => ?_ }
  rw [Dict.get_set] at look
  split_ifs at look
  · cases look
    exact ⟨there, path⟩
  · exact placed.inserts other held look

theorem Placed.insertGone (placed : Placed place system) :
    Placed place { system with inserts := system.inserts.pop id } := by
  refine { placed with inserts := fun other held look => ?_ }
  rw [Dict.get_pop] at look
  split_ifs at look
  exact placed.inserts other held look

theorem Placed.findOn (placed : Placed place system) {call : FindCall Name}
    (there : call.point.node < system.heap.length)
    (path : place call.point.node ++ call.point.ahead = bitsOf call.ip.value 32)
    (vouched : Vouched system.history call.ip call.point.lastFound) :
    Placed place { system with finds := system.finds.set id call } := by
  refine { placed with finds := fun other held look => ?_ }
  rw [Dict.get_set] at look
  split_ifs at look
  · cases look
    exact ⟨there, path, vouched⟩
  · exact placed.finds other held look

theorem Placed.findGone (placed : Placed place system) :
    Placed place { system with finds := system.finds.pop id } := by
  refine { placed with finds := fun other held look => ?_ }
  rw [Dict.get_pop] at look
  split_ifs at look
  exact placed.finds other held look

theorem Placed.answered (placed : Placed place system) {ip : IPv4Address} (since : Nat)
    {found : Option Name} (vouched : Vouched system.history ip found) :
    Placed place { system with answers :=
      system.answers ++ [⟨ip, since, system.history.length, found⟩] } := by
  refine { placed with answers :=
    List.forall_mem_append.mpr ⟨placed.answers, List.forall_mem_singleton.mpr ?_⟩ }
  exact ⟨Nat.le_refl _, by rwa [List.take_length]⟩

theorem Placed.create (placed : Placed place system) {node : Nat}
    (there : node < system.heap.length) (bit : Bool) :
    Placed (Function.update place system.heap.length (place node ++ [bit]))
      { system with heap := system.heap.create node bit } := by
  have old : ∀ other < system.heap.length,
      Function.update place system.heap.length (place node ++ [bit]) other = place other :=
    fun other below => Function.update_of_ne (Nat.ne_of_lt below) _ _
  -- the new object has neither a name nor children
  have unnamed : ∀ other name, system.heap.networkName other = some name →
      other < system.heap.length := by
    intro other name held
    by_contra outside
    rw [Heap.networkName, List.getElem?_eq_none (Nat.le_of_not_lt outside)] at held
    cases held
  have childless : ∀ other side next, system.heap.child other side = some next →
      other < system.heap.length := by
    intro other side next held
    by_contra outside
    rw [Heap.child, List.getElem?_eq_none (Nat.le_of_not_lt outside)] at held
    cases held
  constructor
  case root => exact ⟨by simp, (old 0 placed.root.1).trans placed.root.2⟩
  case edges =>
    intro probe side next held
    simp only [Heap.length_create]
    rw [Heap.child_create there] at held
    split_ifs at held with here
    · cases held
      rcases here with ⟨rfl, rfl⟩
      exact ⟨Nat.lt_succ_self _, by rw [Function.update_self, old probe there]⟩
    · rcases placed.edges probe side next held with ⟨below, path⟩
      exact ⟨Nat.lt_succ_of_lt below, by
        rw [old next below, old probe (childless probe side next held), path]⟩
  case names =>
    intro probe name held
    rw [Heap.networkName_create] at held
    rw [old probe (unnamed probe name held)]
    exact placed.names probe name held
  case inserts =>
    intro other call held
    rcases placed.inserts other call held with ⟨below, path⟩
    exact ⟨by simpa using Nat.lt_succ_of_lt below, by rw [old _ below, path]⟩
  case finds =>
    intro other call held
    rcases placed.finds other call held with ⟨below, path, vouched⟩
    exact ⟨by simpa using Nat.lt_succ_of_lt below, by rw [old _ below, path], vouched⟩
  case answers => exact placed.answers

theorem Placed.setName (placed : Placed place system) {node : Nat}
    (there : node < system.heap.length) (name : Name) {net : IPv4Network}
    (path : place node = networkPath net) :
    Placed place { system with
      heap := system.heap.setName node name, history := system.history ++ [(name, net)] } := by
  constructor
  case root => simpa using placed.root
  case edges => simpa using placed.edges
  case names =>
    intro probe held look
    rw [Heap.networkName_setName there] at look
    split_ifs at look with here
    · cases look
      exact ⟨net, List.mem_append_right _ List.mem_cons_self, by rw [here, path]⟩
    · rcases placed.names probe held look with ⟨other, member, same⟩
      exact ⟨other, List.mem_append_left _ member, same⟩
  case inserts => simpa using placed.inserts
  case finds =>
    intro other call held
    rcases placed.finds other call held with ⟨below, ahead, vouched⟩
    exact ⟨by simpa using below, ahead, vouched.later _⟩
  case answers =>
    intro answer member
    rcases placed.answers answer member with ⟨before, vouched⟩
    refine ⟨by simpa using Nat.le_succ_of_le before, ?_⟩
    rwa [List.take_append_of_le_length before]

theorem Placed.insertStep (placed : Placed place system) {call : InsertCall Name}
    (held : system.inserts.get id = some call) :
    ∃ place, Placed place (system.insertStep id call) := by
  rcases placed.inserts id call held with ⟨there, path⟩
  rcases call with ⟨networkName, subnet, point⟩
  cases point with
  | testing node bits =>
      cases bits with
      | nil =>
          have ended : place node = networkPath subnet := by
            simpa [InsertPoint.node, InsertPoint.ahead] using path
          exact ⟨place, (placed.setName there networkName ended).insertGone⟩
      | cons bit rest =>
          by_cases absent : system.heap.child node bit = none
          · refine ⟨place, ?_⟩
            simp only [System.insertStep, insertTurn, if_pos absent]
            exact placed.insertOn there path
          · refine ⟨place, ?_⟩
            simp only [System.insertStep, insertTurn, if_neg absent]
            exact placed.insertOn there path
  | creating node bit rest =>
      have made := placed.create there bit
      refine ⟨_, made.insertOn ?_ ?_⟩
      · simpa [InsertPoint.node] using Nat.lt_succ_of_lt there
      · exact (made.inserts id _ held).2
  | descending node bit rest =>
      cases found : system.heap.child node bit with
      | none =>
          refine ⟨place, ?_⟩
          simp only [System.insertStep, insertTurn, found]
          exact placed.insertGone
      | some next =>
          rcases placed.edges node bit next found with ⟨below, behind⟩
          refine ⟨place, ?_⟩
          simp only [System.insertStep, insertTurn, found]
          refine placed.insertOn below ?_
          rw [InsertPoint.node, InsertPoint.ahead, behind, List.append_assoc]
          exact path

/-- The name of a node on the way to an address was inserted for a network with the address. -/
theorem Placed.vouched (placed : Placed place system) {ip : IPv4Address} {node : Nat}
    {rest : List Bool} (path : place node ++ rest = bitsOf ip.value 32) :
    Vouched system.history ip (system.heap.networkName node) := by
  intro name held
  rcases placed.names node name held with ⟨net, member, same⟩
  refine ⟨net, member, (networkPath_iff_contains net ip).mp ?_⟩
  have length := networkPath_length net
  rw [← bitsOf_take ip.value net.prefixlen 32 net.prefix_le, ← path, ← same, ← length,
    List.take_left]

theorem Placed.findStep (placed : Placed place system) {call : FindCall Name}
    (held : system.finds.get id = some call) : Placed place (system.findStep id call) := by
  rcases placed.finds id call held with ⟨there, path, vouched⟩
  rcases call with ⟨ip, since, point⟩
  cases point with
  | testing node bits lastFound =>
      cases bits with
      | nil => exact (placed.answered since vouched).findGone
      | cons bit rest =>
          by_cases absent : system.heap.child node bit = none
          · simp only [System.findStep, findTurn, if_pos absent]
            exact (placed.answered since vouched).findGone
          · simp only [System.findStep, findTurn, if_neg absent]
            exact placed.findOn there path vouched
  | descending node bit rest lastFound =>
      cases found : system.heap.child node bit with
      | none =>
          simp only [System.findStep, findTurn, found]
          exact placed.findGone
      | some next =>
          rcases placed.edges node bit next found with ⟨below, behind⟩
          simp only [System.findStep, findTurn, found]
          refine placed.findOn below ?_ vouched
          rw [FindPoint.node, FindPoint.ahead, behind, List.append_assoc]
          exact path
  | naming node rest lastFound =>
      by_cases unnamed : system.heap.networkName node = none
      · simp only [System.findStep, findTurn, if_pos unnamed]
        exact placed.findOn there path vouched
      · simp only [System.findStep, findTurn, if_neg unnamed]
        exact placed.findOn there path vouched
  | taking node rest lastFound => exact placed.findOn there path (placed.vouched path)

theorem step_placed {after : System Name} {action : Action Name} (placed : Placed place system)
    (stepped : system.step action = some after) : ∃ place, Placed place after := by
  cases action with
  | insert id networkName subnet =>
      rw [System.step, Option.ite_none_right_eq_some] at stepped
      cases stepped.2
      exact ⟨place, placed.insertOn placed.root.1 (by rw [InsertPoint.node, placed.root.2]; rfl)⟩
  | insertOn id =>
      rcases Option.map_eq_some_iff.mp stepped with ⟨call, held, rfl⟩
      exact placed.insertStep held
  | find id ip =>
      rw [System.step, Option.ite_none_right_eq_some] at stepped
      cases stepped.2
      exact ⟨place, placed.findOn placed.root.1 (by rw [FindPoint.node, placed.root.2]; rfl) nofun⟩
  | findOn id =>
      rcases Option.map_eq_some_iff.mp stepped with ⟨call, held, rfl⟩
      exact ⟨place, placed.findStep held⟩

/-- However the readings and assignments of inserts and finds mix, and even where an insert
loses its nodes to another: a find names no network that its address is not in. -/
theorem found_contains {actions : List (Action Name)} {after : System Name}
    (run : Run System.step anyAction System.initial actions after) (answer : Answer Name)
    (returned : answer ∈ after.answers) (name : Name) (found : answer.found = some name) :
    ∃ net, (name, net) ∈ after.history.take answer.upTo ∧ net.Contains answer.ip.value := by
  have placed : ∃ place, Placed place after := by
    apply run_invariant (fun system => ∃ place, Placed place system) _ run ⟨_, initial_placed⟩
    rintro before action next ⟨place, placed⟩ _ stepped
    exact step_placed placed stepped
  rcases placed with ⟨place, placed⟩
  exact (placed.answers answer returned).2 name found

end Placement

end Dockermock.Dns.Shared
