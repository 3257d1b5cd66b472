import Mathlib.Data.Nat.Find
import Mathlib.Data.List.Induction
import Dockermock.Library.History
import Dockermock.Network.Ipv4

/-!
The binary trie of app2/dns/SubnetTrie.py. A node keeps two child slots and the
name of a network that ends there. `insertAt` and `findFrom` are the two loops
over bit indices; `node_count` is kept as the source keeps it, by one for each
node created on the way. Names are any type without a `None` of its own.
-/

namespace Dockermock.Dns

open Library Network

/-- `(ip_int >> (31 - bit_index)) & 1`, as an index into the two children. -/
def getBit (ipInt bitIndex : Nat) : Bool := (ipInt >>> (31 - bitIndex)) &&& 1 == 1

/-- The bits read by `for bit_index in range(count)`. -/
def bitsOf (ipInt count : Nat) : List Bool := (List.range count).map (getBit ipInt)

theorem getBit_testBit (ipInt bitIndex : Nat) :
    getBit ipInt bitIndex = ipInt.testBit (31 - bitIndex) := by
  rw [getBit, Nat.testBit_eq_decide_div_mod_eq, Nat.and_one_is_mod, Nat.shiftRight_eq_div_pow]
  rfl

theorem bits_eq_iff_div (left right count : Nat) (inside : count ≤ 32)
    (leftBound : left < 2 ^ 32) (rightBound : right < 2 ^ 32) :
    bitsOf left count = bitsOf right count ↔
        left / 2 ^ (32 - count) = right / 2 ^ (32 - count) := by
  simp only [bitsOf, List.map_inj_left, List.mem_range, getBit_testBit]
  constructor
  · intro agree
    apply Nat.eq_of_testBit_eq
    intro position
    rw [Nat.testBit_div_two_pow, Nat.testBit_div_two_pow]
    by_cases low : position < count
    · have bit := agree (count - 1 - position) (by omega)
      have index : 31 - (count - 1 - position) = position + (32 - count) := by omega
      rwa [index] at bit
    · have high : 2 ^ 32 ≤ 2 ^ (position + (32 - count)) :=
        Nat.pow_le_pow_right (by decide) (by omega)
      rw [Nat.testBit_lt_two_pow (Nat.lt_of_lt_of_le leftBound high),
        Nat.testBit_lt_two_pow (Nat.lt_of_lt_of_le rightBound high)]
  · intro equal index bound
    have bit := congrArg (fun value => Nat.testBit value (count - 1 - index)) equal
    simp only [Nat.testBit_div_two_pow] at bit
    have position : count - 1 - index + (32 - count) = 31 - index := by omega
    rwa [position] at bit

theorem bitsOf_length (ipInt count : Nat) : (bitsOf ipInt count).length = count := by
  simp [bitsOf]

theorem bitsOf_take (ipInt count wide : Nat) (inside : count ≤ wide) :
    (bitsOf ipInt wide).take count = bitsOf ipInt count := by
  rw [bitsOf, ← List.map_take, List.take_range, Nat.min_eq_left inside, bitsOf]

inductive TrieNode (Name : Type) where
  | mk (zero one : Option (TrieNode Name)) (networkName : Option Name)

variable {Name : Type}

namespace TrieNode

def blank : TrieNode Name := .mk none none none

def networkName : TrieNode Name → Option Name
  | .mk _ _ networkName => networkName

def child : TrieNode Name → Bool → Option (TrieNode Name)
  | .mk zero _ _, false => zero
  | .mk _ one _, true => one

def setChild : TrieNode Name → Bool → TrieNode Name → TrieNode Name
  | .mk _ one name, false, below => .mk (some below) one name
  | .mk zero _ name, true, below => .mk zero (some below) name

def setName : TrieNode Name → Name → TrieNode Name
  | .mk zero one _, name => .mk zero one (some name)

@[simp] theorem networkName_setChild (node below : TrieNode Name) (bit : Bool) :
    (node.setChild bit below).networkName = node.networkName := by
  cases node; cases bit <;> rfl

@[simp] theorem networkName_setName (node : TrieNode Name) (name : Name) :
    (node.setName name).networkName = some name := by
  cases node; rfl

@[simp] theorem child_setName (node : TrieNode Name) (name : Name) (bit : Bool) :
    (node.setName name).child bit = node.child bit := by
  cases node; cases bit <;> rfl

theorem child_setChild (node below : TrieNode Name) (bit probe : Bool) :
    (node.setChild bit below).child probe = if probe = bit then some below
        else node.child probe := by
  cases node; cases bit <;> cases probe <;> rfl

/-- The loop of `insert`: the node it returns and how many nodes it created. -/
def insertAt : List Bool → Name → TrieNode Name → TrieNode Name × Nat
  | [], name, node => (node.setName name, 0)
  | bit :: rest, name, node =>
      match node.child bit with
      | none =>
          let below := insertAt rest name blank
          (node.setChild bit below.1, below.2 + 1)
      | some next =>
          let below := insertAt rest name next
          (node.setChild bit below.1, below.2)

/-- The loop of `find`, with `last_found` as its accumulator. -/
def findFrom : List Bool → TrieNode Name → Option Name → Option Name
  | [], _, lastFound => lastFound
  | bit :: rest, node, lastFound =>
      match node.child bit with
      | none => lastFound
      | some next =>
          findFrom rest next (match next.networkName with
            | some name => some name
            | none => lastFound)

def nameAt : List Bool → TrieNode Name → Option Name
  | [], node => node.networkName
  | bit :: rest, node => (node.child bit).bind (nameAt rest)

theorem nameAt_blank (path : List Bool) : nameAt path (blank : TrieNode Name) = none := by
  cases path with
  | nil => rfl
  | cons bit rest => cases bit <;> rfl

/-- An insert writes its name at its own path. The nodes it creates on the way
have no name, so no other path reads differently. -/
theorem nameAt_insertAt (path probe : List Bool) (name : Name) (node : TrieNode Name) :
    nameAt probe (insertAt path name node).1 =
      if probe = path then some name else nameAt probe node := by
  induction path generalizing probe node with
  | nil =>
      cases probe with
      | nil => simp [insertAt, nameAt]
      | cons bit rest => simp [insertAt, nameAt]
  | cons bit path ih =>
      rw [insertAt]
      cases held : node.child bit with
      | none =>
          cases probe with
          | nil => simp [nameAt]
          | cons first rest =>
              by_cases here : first = bit
              · subst here
                simp [nameAt, child_setChild, ih, held, nameAt_blank]
              · simp [nameAt, child_setChild, here]
      | some next =>
          cases probe with
          | nil => simp [nameAt]
          | cons first rest =>
              by_cases here : first = bit
              · subst here
                simp [nameAt, child_setChild, ih, held]
              · simp [nameAt, child_setChild, here]

theorem findFrom_nothing (bits : List Bool) (node : TrieNode Name) (lastFound : Option Name)
    (unnamed : ∀ depth < bits.length, nameAt (bits.take (depth + 1)) node = none) :
    findFrom bits node lastFound = lastFound := by
  induction bits generalizing node lastFound with
  | nil => rfl
  | cons bit rest ih =>
      rw [findFrom]
      cases held : node.child bit with
      | none => rfl
      | some next =>
          have here : next.networkName = none := by
            have first := unnamed 0 (by simp)
            simpa [nameAt, held] using first
          simp only [here]
          apply ih
          intro depth inside
          have deeper := unnamed (depth + 1) (by simpa using inside)
          simpa [nameAt, held] using deeper

/-- The name that stays is the one deepest on the path. The early `break` loses
nothing: below a missing child every longer path reads `none`. -/
theorem findFrom_deepest (bits : List Bool) (node : TrieNode Name) (lastFound : Option Name)
    (name : Name) (depth : Nat) (inside : depth < bits.length)
    (named : nameAt (bits.take (depth + 1)) node = some name)
    (deepest : ∀ deeper, depth < deeper → deeper < bits.length →
      nameAt (bits.take (deeper + 1)) node = none) :
    findFrom bits node lastFound = some name := by
  induction bits generalizing node lastFound depth with
  | nil => simp at inside
  | cons bit rest ih =>
      rw [findFrom]
      cases held : node.child bit with
      | none => simp [nameAt, held] at named
      | some next =>
          have below : ∀ deeper, depth < deeper + 1 → deeper < rest.length →
              nameAt (rest.take (deeper + 1)) next = none := by
            intro deeper after bound
            have silent := deepest (deeper + 1) after (by simpa using bound)
            simpa [nameAt, held] using silent
          cases depth with
          | zero =>
              have here : next.networkName = some name := by simpa [nameAt, held] using named
              simp only [here]
              exact findFrom_nothing rest next _ fun deeper bound => below deeper (by omega) bound
          | succ depth =>
              have stored : nameAt (rest.take (depth + 1)) next = some name := by
                simpa [nameAt, held] using named
              exact ih next _ depth (by simpa using inside) stored
                fun deeper after bound => below deeper (by omega) bound

def size : TrieNode Name → Nat
  | .mk zero one _ =>
      1 + (match zero with | none => 0 | some node => node.size) +
        (match one with | none => 0 | some node => node.size)

def slotSize : Option (TrieNode Name) → Nat
  | none => 0
  | some node => node.size

theorem size_mk (zero one : Option (TrieNode Name)) (name : Option Name) :
    (TrieNode.mk zero one name).size = 1 + slotSize zero + slotSize one := by
  cases zero <;> cases one <;> rfl

theorem size_setChild (node below : TrieNode Name) (bit : Bool) :
    (node.setChild bit below).size + slotSize (node.child bit) = node.size + below.size := by
  cases node
  cases bit <;> simp only [setChild, child, size_mk, slotSize] <;> omega

theorem size_insertAt (path : List Bool) (name : Name) (node : TrieNode Name) :
    (insertAt path name node).1.size = node.size + (insertAt path name node).2 := by
  induction path generalizing node with
  | nil => cases node; simp [insertAt, setName, size_mk]
  | cons bit rest ih =>
      rw [insertAt]
      cases held : node.child bit with
      | none =>
          have balance := size_setChild node (insertAt rest name blank).1 bit
          have grown := ih blank
          have one : (blank : TrieNode Name).size = 1 := rfl
          simp only [held, slotSize] at balance ⊢
          omega
      | some next =>
          have balance := size_setChild node (insertAt rest name next).1 bit
          have grown := ih next
          simp only [held, slotSize] at balance ⊢
          omega

end TrieNode

open TrieNode

/-- `node_count` is a field of its own in the source; it counts the nodes. -/
structure SubnetTrie (Name : Type) where
  root : TrieNode Name
  nodeCount : Nat
  counted : nodeCount = root.size

namespace SubnetTrie

def empty : SubnetTrie Name := ⟨blank, 1, rfl⟩

def insert (trie : SubnetTrie Name) (networkName : Name) (subnet : IPv4Network) : SubnetTrie Name :=
  let path := bitsOf subnet.networkAddress subnet.prefixlen
  let walked := insertAt path networkName trie.root
  ⟨walked.1, trie.nodeCount + walked.2, by rw [trie.counted, ← size_insertAt]⟩

def find (trie : SubnetTrie Name) (ip : IPv4Address) : Option Name :=
  findFrom (bitsOf ip.value 32) trie.root none

def insertAll (history : List (Name × IPv4Network)) : SubnetTrie Name :=
  history.foldl (fun trie entry => trie.insert entry.1 entry.2) empty

def byNetwork (history : List (Name × IPv4Network)) : List (IPv4Network × Name) :=
  history.map fun entry => (entry.2, entry.1)

/-- `net` is an inserted network that contains the address, and no inserted
network that contains it has a longer prefix. -/
def LongestMatch (history : List (Name × IPv4Network)) (ip : IPv4Address) (net : IPv4Network) :
    Prop :=
  net ∈ history.map Prod.snd ∧ net.Contains ip.value ∧
    ∀ other ∈ history.map Prod.snd, other.Contains ip.value → other.prefixlen ≤ net.prefixlen

def networkPath (net : IPv4Network) : List Bool := bitsOf net.networkAddress net.prefixlen

theorem networkPath_length (net : IPv4Network) : (networkPath net).length = net.prefixlen :=
  bitsOf_length _ _

/-- A network contains an address exactly when its path is a prefix of the
address's bits. -/
theorem networkPath_iff_contains (net : IPv4Network) (ip : IPv4Address) :
    networkPath net = bitsOf ip.value net.prefixlen ↔ net.Contains ip.value := by
  rw [networkPath, bits_eq_iff_div _ _ _ net.prefix_le net.address_lt ip.bound,
    net.contains_iff_div, eq_comm]
  rfl

theorem networkPath_injective (left right : IPv4Network)
    (same : networkPath left = networkPath right) : left = right := by
  have lengths := congrArg List.length same
  rw [networkPath_length, networkPath_length] at lengths
  obtain ⟨leftAddress, leftPrefix, leftLe, leftLt, leftAligned⟩ := left
  obtain ⟨rightAddress, rightPrefix, rightLe, rightLt, rightAligned⟩ := right
  simp only at lengths
  subst lengths
  have quotients := (bits_eq_iff_div _ _ _ leftLe leftLt rightLt).mp same
  have addresses : leftAddress = rightAddress := by
    rw [← Nat.div_mul_cancel leftAligned, quotients, Nat.div_mul_cancel rightAligned]
  subst addresses
  rfl

theorem nameAt_insertAll (history : List (Name × IPv4Network)) (path : List Bool) :
    nameAt path (insertAll history).root =
      latest (history.map fun entry => (networkPath entry.2, entry.1)) path :=
  replay_reads_latest (fun trie path => nameAt path trie.root)
    (fun trie entry => trie.insert entry.1 entry.2)
    (fun entry => (networkPath entry.2, entry.1)) empty nameAt_blank
    (fun trie entry probe => nameAt_insertAt (networkPath entry.2) probe entry.1 trie.root) history
      path

theorem nameAt_network (history : List (Name × IPv4Network)) (net : IPv4Network) :
    nameAt (networkPath net) (insertAll history).root = latest (byNetwork history) net := by
  rw [nameAt_insertAll]
  have renamed := latest_rename networkPath (byNetwork history) net
    (fun written _ same => networkPath_injective written net same)
  rw [← renamed, byNetwork, List.map_map]
  rfl

theorem mem_networks_iff (history : List (Name × IPv4Network)) (net : IPv4Network) :
    net ∈ history.map Prod.snd ↔ ∃ name, latest (byNetwork history) net = some name := by
  rw [latest_isSome_iff, byNetwork, List.map_map]
  rfl

theorem named_step (history : List (Name × IPv4Network)) (ip : IPv4Address) (depth : Nat)
    (name : Name) (named : nameAt (bitsOf ip.value depth) (insertAll history).root = some name) :
    ∃ net ∈ history.map Prod.snd, net.Contains ip.value ∧ net.prefixlen = depth ∧
      latest (byNetwork history) net = some name := by
  rw [nameAt_insertAll] at named
  obtain ⟨entry, member, same⟩ := List.mem_map.mp
    ((latest_isSome_iff _ _).mp ⟨name, named⟩ : _ ∈ List.map Prod.fst _)
  obtain ⟨written, recorded, rfl⟩ := List.mem_map.mp member
  have length : written.2.prefixlen = depth := by
    rw [← networkPath_length, ← bitsOf_length ip.value depth]
    exact congrArg List.length same
  have path : networkPath written.2 = bitsOf ip.value written.2.prefixlen := by
    rw [length]
    exact same
  refine ⟨written.2, List.mem_map_of_mem recorded,
    (networkPath_iff_contains _ ip).mp path, length, ?_⟩
  rw [← nameAt_network, path, length, nameAt_insertAll]
  exact named

theorem step_of_network (history : List (Name × IPv4Network)) (ip : IPv4Address) (net : IPv4Network)
    (contains : net.Contains ip.value) :
    nameAt (bitsOf ip.value net.prefixlen) (insertAll history).root =
        latest (byNetwork history) net := by
  rw [← (networkPath_iff_contains net ip).mpr contains, nameAt_network]

/-- The lookup loop on an address, by the prefix length of a longest match. -/
theorem find_of_longest (history : List (Name × IPv4Network)) (ip : IPv4Address) (net : IPv4Network)
    (longest : LongestMatch history ip net) (positive : 1 ≤ net.prefixlen) (name : Name)
    (stored : latest (byNetwork history) net = some name) :
    (insertAll history).find ip = some name := by
  obtain ⟨_, contains, longer⟩ := longest
  have bounded := net.prefix_le
  apply findFrom_deepest _ _ _ name (net.prefixlen - 1)
  · rw [bitsOf_length]
    omega
  · rw [Nat.sub_add_cancel positive, bitsOf_take _ _ _ bounded,
      step_of_network history ip net contains, stored]
  · intro deeper after bound
    rw [bitsOf_length] at bound
    rw [bitsOf_take _ _ _ (by omega)]
    by_contra present
    obtain ⟨other, read⟩ := Option.ne_none_iff_exists'.mp present
    obtain ⟨found, member, holds, length, _⟩ := named_step history ip (deeper + 1) other read
    have shorter := longer found member holds
    omega

theorem find_none_of_root (history : List (Name × IPv4Network)) (ip : IPv4Address)
    (rootOnly : ∀ net ∈ history.map Prod.snd, net.Contains ip.value → net.prefixlen = 0) :
    (insertAll history).find ip = none := by
  apply findFrom_nothing
  intro depth bound
  rw [bitsOf_length] at bound
  rw [bitsOf_take _ _ _ (by omega)]
  by_contra present
  obtain ⟨name, read⟩ := Option.ne_none_iff_exists'.mp present
  obtain ⟨net, member, contains, length, _⟩ := named_step history ip (depth + 1) name read
  rw [rootOnly net member contains] at length
  cases length

theorem find_none_of_outside (history : List (Name × IPv4Network)) (ip : IPv4Address)
    (outside : ∀ net ∈ history.map Prod.snd, ¬ net.Contains ip.value) :
    (insertAll history).find ip = none :=
  find_none_of_root history ip fun net member contains => absurd contains (outside net member)

theorem exists_longest (history : List (Name × IPv4Network)) (ip : IPv4Address) (net : IPv4Network)
    (member : net ∈ history.map Prod.snd) (contains : net.Contains ip.value) :
    ∃ longest, LongestMatch history ip longest := by
  let Matched := fun length =>
    ∃ candidate ∈ history.map Prod.snd, candidate.Contains ip.value ∧ candidate.prefixlen = length
  classical
  have witness : Matched net.prefixlen := ⟨net, member, contains, rfl⟩
  obtain ⟨best, bestMember, bestContains, bestLength⟩ :=
    @Nat.findGreatest_spec _ Matched _ _ net.prefix_le witness
  refine ⟨best, bestMember, bestContains, fun other otherMember otherContains => ?_⟩
  rw [bestLength]
  exact Nat.le_findGreatest other.prefix_le ⟨other, otherMember, otherContains, rfl⟩

/-- `find` is longest-prefix match with the newest name, for any inserts of
networks with a nonempty prefix in any order. -/
theorem find_longest_match (history : List (Name × IPv4Network))
    (positive : ∀ entry ∈ history, 1 ≤ entry.2.prefixlen) (ip : IPv4Address) :
    (∀ name, (insertAll history).find ip = some name ↔
      ∃ net, LongestMatch history ip net ∧ latest (byNetwork history) net = some name) ∧
    ((insertAll history).find ip = none ↔ ∀ entry ∈ history, ¬ entry.2.Contains ip.value) := by
  have nonempty : ∀ net, net ∈ history.map Prod.snd → 1 ≤ net.prefixlen := by
    intro net member
    obtain ⟨entry, recorded, rfl⟩ := List.mem_map.mp member
    exact positive entry recorded
  have fromMatch : ∀ net name, LongestMatch history ip net →
    latest (byNetwork history) net = some name →
      (insertAll history).find ip = some name := fun net name longest stored =>
    find_of_longest history ip net longest (nonempty net longest.1) name stored
  by_cases outside : ∀ entry ∈ history, ¬ entry.2.Contains ip.value
  · have missed := find_none_of_outside history ip fun net member contains => by
      obtain ⟨entry, recorded, rfl⟩ := List.mem_map.mp member
      exact outside entry recorded contains
    refine ⟨fun name => ?_, iff_of_true missed outside⟩
    constructor
    · intro found
      rw [missed] at found
      cases found
    · rintro ⟨net, longest, stored⟩
      exact fromMatch net name longest stored
  -- some inserted network contains the address, so that one of them is longest
  · push Not at outside
    obtain ⟨entry, recorded, contains⟩ := outside
    obtain ⟨best, longest⟩ :=
      exists_longest history ip entry.2 (List.mem_map_of_mem recorded) contains
    obtain ⟨bestName, bestStored⟩ := (mem_networks_iff history best).mp longest.1
    have found := fromMatch best bestName longest bestStored
    constructor
    · intro name
      constructor
      · intro read
        rw [found] at read
        cases read
        exact ⟨best, longest, bestStored⟩
      · rintro ⟨net, matched, stored⟩
        exact fromMatch net name matched stored
    · refine iff_of_false (by simp [found]) ?_
      push Not
      exact ⟨entry, recorded, contains⟩

/-- 10.1.0.0/16 inside 10.0.0.0/8: the address 10.1.2.3 belongs to the inner one. -/
theorem find_nested_match :
    (insertAll
      [("inner", ⟨0x0A010000, 16, by decide, by decide, by decide⟩),
       ("outer", ⟨0x0A000000, 8, by decide, by decide, by decide⟩)]).find ⟨0x0A010203, by decide⟩ =
      some "inner" := by
  apply ((find_longest_match _ (by decide) _).1 "inner").mpr
  exact ⟨⟨0x0A010000, 16, by decide, by decide, by decide⟩,
    ⟨by decide, by decide, by decide⟩, by decide⟩

end SubnetTrie

end Dockermock.Dns
