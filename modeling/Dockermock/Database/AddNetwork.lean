import Dockermock.Network.SubnetAllocator
import Dockermock.Database.Subnets

/-!
The add_network route. It hands a prefix length to create_network, which does
not look at it; an allocator that finds nothing gives a `None` that cannot be
unpacked; and a network of one address has a list for `hosts()`, on which
`next` raises.
-/

namespace Dockermock.Database

open Library Network SubnetAllocator

structure AddNetworkRequest where
  name : String
  prefixlen : Option Nat
  subnet : Option String
  deriving DecidableEq, Repr

/-- `data.get('prefix') or 24` -/
def AddNetworkRequest.requestedPrefix (request : AddNetworkRequest) : Nat :=
  match request.prefixlen with
  | some (bits + 1) => bits + 1
  | _ => 24

section Route

variable (printable : Char → Bool) (ipv6Network : String → Option IPv6Network)

/-- The subnet argument as create_network tests it: an empty text counts as none, and any
exception of `ip_network` as invalid. -/
def subnetArgument : Option String → SubnetArgument
  | none => .absent
  | some text =>
      if text = "" then .absent
      else
        match ipNetwork ipv6Network text with
        | none => .invalid
        | some net => .parsed net

/-- add_network, with the outcome of create_network. The requested prefix length is among the
keyword arguments that create_network has no use for. -/
def addNetwork (conn : Conn) (request : AddNetworkRequest) : Outcome × Conn :=
  createNetwork printable conn (some request.name) (subnetArgument ipv6Network request.subnet) none

end Route

section Allocation

/-- A subnet of 10.0.0.0/16 that has no address in common with an allocated one. -/
structure FreeSubnet (tables : Tables) (prefixlen : Nat) (subnet : IPv4Network) : Prop where
  block : SubnetOf defaultAllocator.baseNetwork prefixlen subnet
  free : ∀ net ∈ allocatedValues tables, ¬ IpNetwork.Shares (.v4 subnet) net

theorem divides_default : Divides defaultAllocator.baseNetwork 24 := by decide

theorem baseSubnets_eq : baseSubnets = (defaultAllocator.candidates 24).map .v4 := by decide +kernel

theorem mem_baseSubnets_iff (net : IpNetwork) :
    net ∈ baseSubnets ↔ ∃ subnet, SubnetOf defaultAllocator.baseNetwork 24 subnet ∧
        .v4 subnet = net := by
  rw [baseSubnets_eq, List.mem_map]
  simp only [(candidates_spec divides_default).2.2]

theorem free_iff (tables : Tables) (candidate : IpNetwork) :
    ((allocatedValues tables).all fun net => !candidate.overlaps net) = true ↔
      ∀ net ∈ allocatedValues tables, ¬ candidate.Shares net := by
  simp only [List.all_eq_true, Bool.not_eq_true', ← Bool.not_eq_true, IpNetwork.overlaps_iff_shares]

/-- create_network's own allocation is the search of SubnetAllocator. -/
theorem allocateSubnet_eq_findAvailableSubnet (allocated : List IPv4Network) :
    some (allocateSubnet (allocated.map .v4)) =
      (defaultAllocator.findAvailableSubnet 24 allocated).map fun found => found.map .v4 := by
  rw [findAvailableSubnet_eq divides_default, Option.map_some, allocateSubnet, baseSubnets_eq,
    List.find?_map, firstFit]
  have same : ∀ candidate,
    ((allocated.map IpNetwork.v4).all fun net => !IpNetwork.overlaps (.v4 candidate) net) =
      fits IPv4Network.overlaps allocated candidate := by
    intro candidate
    rw [Bool.eq_iff_iff, fits_iff_free]
    simp only [List.all_map, List.all_eq_true, Function.comp_apply, Bool.not_eq_true',
      ← Bool.not_eq_true, IpNetwork.overlaps_iff_shares]
    rfl
  simp only [Function.comp_def, same]

theorem allocateSubnet_some {tables : Tables} {net : IpNetwork}
    (found : allocateSubnet (allocatedValues tables) = some net) :
    ∃ subnet, FreeSubnet tables 24 subnet ∧ net = .v4 subnet := by
  rw [allocateSubnet] at found
  rcases (mem_baseSubnets_iff net).mp (List.mem_of_find?_eq_some found) with ⟨subnet, block, rfl⟩
  have free := List.find?_some found
  exact ⟨subnet, ⟨block, (free_iff tables _).mp free⟩, rfl⟩

theorem allocateSubnet_none_iff (tables : Tables) :
    allocateSubnet (allocatedValues tables) = none ↔ ¬ ∃ subnet, FreeSubnet tables 24 subnet := by
  constructor
  · rintro none ⟨subnet, block, free⟩
    exact List.find?_eq_none.mp none _ ((mem_baseSubnets_iff _).mpr ⟨subnet, block, rfl⟩)
      ((free_iff tables _).mpr free)
  · intro taken
    cases found : allocateSubnet (allocatedValues tables) with
    | none => rfl
    | some net =>
        rcases allocateSubnet_some found with ⟨subnet, free, _⟩
        exact absurd ⟨subnet, free⟩ taken

end Allocation

section Requests

variable (printable : Char → Bool) (ipv6Network : String → Option IPv6Network) (conn : Conn)
  (request : AddNetworkRequest)

def Makes (net : IpNetwork) : Prop :=
  addNetwork printable ipv6Network conn request = (.returned conn.view.networks.nextId,
    (conn.write (withNetwork (withAllocated conn.view net) request.name net)).commit)

structure Answered : Prop where
  unraised : (addNetwork printable ipv6Network conn request).1 ≠ .raised
  allocated : subnetArgument ipv6Network request.subnet = .absent →
    (∃ subnet, FreeSubnet conn.view request.requestedPrefix subnet) →
      ∃ subnet, FreeSubnet conn.view request.requestedPrefix subnet ∧
        Makes printable ipv6Network conn request (.v4 subnet)
  exhausted : subnetArgument ipv6Network request.subnet = .absent →
    (¬ ∃ subnet, FreeSubnet conn.view request.requestedPrefix subnet) →
      addNetwork printable ipv6Network conn request = (.refused "No Empty Network", conn)
  given : ∀ text, request.subnet = some text → text ≠ "" →
    (∃ net, ipNetwork ipv6Network text = some net ∧ Makes printable ipv6Network conn request net) ∨
      ∃ message, (addNetwork printable ipv6Network conn request).1 = .refused message

/-- The requests that are answered: for a /24 while there is one, or with a subnet of more
than one address. -/
def Served : Prop :=
  match subnetArgument ipv6Network request.subnet with
  | .absent => request.requestedPrefix = 24 ∧ ∃ subnet, FreeSubnet conn.view 24 subnet
  | .invalid => True
  | .parsed net => net.hostIter ≠ none

variable {printable ipv6Network conn request}

theorem subnetArgument_given {text : String} (given : request.subnet = some text)
    (full : text ≠ "") : subnetArgument ipv6Network request.subnet =
      match ipNetwork ipv6Network text with
      | none => .invalid
      | some net => .parsed net := by
  rw [given, subnetArgument, if_neg full]

theorem addNetwork_eq (fresh : nameFree conn.view (some request.name) = true) :
    addNetwork printable ipv6Network conn request =
      match subnetArgument ipv6Network request.subnet with
      | .invalid => (.refused "Invalid Subnet", conn)
      | .parsed net => if net.hostIter = none then (.raised, conn)
          else insertSubnet conn (some request.name) net
      | .absent =>
          match allocateSubnet (allocatedValues conn.view) with
          | none => (.raised, conn)
          | some net => insertSubnet conn (some request.name) net := by
  have unused : conn.view.networks.select (fun row => some row.name = some request.name) = [] := by
    simp only [nameFree, Option.any_some, List.all_eq_true, decide_eq_true_eq] at fresh
    refine List.filter_eq_nil_iff.mpr fun entry member same => ?_
    exact fresh entry.2 (List.mem_map_of_mem member) (by simpa using same)
  unfold addNetwork createNetwork
  rw [if_neg (not_not.mpr unused)]
  cases subnetArgument ipv6Network request.subnet with
  | absent => rfl
  | invalid => rfl
  | parsed net => simp [firstGiven]

theorem insertSubnet_eq (fresh : nameFree conn.view (some request.name) = true) (net : IpNetwork) :
    insertSubnet conn (some request.name) net =
      if net ∈ allocatedValues conn.view then (.refused "Failed to create network", conn)
      else (.returned conn.view.networks.nextId,
        (conn.write (withNetwork (withAllocated conn.view net) request.name net)).commit) := by
  unfold insertSubnet
  by_cases listed : net ∈ allocatedValues conn.view
  · have refused : conn.view.insertAllocated net = none := by
      refine Option.eq_none_iff_forall_ne_some.mpr fun after reserved => ?_
      exact ((insertAllocated_eq_some_iff _ _ _).mp reserved).1 listed
    rw [if_pos listed, refused]
  · have reserved := (insertAllocated_eq_some_iff conn.view _ net).mpr ⟨listed, rfl⟩
    have entered : (withAllocated conn.view net).insertNetwork ⟨request.name, some net⟩ =
        some (withNetwork (withAllocated conn.view net) request.name net) :=
      (insertNetwork_eq_some_iff _ _ _ _).mpr ⟨fresh, rfl⟩
    simp only [if_neg listed, reserved, Option.bind_some, entered]

theorem FreeSubnet.unallocated {tables : Tables} {prefixlen : Nat} {subnet : IPv4Network}
    (free : FreeSubnet tables prefixlen subnet) : .v4 subnet ∉ allocatedValues tables :=
  fun listed => free.free _ listed (Shares.refl subnet)

theorem addNetwork_absent (fresh : nameFree conn.view (some request.name) = true)
    (absent : subnetArgument ipv6Network request.subnet = .absent) :
    (∃ subnet, FreeSubnet conn.view 24 subnet ∧
      Makes printable ipv6Network conn request (.v4 subnet)) ∨
      (¬ ∃ subnet, FreeSubnet conn.view 24 subnet) ∧
          addNetwork printable ipv6Network conn request = (.raised, conn) := by
  have result : addNetwork printable ipv6Network conn request = _ := addNetwork_eq fresh
  rw [absent] at result
  cases found : allocateSubnet (allocatedValues conn.view) with
  | none =>
      rw [found] at result
      exact Or.inr ⟨(allocateSubnet_none_iff conn.view).mp found, result⟩
  | some net =>
      rcases allocateSubnet_some found with ⟨subnet, free, rfl⟩
      rw [found] at result
      refine Or.inl ⟨subnet, free, ?_⟩
      rw [Makes, result]
      simp only
      rw [insertSubnet_eq fresh, if_neg free.unallocated]

theorem Makes.unique {left right : IpNetwork}
    (makesLeft : Makes printable ipv6Network conn request left)
    (makesRight : Makes printable ipv6Network conn request right) : left = right := by
  have same :=
    congrArg (fun result => allocatedValues result.2.view) (makesLeft.symm.trans makesRight)
  have leftValues : allocatedValues (withNetwork (withAllocated conn.view left) request.name left) =
      allocatedValues conn.view ++ [left] := allocatedValues_insert _ _
  have rightValues : allocatedValues
    (withNetwork (withAllocated conn.view right) request.name right) =
      allocatedValues conn.view ++ [right] := allocatedValues_insert _ _
  have values : allocatedValues conn.view ++ [left] = allocatedValues conn.view ++ [right] :=
    leftValues.symm.trans (same.trans rightValues)
  exact List.singleton_inj.mp (List.append_cancel_left values)

theorem addNetwork_given (fresh : nameFree conn.view (some request.name) = true) (text : String)
    (given : request.subnet = some text) (full : text ≠ "")
    (several : ∀ net, ipNetwork ipv6Network text = some net → net.hostIter ≠ none) :
    (∃ net, ipNetwork ipv6Network text = some net ∧ Makes printable ipv6Network conn request net) ∨
      ∃ message, (addNetwork printable ipv6Network conn request).1 = .refused message := by
  have result : addNetwork printable ipv6Network conn request = _ := addNetwork_eq fresh
  rw [subnetArgument_given given full] at result
  cases parsed : ipNetwork ipv6Network text with
  | none =>
      rw [parsed] at result
      exact Or.inr ⟨_, congrArg Prod.fst result⟩
  | some net =>
      rw [parsed] at result
      simp only [if_neg (several net parsed), insertSubnet_eq fresh] at result
      by_cases listed : net ∈ allocatedValues conn.view
      · rw [if_pos listed] at result
        exact Or.inr ⟨_, congrArg Prod.fst result⟩
      · rw [if_neg listed] at result
        exact Or.inl ⟨net, rfl, result⟩

theorem served_of_answered (fresh : nameFree conn.view (some request.name) = true)
    (answered : Answered printable ipv6Network conn request) : Served ipv6Network conn request := by
  have result : addNetwork printable ipv6Network conn request = _ := addNetwork_eq fresh
  have unraised := answered.unraised
  unfold Served
  cases argument : subnetArgument ipv6Network request.subnet with
  | invalid => exact trivial
  | parsed net =>
      intro single
      rw [argument] at result
      simp only [single, if_true] at result
      rw [result] at unraised
      exact unraised rfl
  | absent =>
      rcases addNetwork_absent fresh argument with ⟨subnet, free, makes⟩ | ⟨_, raised⟩
      · refine ⟨?_, subnet, free⟩
        by_cases wanted : ∃ other, FreeSubnet conn.view request.requestedPrefix other
        · rcases answered.allocated argument wanted with ⟨other, otherFree, otherMakes⟩
          cases makes.unique otherMakes
          exact otherFree.block.size.symm.trans free.block.size
        · have refused := answered.exhausted argument wanted
          rw [Makes, refused] at makes
          cases congrArg Prod.fst makes
      · rw [raised] at unraised
        exact absurd rfl unraised

theorem Answered.of_given (present : subnetArgument ipv6Network request.subnet ≠ .absent)
    (unraised : (addNetwork printable ipv6Network conn request).1 ≠ .raised)
    (given : ∀ text, request.subnet = some text → text ≠ "" →
      (∃ net, ipNetwork ipv6Network text = some net ∧
        Makes printable ipv6Network conn request net) ∨ ∃ message,
          (addNetwork printable ipv6Network conn request).1 = .refused message) :
    Answered printable ipv6Network conn request :=
  ⟨unraised, fun absent => absurd absent present, fun absent => absurd absent present, given⟩

theorem answered_of_served (fresh : nameFree conn.view (some request.name) = true)
    (served : Served ipv6Network conn request) : Answered printable ipv6Network conn request := by
  have result : addNetwork printable ipv6Network conn request = _ := addNetwork_eq fresh
  unfold Served at served
  cases argument : subnetArgument ipv6Network request.subnet with
  | absent =>
      rw [argument] at served
      rcases served with ⟨wanted, available⟩
      rcases addNetwork_absent fresh argument with ⟨subnet, free, makes⟩ | ⟨taken, _⟩
      · constructor
        · rw [makes]
          exact nofun
        · intro _ _
          exact ⟨subnet, wanted.symm ▸ free, makes⟩
        · intro _ none
          rw [wanted] at none
          exact absurd available none
        · intro text given full
          rw [subnetArgument_given given full] at argument
          split at argument <;> cases argument
      · exact absurd available taken
  | invalid =>
      rw [argument] at result
      -- a text that is no network is answered with a refusal
      apply Answered.of_given
      · rw [argument]
        exact nofun
      · rw [result]
        exact nofun
      · intro text given full
        exact Or.inr ⟨_, congrArg Prod.fst result⟩
  | parsed net =>
      rw [argument] at served result
      have several : net.hostIter ≠ none := served
      simp only [if_neg several, insertSubnet_eq fresh] at result
      apply Answered.of_given
      · rw [argument]
        exact nofun
      · rw [result]
        split <;> exact nofun
      · intro text given full
        refine addNetwork_given fresh text given full fun other parsed => ?_
        rw [subnetArgument_given given full, parsed] at argument
        cases argument
        exact several

section Example

def noIpv6 (_ : String) : Option IPv6Network := none

def emptyConn : Conn := freshConn .empty .empty

def pairRequest : AddNetworkRequest := ⟨"pair", none, some "10.9.0.0/30"⟩

end Example

end Requests

end Dockermock.Database
