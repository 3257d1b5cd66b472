import Dockermock.Library.FirstFit
import Dockermock.Network.Subnets

/-!
The SubnetAllocator. It goes through the subnets of its base network in order
and gives out the first one that overlaps nothing allocated. The result is a
text and a prefix length, which is how it is stored and read back.
-/

namespace Dockermock.Network

open Library

structure SubnetAllocator where
  baseNetwork : IPv4Network

namespace SubnetAllocator

def isOverlapping (candidate : IPv4Network) (allocatedNetworks : List IPv4Network) : Bool :=
  allocatedNetworks.any fun net => candidate.overlaps net

/-- Nothing where `subnets` raises. -/
def findAvailableSubnet (allocator : SubnetAllocator) (prefixlen : Nat)
    (allocated : List IPv4Network) : Option (Option IPv4Network) :=
  (allocator.baseNetwork.subnets prefixlen).map fun candidates =>
    candidates.find? fun candidate => !isOverlapping candidate allocated

def allocateSubnet (allocator : SubnetAllocator) (allocated : List IPv4Network) (prefixlen : Nat) :
    Option (Option (String × Nat)) :=
  (allocator.findAvailableSubnet prefixlen allocated).map fun found =>
    found.map fun subnet => (ipv4Text subnet.networkAddress, subnet.prefixlen)

/-- A row as _get_allocated_networks reads it. -/
def readRow (row : String × Nat) : Option IPv4Network :=
  ipv4Network (row.1 ++ "/" ++ toString row.2)

/-- One allocation after the other, each result being recorded and read back for the next. -/
def allocateEach (allocator : SubnetAllocator) :
    List Nat → List IPv4Network → Option (List (Option IPv4Network))
  | [], _ => some []
  | prefixlen :: rest, allocated =>
      match allocator.allocateSubnet allocated prefixlen with
      | none => none
      | some none => (allocator.allocateEach rest allocated).map fun results => none :: results
      | some (some row) =>
          (readRow row).bind fun subnet =>
            (allocator.allocateEach rest (allocated ++ [subnet])).map fun results =>
              some subnet :: results

structure Available (base : IPv4Network) (prefixlen : Nat) (allocated : List IPv4Network)
    (subnet : IPv4Network) : Prop where
  block : SubnetOf base prefixlen subnet
  free : ∀ net ∈ allocated, ¬ Shares subnet net

/-- The prefix lengths that the base network has subnets for. -/
def Divides (base : IPv4Network) (prefixlen : Nat) : Prop :=
  base.prefixlen ≤ prefixlen ∧ prefixlen ≤ 32

instance (base : IPv4Network) (prefixlen : Nat) : Decidable (Divides base prefixlen) :=
  inferInstanceAs (Decidable (_ ∧ _))

theorem readRow_allocated (subnet : IPv4Network) :
    readRow (ipv4Text subnet.networkAddress, subnet.prefixlen) = some subnet :=
  ipv4Network_text subnet

theorem isOverlapping_eq_fits (allocated : List IPv4Network) (candidate : IPv4Network) :
    (!isOverlapping candidate allocated) = fits IPv4Network.overlaps allocated candidate := by
  rw [isOverlapping, fits, List.not_any_eq_all_not]

theorem fits_iff_free (allocated : List IPv4Network) (candidate : IPv4Network) :
    fits IPv4Network.overlaps allocated candidate = true ↔
        ∀ net ∈ allocated, ¬ Shares candidate net := by
  simp only [fits_iff, overlaps_eq_false_iff]

variable (allocator : SubnetAllocator)

/-- The subnets that a search goes through, none for a prefix length that is refused. -/
def candidates (prefixlen : Nat) : List IPv4Network :=
  (allocator.baseNetwork.subnets prefixlen).getD []

section Candidates

variable {allocator : SubnetAllocator} {prefixlen : Nat}
  (divides : Divides allocator.baseNetwork prefixlen)
include divides

theorem candidates_spec :
    allocator.baseNetwork.subnets prefixlen = some (allocator.candidates prefixlen) ∧
    ((allocator.candidates prefixlen).Pairwise fun left right =>
      left.networkAddress < right.networkAddress) ∧
      ∀ subnet, subnet ∈ allocator.candidates prefixlen ↔
          SubnetOf allocator.baseNetwork prefixlen subnet := by
  rcases subnets_spec divides.1 divides.2 with ⟨list, given, ascending, members⟩
  have same : allocator.candidates prefixlen = list := by rw [candidates, given, Option.getD_some]
  rw [same]
  exact ⟨given, ascending, members⟩

theorem findAvailableSubnet_eq (allocated : List IPv4Network) :
    allocator.findAvailableSubnet prefixlen allocated =
    some (firstFit IPv4Network.overlaps (allocator.candidates prefixlen) allocated) := by
  rw [findAvailableSubnet, (candidates_spec divides).1, Option.map_some]
  simp only [isOverlapping_eq_fits]
  rfl

theorem mem_available_iff (allocated : List IPv4Network) (subnet : IPv4Network) :
    subnet ∈ allocator.candidates prefixlen ∧ fits IPv4Network.overlaps allocated subnet = true ↔
      Available allocator.baseNetwork prefixlen allocated subnet := by
  rw [(candidates_spec divides).2.2, fits_iff_free]
  exact ⟨fun both => ⟨both.1, both.2⟩, fun available => ⟨available.block, available.free⟩⟩

theorem candidates_apart :
    (allocator.candidates prefixlen).Pairwise fun earlier later =>
        later.overlaps earlier = false := by
  rcases candidates_spec divides with ⟨_, ascending, members⟩
  refine ascending.imp_of_mem fun {earlier later} earlierIn laterIn below => ?_
  rw [overlaps_eq_false_iff]
  intro shares
  have size : later.prefixlen = earlier.prefixlen := ((members later).mp laterIn).size.trans
    ((members earlier).mp earlierIn).size.symm
  rw [eq_of_shares size shares] at below
  exact Nat.lt_irrefl _ below

theorem findAvailableSubnet_eq_some_iff (allocated : List IPv4Network) (subnet : IPv4Network) :
    allocator.findAvailableSubnet prefixlen allocated = some (some subnet) ↔
      Available allocator.baseNetwork prefixlen allocated subnet ∧
        ∀ other, Available allocator.baseNetwork prefixlen allocated other →
          subnet.networkAddress ≤ other.networkAddress := by
  rw [findAvailableSubnet_eq divides, Option.some.injEq, firstFit,
    find?_eq_some_iff_least (candidates_spec divides).2.1, ← and_assoc, mem_available_iff divides]
  refine and_congr_right fun _ => forall_congr' fun other => ?_
  rw [← mem_available_iff divides, and_imp]

theorem findAvailableSubnet_eq_none_iff (allocated : List IPv4Network) :
    allocator.findAvailableSubnet prefixlen allocated = some none ↔
      ∀ subnet, SubnetOf allocator.baseNetwork prefixlen subnet → ∃ net ∈ allocated,
          Shares subnet net := by
  rw [findAvailableSubnet_eq divides, Option.some.injEq, firstFit_eq_none_iff]
  simp only [(candidates_spec divides).2.2, overlaps_iff_shares]

end Candidates

theorem allocateEach_eq (prefixes : List Nat)
    (divide : ∀ prefixlen ∈ prefixes, Divides allocator.baseNetwork prefixlen)
    (allocated : List IPv4Network) :
    allocator.allocateEach prefixes allocated =
      some (fitEach IPv4Network.overlaps (prefixes.map allocator.candidates) allocated) := by
  induction prefixes generalizing allocated with
  | nil => rfl
  | cons prefixlen rest ih =>
      have later := ih fun other member => divide other (List.mem_cons_of_mem _ member)
      rw [allocateEach, allocateSubnet,
        findAvailableSubnet_eq (divide prefixlen List.mem_cons_self),
        List.map_cons, fitEach, Option.map_some]
      cases firstFit IPv4Network.overlaps (allocator.candidates prefixlen) allocated with
      | none => simp [later]
      | some subnet => simp [readRow_allocated, later]

/-- Allocations of any sizes one after the other are apart from each other and from what
was there, inside the base network. -/
theorem allocateEach_disjoint (prefixes : List Nat)
    (divide : ∀ prefixlen ∈ prefixes, Divides allocator.baseNetwork prefixlen)
    (allocated : List IPv4Network) :
    ∃ results, allocator.allocateEach prefixes allocated = some results ∧
      (results.reduceOption.Pairwise fun earlier later => ¬ Shares earlier later) ∧
        ∀ subnet ∈ results.reduceOption,
          ∃ prefixlen ∈ prefixes, Available allocator.baseNetwork prefixlen allocated subnet := by
  rcases fitEach_clear IPv4Network.overlaps (prefixes.map allocator.candidates) allocated with
    ⟨apart, clear⟩
  refine ⟨_, allocateEach_eq allocator prefixes divide allocated, ?_, fun subnet member => ?_⟩
  · refine apart.imp fun {earlier later} disjoint shares => ?_
    exact (overlaps_eq_false_iff later earlier).mp disjoint shares.symm
  · rcases mem_fitEach _ member with ⟨blocks, listed, among⟩
    rcases List.mem_map.mp listed with ⟨prefixlen, asked, rfl⟩
    exact ⟨prefixlen, asked,
      (mem_available_iff (divide prefixlen asked) allocated subnet).mp ⟨among, clear subnet member⟩⟩

/-- Allocations of one size give out all available subnets, ascending, and then nothing. -/
theorem allocateEach_exhausts {prefixlen : Nat} (divides : Divides allocator.baseNetwork prefixlen)
    (allocated : List IPv4Network) :
    ∃ available : List IPv4Network,
      (available.Pairwise fun left right => left.networkAddress < right.networkAddress ∧
        ¬ Shares left right) ∧
      (∀ subnet, subnet ∈ available ↔ Available allocator.baseNetwork prefixlen allocated subnet) ∧
        ∀ count, allocator.allocateEach (List.replicate count prefixlen) allocated =
          some ((available.take count).map some ++
              List.replicate (count - available.length) none) := by
  have ascending := (candidates_spec divides).2.1
  have apart := candidates_apart divides
  refine ⟨(allocator.candidates prefixlen).filter (fits IPv4Network.overlaps allocated), ?_,
    fun subnet => ?_, fun count => ?_⟩
  · refine (ascending.and apart).filter _ |>.imp fun {left right} both => ⟨both.1, fun shares => ?_⟩
    exact (overlaps_eq_false_iff right left).mp both.2 shares.symm
  · rw [List.mem_filter, mem_available_iff divides]
  · have divide : ∀ size ∈ List.replicate count prefixlen, Divides allocator.baseNetwork size := by
      intro size member
      rw [List.eq_of_mem_replicate member]
      exact divides
    rw [allocateEach_eq allocator _ divide, List.map_replicate, fitEach_replicate _ _ apart]
    intro subnet _
    exact (overlaps_iff_shares subnet subnet).mpr (Shares.refl subnet)

/-- find_available_subnet is first fit over the aligned blocks of the base network, and
repeated allocation fills the base with pairwise disjoint ones. -/
theorem subnetAllocator_first_fit (prefixlen : Nat)
    (divides : Divides allocator.baseNetwork prefixlen) (allocated : List IPv4Network) :
    allocator.findAvailableSubnet prefixlen allocated ≠ none ∧
      (∀ subnet, allocator.findAvailableSubnet prefixlen allocated = some (some subnet) ↔
        Available allocator.baseNetwork prefixlen allocated subnet ∧
          ∀ other, Available allocator.baseNetwork prefixlen allocated other →
            subnet.networkAddress ≤ other.networkAddress) ∧
      (allocator.findAvailableSubnet prefixlen allocated = some none ↔
        ∀ subnet, SubnetOf allocator.baseNetwork prefixlen subnet → ∃ net ∈ allocated,
          Shares subnet net) ∧
      (∃ available : List IPv4Network,
        (available.Pairwise fun left right => left.networkAddress < right.networkAddress ∧
          ¬ Shares left right) ∧
        (∀ subnet, subnet ∈ available ↔
          Available allocator.baseNetwork prefixlen allocated subnet) ∧
          ∀ count, allocator.allocateEach (List.replicate count prefixlen) allocated =
            some ((available.take count).map some ++
              List.replicate (count - available.length) none)) ∧
      ∀ prefixes, (∀ other ∈ prefixes, Divides allocator.baseNetwork other) →
        ∃ results, allocator.allocateEach prefixes allocated = some results ∧
          (results.reduceOption.Pairwise fun earlier later => ¬ Shares earlier later) ∧
            ∀ subnet ∈ results.reduceOption,
              ∃ other ∈ prefixes, Available allocator.baseNetwork other allocated subnet := by
  refine ⟨?_, findAvailableSubnet_eq_some_iff divides allocated,
    findAvailableSubnet_eq_none_iff divides allocated,
    allocateEach_exhausts allocator divides allocated,
    fun prefixes divide => allocateEach_disjoint allocator prefixes divide allocated⟩
  rw [findAvailableSubnet_eq divides]
  exact Option.some_ne_none _

section Example

theorem defaultNetwork_strict : Strict 0x0A000000 16 := ⟨by decide, by decide, by decide⟩

def defaultAllocator : SubnetAllocator := ⟨.strict defaultNetwork_strict⟩

/-- The first /24 is inside an allocated /23, so the first fit starts behind it. -/
theorem subnetAllocator_first_fit_default :
    Available defaultAllocator.baseNetwork 24 [⟨0x0A000000, 23, by decide, by decide, by decide⟩]
      ⟨0x0A000200, 24, by decide, by decide, by decide⟩ :=
  (((subnetAllocator_first_fit defaultAllocator 24 (by decide)
    [⟨0x0A000000, 23, by decide, by decide, by decide⟩]).2.1
      ⟨0x0A000200, 24, by decide, by decide, by decide⟩).mp (by decide +kernel)).1

end Example

end SubnetAllocator

end Dockermock.Network
