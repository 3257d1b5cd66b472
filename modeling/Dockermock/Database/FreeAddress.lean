import Dockermock.Library.FirstFit
import Dockermock.Database.Addresses

/-!
The search of get_free_ip_for_network. It compares addresses as texts and walks
over the hosts behind the first one, so what it finds is the least of them that
is not recorded, and it finds nothing only when all of them are.
-/

namespace Dockermock.Database

open Library Network

structure FreeHost (net : IPv4Network) (used : List String) (value : Nat) : Prop where
  host : net.IsHost value
  above : net.gateway < value
  unrecorded : ipv4Text value ∉ used

def LeastFreeHost (net : IPv4Network) (used : List String) (value : Nat) : Prop :=
  FreeHost net used value ∧ ∀ other, FreeHost net used other → value ≤ other

section Search

variable (host : Host) (net : IPv4Network) (used : List String) (wide : net.prefixlen ≤ 31)
include wide

/-- allocate_ip is a search over addresses, the text being taken of the one it finds. -/
theorem allocateIp_eq_find? : allocateIp host (.v4 net) used =
    some ((net.hosts.tail.find? fun value => ipv4Text value ∉ used).map ipv4Text) := by
  have several : net.prefixlen ≠ 32 := by omega
  rw [allocateIp, IpNetwork.hostIter, if_neg several, Option.map_some, List.find?_map]
  rfl

theorem mem_search_iff (value : Nat) :
    value ∈ net.hosts.tail ∧ ipv4Text value ∉ used ↔ FreeHost net used value := by
  rw [mem_hosts_tail_iff net wide]
  constructor
  · rintro ⟨⟨host, above⟩, unrecorded⟩
    exact ⟨host, above, unrecorded⟩
  · intro free
    exact ⟨⟨free.host, free.above⟩, free.unrecorded⟩

theorem search_eq_some_iff (value : Nat) :
    (net.hosts.tail.find? fun value => ipv4Text value ∉ used) = some value ↔
        LeastFreeHost net used value := by
  have ascending : net.hosts.tail.Pairwise fun left right => id left < id right :=
    (hosts_ascending net).sublist (List.tail_sublist _)
  rw [find?_eq_some_iff_least ascending, ← and_assoc]
  simp only [decide_eq_true_eq, id_eq]
  rw [mem_search_iff net used wide, LeastFreeHost]
  refine and_congr_right fun _ => forall_congr' fun other => ?_
  rw [← mem_search_iff net used wide, and_imp]

theorem search_eq_none_iff :
    (net.hosts.tail.find? fun value => ipv4Text value ∉ used) = none ↔
      ∀ value, net.IsHost value → value ≠ net.gateway → ipv4Text value ∈ used := by
  rw [List.find?_eq_none]
  simp only [decide_eq_true_eq, not_not]
  refine forall_congr' fun value => ?_
  rw [mem_hosts_tail_iff net wide, and_imp]
  refine forall_congr' fun host => ?_
  have least := gateway_le net wide value host
  have apart : net.gateway < value ↔ value ≠ net.gateway := by omega
  rw [apart]

theorem allocateIp_eq_some_iff (text : String) :
    allocateIp host (.v4 net) used = some (some text) ↔
      ∃ value, LeastFreeHost net used value ∧ text = ipv4Text value := by
  rw [allocateIp_eq_find? host net used wide, Option.some.injEq, Option.map_eq_some_iff]
  refine exists_congr fun value => ?_
  rw [search_eq_some_iff net used wide, eq_comm]

theorem allocateIp_eq_none_iff :
    allocateIp host (.v4 net) used = some none ↔
      ∀ value, net.IsHost value → value ≠ net.gateway → ipv4Text value ∈ used := by
  rw [allocateIp_eq_find? host net used wide, Option.some.injEq, Option.map_eq_none_iff,
    search_eq_none_iff net used wide]

end Search

theorem IsHost.lt {net : IPv4Network} {value : Nat} (host : net.IsHost value) : value < 2 ^ 32 :=
  Nat.lt_of_le_of_lt host.inside.2 net.broadcast_lt

theorem ipv4Text_ne {left right : Nat} (leftBound : left < 2 ^ 32) (rightBound : right < 2 ^ 32)
    (apart : left ≠ right) : ipv4Text left ≠ ipv4Text right :=
  fun same => apart (ipv4Text_injective left right leftBound rightBound same)

/-- An address that can be handed out is none of those that the network needs itself. -/
structure Unreserved (net : IPv4Network) (text : String) : Prop where
  gateway : text ≠ ipv4Text net.gateway
  network : text ≠ ipv4Text net.networkAddress
  broadcast : net.prefixlen ≤ 30 → text ≠ ipv4Text net.broadcast

theorem FreeHost.unreserved {net : IPv4Network} {used : List String} {value : Nat}
    (free : FreeHost net used value) : Unreserved net (ipv4Text value) := by
  have bound := IsHost.lt free.host
  have above := free.above
  have start : net.networkAddress ≤ net.gateway := by
    unfold IPv4Network.gateway
    split <;> omega
  constructor
  · exact ipv4Text_ne bound (by omega) (by omega)
  · exact ipv4Text_ne bound net.address_lt (by omega)
  · intro wide
    exact ipv4Text_ne bound net.broadcast_lt (free.host.usable wide).2

section Row

variable (host : Host) (tables : Tables) (networkId : Nat) (row : NetworkRow) (net : IPv4Network)

theorem getFreeIpForNetwork_of_row (held : tables.networks.rows.get networkId = some row)
    (subnet : row.subnet = some (.v4 net)) :
    getFreeIpForNetwork host tables networkId =
        allocateIp host (.v4 net) (usedIps tables networkId) := by
  rw [getFreeIpForNetwork, held, Option.bind_some, subnet, Option.bind_some]

/-- get_free_ip_for_network gives the least free host above the gateway, and nothing
exactly when all of them are recorded; the row that records it repeats no address. -/
theorem getFreeIpForNetwork_least (held : tables.networks.rows.get networkId = some row)
    (subnet : row.subnet = some (.v4 net)) (wide : net.prefixlen ≤ 31) :
    (net.IsHost net.gateway ∧ ∀ value, net.IsHost value → net.gateway ≤ value) ∧
      getFreeIpForNetwork host tables networkId ≠ none ∧
      (∀ text, getFreeIpForNetwork host tables networkId = some (some text) ↔
        ∃ value, LeastFreeHost net (usedIps tables networkId) value ∧ text = ipv4Text value) ∧
      (getFreeIpForNetwork host tables networkId = some none ↔
        ∀ value, net.IsHost value → value ≠ net.gateway →
          ipv4Text value ∈ usedIps tables networkId) ∧
      ∀ text, getFreeIpForNetwork host tables networkId = some (some text) →
        text ∉ usedIps tables networkId ∧ Unreserved net text ∧
          ∀ cid recorded, tables.insertContainerNetwork ⟨networkId, cid, text⟩ = some recorded →
            (usedIps tables networkId).Nodup → (usedIps recorded networkId).Nodup := by
  rw [getFreeIpForNetwork_of_row host tables networkId row net held subnet]
  have first : net.IsHost net.gateway := by
    rw [← mem_hosts_iff net wide, hosts_eq_cons net wide]
    exact List.mem_cons_self
  refine ⟨⟨first, gateway_le net wide⟩, ?_, allocateIp_eq_some_iff host net _ wide,
    allocateIp_eq_none_iff host net _ wide, ?_⟩
  · rw [allocateIp_eq_find? host net _ wide]
    exact Option.some_ne_none _
  · intro text found
    rcases (allocateIp_eq_some_iff host net _ wide text).mp found with ⟨value, ⟨free, _⟩, rfl⟩
    refine ⟨free.unrecorded, free.unreserved, fun cid recorded entered distinct => ?_⟩
    rcases (insertContainerNetwork_eq_some_iff _ _ _).mp entered with ⟨_, rfl⟩
    rw [usedIps_insert, if_pos rfl]
    -- the address was unrecorded, so that its row repeats none
    refine List.nodup_append.mpr ⟨distinct, List.nodup_singleton _,
      fun used member other last same => ?_⟩
    rw [same, List.mem_singleton.mp last] at member
    exact free.unrecorded member

end Row

section Example

theorem officeNetwork_strict : Strict 0x0A090000 29 := ⟨by decide, by decide, by decide⟩

def officeNetwork : IPv4Network := .strict officeNetwork_strict

def officeRow : NetworkRow := ⟨"office", some (.v4 officeNetwork)⟩

def officeTables : Tables :=
  { Tables.fresh .empty .empty with
    networks := Table.empty.insert officeRow
    containerNetworks := (Table.empty.insert ⟨1, 1, "10.9.0.2"⟩).insert ⟨1, 2, "10.9.0.3"⟩ }

theorem getFreeIpForNetwork_least_recorded :
    usedIps officeTables 1 = ["10.9.0.2", "10.9.0.3"] ∧
      ∃ value, LeastFreeHost officeNetwork (usedIps officeTables 1) value ∧
          "10.9.0.4" = ipv4Text value :=
  ⟨by decide, ((getFreeIpForNetwork_least workingHost officeTables 1 officeRow officeNetwork rfl rfl
    (by decide)).2.2.1 "10.9.0.4").mp (by decide)⟩

end Example

end Dockermock.Database
