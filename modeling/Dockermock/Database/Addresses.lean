import Dockermock.Library.Transition
import Dockermock.Database.Atomicity

/-!
The addresses of the containers on a network. create_network, create_container
and attach_network run in any order over one connection; a network gets no
address twice and none outside its subnet, as long as create_container does not
store the text of the `None` it is given for a full network.
-/

namespace Dockermock.Database

open Library Network

inductive Operation where
  | createNetwork (name : Option String) (subnet : SubnetArgument) (gateway : Option String)
  | createContainer (host : Host) (request : Request)
  | attachNetwork (host : Host) (containerName networkName : String)

def perform (printable : Char → Bool) (conn : Conn) : Operation → Option Conn
  | .createNetwork name subnet gateway => some (createNetwork printable conn name subnet gateway).2
  | .createContainer host request => some (createContainer host conn request).2
  | .attachNetwork host containerName networkName =>
      some (attachNetwork host conn containerName networkName).2

def v4Subnet (tables : Tables) (networkId : Nat) : Option IPv4Network :=
  match (tables.networks.rows.get networkId).bind NetworkRow.subnet with
  | some (.v4 net) => some net
  | _ => none

/-- The text of a host that is not the first one, which is the gateway's. -/
def HostText (net : IPv4Network) (text : String) : Prop :=
  ∃ value ∈ net.hosts, net.hosts.head? ≠ some value ∧ text = ipv4Text value

/-- No IPv4 network has an address twice, or one that is none of its hosts. -/
def Allocated (tables : Tables) : Prop :=
  ∀ networkId net, v4Subnet tables networkId = some net →
    (usedIps tables networkId).Nodup ∧ ∀ text ∈ usedIps tables networkId, HostText net text

structure Addressed (tables : Tables) : Prop where
  bounded : ∀ entry ∈ tables.containerNetworks.rows.entries,
    entry.2.networkId ≤ tables.networks.sequence
  allocated : Allocated tables

structure Fitting (tables : Tables) (row : ContainerNetworkRow) : Prop where
  known : row.networkId ≤ tables.networks.sequence
  unused : ∀ net, v4Subnet tables row.networkId = some net →
    row.ipAddress ∉ usedIps tables row.networkId ∧ HostText net row.ipAddress

/-- No row goes in for an IPv4 network without a free host, or it is taken out again. -/
def HostsFound (host : Host) (conn : Conn) (accepted : Accepted) : Prop :=
  NameTaken conn.view accepted.row.name ∨
    (∃ networkId ∈ accepted.networkIds, getFreeIpForNetwork host conn.view networkId = none) ∨
    (∀ networkId ∈ accepted.networkIds, (v4Subnet conn.view networkId).isSome = true →
      getFreeIpForNetwork host conn.view networkId ≠ some none) ∨
    (Unraised host conn.view accepted ∧
      createDataset host accepted.imageGid accepted.row.gid = .failed)

instance (host : Host) (conn : Conn) (accepted : Accepted) :
    Decidable (HostsFound host conn accepted) :=
  inferInstanceAs (Decidable (_ ∨ _ ∨ _ ∨ _))

def FindsHosts (host : Host) (conn : Conn) (request : Request) : Prop :=
  match prepare host conn.view request with
  | .ready accepted => HostsFound host conn accepted
  | _ => True

instance (host : Host) (conn : Conn) (request : Request) :
    Decidable (FindsHosts host conn request) :=
  match ready : prepare host conn.view request with
  | .ready accepted =>
      decidable_of_iff (HostsFound host conn accepted) (by simp [FindsHosts, ready])
  | .refused _ => isTrue (by simp [FindsHosts, ready])
  | .raised => isTrue (by simp [FindsHosts, ready])

def findsHosts (conn : Conn) : Operation → Prop
  | .createContainer host request => FindsHosts host conn request
  | _ => True

instance (conn : Conn) : ∀ operation, Decidable (findsHosts conn operation)
  | .createNetwork _ _ _ => isTrue trivial
  | .createContainer host request => inferInstanceAs (Decidable (FindsHosts host conn request))
  | .attachNetwork _ _ _ => isTrue trivial

theorem usedIps_insert (tables : Tables) (row : ContainerNetworkRow) (networkId : Nat) :
    usedIps { tables with containerNetworks := tables.containerNetworks.insert row } networkId =
      usedIps tables networkId ++ if row.networkId = networkId then [row.ipAddress] else [] := by
  rw [usedIps, Table.select_insert, List.map_append]
  by_cases same : row.networkId = networkId <;> simp [usedIps, same]

theorem allocateIp_some (host : Host) (net : IPv4Network) (used : List String) (text : String)
    (found : allocateIp host (.v4 net) used = some (some text)) :
    text ∉ used ∧ HostText net text := by
  rcases Option.map_eq_some_iff.mp found with ⟨hosts, iter, first⟩
  rw [IpNetwork.hostIter, Option.ite_none_left_eq_some] at iter
  cases iter.2
  have free : text ∉ used := by simpa using List.find?_some first
  rcases List.mem_map.mp (List.mem_of_find?_eq_some first) with ⟨value, member, rfl⟩
  refine ⟨free, value, List.mem_of_mem_tail member, ?_, rfl⟩
  have distinct := hosts_nodup net
  cases hosts : net.hosts with
  | nil => simp
  | cons gateway rest =>
      rw [hosts] at distinct member
      rintro same
      cases same
      exact (List.nodup_cons.mp distinct).1 member

/-- A network runs out only when it has given an address to each host but the first. -/
theorem hosts_le_of_full (host : Host) (net : IPv4Network) (used : List String)
    (full : allocateIp host (.v4 net) used = some none) : net.hosts.tail.length ≤ used.length := by
  rcases Option.map_eq_some_iff.mp full with ⟨hosts, iter, nothing⟩
  rw [IpNetwork.hostIter, Option.ite_none_left_eq_some] at iter
  cases iter.2
  have texts : (net.hosts.tail.map ipv4Text).Nodup := by
    refine List.Nodup.map_on ?_ ((hosts_nodup net).sublist (List.tail_sublist _))
    intro left leftMember right rightMember same
    exact ipv4Text_injective left right (hosts_lt net left (List.mem_of_mem_tail leftMember))
      (hosts_lt net right (List.mem_of_mem_tail rightMember)) same
  have among : net.hosts.tail.map ipv4Text ⊆ used := by
    intro text member
    simpa using List.find?_eq_none.mp nothing text member
  have bound := (List.subperm_of_subset texts among).length_le
  rwa [List.length_map] at bound

theorem fitting_of_found (host : Host) (tables : Tables) (networkId cid : Nat) (text : String)
    (found : getFreeIpForNetwork host tables networkId = some (some text)) :
    Fitting tables ⟨networkId, cid, text⟩ := by
  rcases Option.bind_eq_some_iff.mp found with ⟨row, held, subnetFound⟩
  rcases Option.bind_eq_some_iff.mp subnetFound with ⟨subnet, given, allocated⟩
  refine ⟨tables.networks.bounded _ ((Dict.mem_keys_iff _ _).mpr ⟨row, held⟩), fun net isV4 => ?_⟩
  simp only [v4Subnet, held, Option.bind_some, given] at isV4
  split at isV4
  · rename_i same
    cases same
    cases isV4
    exact allocateIp_some host net _ _ allocated
  · cases isV4

theorem fitting_of_addressed (host : Host) (tables : Tables) (networkId cid : Nat)
    (row : ContainerNetworkRow) (addressed : AddressedBy host tables cid networkId row)
    (free : (v4Subnet tables networkId).isSome = true →
      getFreeIpForNetwork host tables networkId ≠ some none) :
    Fitting tables row := by
  rcases addressed with ⟨address, found, rfl⟩
  cases address with
  | some text => exact fitting_of_found host tables networkId cid text found
  | none =>
      rcases Option.bind_eq_some_iff.mp found with ⟨network, held, _⟩
      refine ⟨tables.networks.bounded _ ((Dict.mem_keys_iff _ _).mpr ⟨network, held⟩),
        fun net isV4 => ?_⟩
      exact absurd found (free (by rw [isV4]; rfl))

theorem Addressed.insert_link {tables : Tables} (addressed : Addressed tables)
    {row : ContainerNetworkRow} (fitting : Fitting tables row) :
    Addressed { tables with containerNetworks := tables.containerNetworks.insert row } := by
  constructor
  · intro entry member
    rw [Table.insert_entries, List.mem_append, List.mem_singleton] at member
    rcases member with old | rfl
    · exact addressed.bounded entry old
    · exact fitting.known
  · intro networkId net isV4
    have before := addressed.allocated networkId net isV4
    rw [usedIps_insert]
    by_cases same : row.networkId = networkId
    · subst same
      have new := fitting.unused net isV4
      rw [if_pos rfl]
      constructor
      · refine List.nodup_append.mpr ⟨before.1, List.nodup_singleton _,
          fun text used other last same => ?_⟩
        rw [same, List.mem_singleton.mp last] at used
        exact new.1 used
      · intro text member
        rcases List.mem_append.mp member with old | last
        · exact before.2 text old
        · rw [List.mem_singleton.mp last]
          exact new.2
    · rw [if_neg same, List.append_nil]
      exact before

theorem Fitting.insert_other {tables : Tables} {row other : ContainerNetworkRow}
    (fitting : Fitting tables other) (different : row.networkId ≠ other.networkId) :
    Fitting { tables with containerNetworks := tables.containerNetworks.insert row } other := by
  refine ⟨fitting.known, fun net isV4 => ?_⟩
  rw [usedIps_insert, if_neg different, List.append_nil]
  exact fitting.unused net isV4

theorem Addressed.insertContainerNetworks (rows : List ContainerNetworkRow) (tables : Tables)
    (addressed : Addressed tables) (distinct : (rows.map ContainerNetworkRow.networkId).Nodup)
    (fitting : ∀ row ∈ rows, Fitting tables row) :
    Addressed (insertContainerNetworks rows tables).1 := by
  induction rows generalizing tables with
  | nil => exact addressed
  | cons row rest ih =>
      rw [Database.insertContainerNetworks]
      split
      · exact addressed
      · rename_i inserted entered
        rcases (insertContainerNetwork_eq_some_iff _ _ _).mp entered with ⟨_, rfl⟩
        rcases List.nodup_cons.mp distinct with ⟨absent, distinct⟩
        apply ih _ (addressed.insert_link (fitting row List.mem_cons_self)) distinct
        intro other member
        apply (fitting other (List.mem_cons_of_mem _ member)).insert_other
        intro same
        exact absent (List.mem_map.mpr ⟨other, member, same.symm⟩)

theorem Addressed.linkContainer {host : Host} {accepted : Accepted} {cid : Nat} {tables : Tables}
    (addressed : Addressed tables) (distinct : accepted.networkIds.Nodup)
    (hosts : (∃ networkId ∈ accepted.networkIds, getFreeIpForNetwork host tables networkId = none) ∨
      ∀ networkId ∈ accepted.networkIds, (v4Subnet tables networkId).isSome = true →
        getFreeIpForNetwork host tables networkId ≠ some none) :
    Addressed (linkContainer host accepted cid tables).1 := by
  unfold Database.linkContainer
  split
  · exact addressed
  · rename_i rows found
    have looked := (networkRows_eq_some_iff _ _ _ _ _).mp found
    have free := hosts.resolve_left fun ⟨networkId, member, missing⟩ =>
      (networkRows_isSome_iff host tables cid _).mp (by rw [found]; rfl) networkId member missing
    have fitting : ∀ row ∈ rows, Fitting tables row := by
      intro row member
      rcases List.forall₂_iff_get.mp looked with ⟨sameLength, pointwise⟩
      rcases List.mem_iff_getElem.mp member with ⟨index, bound, rfl⟩
      -- Row and network stand at the same index of the two lists.
      have early : index < accepted.networkIds.length := sameLength ▸ bound
      exact fitting_of_addressed host tables _ cid _ (pointwise index early bound)
        (free _ (List.getElem_mem early))
    have linked := addressed.insertContainerNetworks rows tables
      ((networkIds_of_addressed host tables cid _ _ looked).1 ▸ distinct) fitting
    split
    · rename_i after failed
      rw [failed] at linked
      exact linked
    · rename_i after entered
      rw [entered] at linked
      rcases linkContainerVolumes_frame host cid accepted.row.config.mounts after with ⟨_, _, same⟩
      rw [same]
      exact ⟨linked.bounded, linked.allocated⟩

theorem Addressed.linking {host : Host} {conn : Conn} {accepted : Accepted}
    (addressed : Addressed conn.view) (distinct : accepted.networkIds.Nodup)
    (hosts :
      (∃ networkId ∈ accepted.networkIds, getFreeIpForNetwork host conn.view networkId = none) ∨
        ∀ networkId ∈ accepted.networkIds, (v4Subnet conn.view networkId).isSome = true →
          getFreeIpForNetwork host conn.view networkId ≠ some none) :
    Addressed (linking host conn accepted).1 := by
  have begun : Addressed (withContainer conn.view accepted.row) :=
    ⟨addressed.bounded, addressed.allocated⟩
  exact begun.linkContainer distinct hosts

theorem Addressed.insert_network {tables : Tables} (addressed : Addressed tables)
    (row : NetworkRow) : Addressed { tables with networks := tables.networks.insert row } := by
  constructor
  · exact fun entry member => Nat.le_succ_of_le (addressed.bounded entry member)
  · intro networkId net isV4
    by_cases same : networkId = tables.networks.nextId
    · -- No link has the id of a network that comes only now.
      have unlinked : usedIps tables networkId = [] := by
        refine List.map_eq_nil_iff.mpr (List.filter_eq_nil_iff.mpr fun entry member linked => ?_)
        have known := addressed.bounded entry member
        rw [of_decide_eq_true linked, same] at known
        exact Nat.not_succ_le_self _ known
      simp [show usedIps { tables with networks := tables.networks.insert row } networkId = _ from
        unlinked]
    · have kept : (tables.networks.insert row).rows.get networkId =
          tables.networks.rows.get networkId :=
        (Dict.get_set _ _ _ _).trans (if_neg same)
      rw [v4Subnet, kept] at isV4
      exact addressed.allocated networkId net isV4

structure Sound (conn : Conn) : Prop where
  committed : Addressed conn.committed
  view : Addressed conn.view

theorem Sound.write {conn : Conn} (sound : Sound conn) {tables : Tables}
    (addressed : Addressed tables) : Sound (conn.write tables) := ⟨sound.committed, addressed⟩

theorem Sound.commit {conn : Conn} (sound : Sound conn) :
    Sound conn.commit := ⟨sound.view, sound.view⟩

theorem Sound.rollback {conn : Conn} (sound : Sound conn) : Sound conn.rollback :=
  ⟨sound.committed, sound.committed⟩

theorem createNetwork_sound (printable : Char → Bool) (conn : Conn) (name : Option String)
    (subnet : SubnetArgument) (gateway : Option String) (sound : Sound conn) :
    Sound (createNetwork printable conn name subnet gateway).2 := by
  have insertSubnet_sound : ∀ net, Sound (insertSubnet conn name net).2 := by
    intro net
    unfold insertSubnet
    split
    · exact sound
    · rename_i allocated reserved
      rcases Option.map_eq_some_iff.mp reserved with ⟨_, _, rfl⟩
      split
      · exact sound.write ⟨sound.view.bounded, sound.view.allocated⟩
      · rename_i inserted entered
        rcases Option.bind_eq_some_iff.mp entered with ⟨text, _, entered⟩
        rcases Option.map_eq_some_iff.mp entered with ⟨networks, unique, rfl⟩
        rw [((Table.insertUnless_eq_some_iff _ _ _ _).mp unique).2]
        have grown := sound.view.insert_network ⟨text, some net⟩
        exact Sound.commit (sound.write ⟨grown.bounded, grown.allocated⟩)
  unfold createNetwork
  split
  · exact sound
  · split
    · exact sound
    · split
      · exact sound
      · exact insertSubnet_sound _
    · split
      · exact sound
      · exact insertSubnet_sound _

theorem attachNetwork_sound (host : Host) (conn : Conn) (containerName networkName : String)
    (sound : Sound conn) : Sound (attachNetwork host conn containerName networkName).2 := by
  unfold attachNetwork
  split
  · exact sound
  · split
    · exact sound
    · split
      · exact sound
      · split
        · exact sound
        · exact sound.rollback
        · rename_i text found
          split
          · exact sound.rollback
          · rename_i inserted entered
            rw [((insertContainerNetwork_eq_some_iff _ _ _).mp entered).2]
            refine Sound.commit (sound.write (sound.view.insert_link ?_))
            exact fitting_of_found host conn.view _ _ text found

theorem createContainer_sound (host : Host) (conn : Conn) (request : Request) (sound : Sound conn)
    (finds : FindsHosts host conn request) : Sound (createContainer host conn request).2 := by
  unfold createContainer
  unfold FindsHosts at finds
  cases ready : prepare host conn.view request with
  | refused refusal => exact sound
  | raised => exact sound
  | ready accepted =>
      simp only [ready, HostsFound] at finds
      have distinct := (prepare_ready host _ _ _ ready).1
      rcases createAccepted_cases host conn accepted distinct with
        ⟨_, result⟩ | ⟨free, raised, result⟩ | ⟨free, _, failed, result⟩ |
          ⟨free, _, cloned, _, result⟩
      · simp only [result]
        exact sound
      -- A rollback takes everything back; the other two outcomes need the addresses.
      · simp only [result]
        refine sound.write (sound.view.linking distinct ?_)
        rcases finds with taken | missing | hosts | ⟨unraised, _⟩
        · exact absurd taken free
        · exact Or.inl missing
        · exact Or.inr hosts
        · exact absurd unraised raised
      · simp only [result]
        exact sound.rollback
      · simp only [result]
        refine Sound.commit (sound.write (sound.view.linking distinct ?_))
        rcases finds with taken | missing | hosts | ⟨_, failed⟩
        · exact absurd taken free
        · exact Or.inl missing
        · exact Or.inr hosts
        · rw [cloned] at failed
          cases failed

theorem perform_sound (printable : Char → Bool) (conn : Conn) (operation : Operation) (after : Conn)
    (sound : Sound conn) (finds : findsHosts conn operation)
    (performed : perform printable conn operation = some after) : Sound after := by
  cases operation with
  | createNetwork name subnet gateway =>
      cases performed
      exact createNetwork_sound printable conn name subnet gateway sound
  | createContainer host request =>
      cases performed
      exact createContainer_sound host conn request sound finds
  | attachNetwork host containerName networkName =>
      cases performed
      exact attachNetwork_sound host conn containerName networkName sound

def freshConn (images : Table ImageRow) (volumes : Table VolumeRow) : Conn :=
  ⟨.fresh images volumes, .fresh images volumes⟩

theorem freshConn_sound (images : Table ImageRow) (volumes : Table VolumeRow) :
    Sound (freshConn images volumes) := by
  have addressed : Addressed (.fresh images volumes) := by
    refine ⟨fun entry member => absurd member List.not_mem_nil, fun networkId net isV4 => ?_⟩
    cases isV4
  exact ⟨addressed, addressed⟩

/-- From a database without networks, as long as each create_container finds the hosts it
stores, every address is given once and is a host of its network after the gateway. -/
theorem addresses_allocated (printable : Char → Bool) (images : Table ImageRow)
    (volumes : Table VolumeRow) (operations : List Operation) (after : Conn)
    (run : Run (perform printable) findsHosts (freshConn images volumes) operations after) :
    Allocated after.committed ∧ Allocated after.view := by
  have sound : Sound after := by
    apply run_invariant Sound _ run (freshConn_sound images volumes)
    intro conn operation next valid finds performed
    exact perform_sound printable conn operation next valid finds performed
  exact ⟨sound.committed.allocated, sound.view.allocated⟩

section Example

def pairNetwork : IPv4Network := ⟨0x0A090000, 30, by decide, by decide, by decide⟩

def oneContainer : List Operation :=
  [.createNetwork (some "pair") (.parsed (.v4 pairNetwork)) none,
    .createContainer workingHost (alpineRequest "web" ["pair"])]

def twoContainers : List Operation :=
  oneContainer ++ [.createContainer workingHost (alpineRequest "db" ["pair"])]

def addresses (conn : Conn) : List String := usedIps conn.committed 1

theorem addresses_allocated_once :
    ∃ after, Run (perform asciiPrintable) findsHosts stocked oneContainer after ∧
      addresses after = ["10.9.0.2"] ∧ Allocated after.committed ∧ Allocated after.view :=
  (run_of_replay (perform asciiPrintable) findsHosts addresses stocked oneContainer
    _ (by decide)).imp fun after reached => ⟨reached.1, reached.2,
      addresses_allocated asciiPrintable (Table.empty.insert alpine) .empty oneContainer
        after reached.1⟩

/-- The only host is taken, and `str(None)` is stored for the second container. -/
theorem none_allocated :
    ¬ ∀ printable images volumes operations after,
      Run (perform printable) anyAction (freshConn images volumes) operations after →
      Allocated after.committed ∧ Allocated after.view := by
  intro claimed
  rcases run_of_replay (perform asciiPrintable) anyAction
    (fun after => (v4Subnet after.committed 1, addresses after)) stocked
    twoContainers (some pairNetwork, ["10.9.0.2", "None"]) (by decide) with ⟨after, run, read⟩
  have subnet : v4Subnet after.committed 1 = some pairNetwork := congrArg Prod.fst read
  have texts : usedIps after.committed 1 = ["10.9.0.2", "None"] := congrArg Prod.snd read
  have allocated :=
    (claimed asciiPrintable (Table.empty.insert alpine) .empty twoContainers after run).1
  rcases (allocated 1 pairNetwork subnet).2 "None" (by simp [texts]) with ⟨value, member, _, same⟩
  have texts : ∀ value ∈ pairNetwork.hosts, ipv4Text value ≠ "None" := by decide
  exact texts value member same.symm

end Example

end Dockermock.Database
