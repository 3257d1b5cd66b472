import Dockermock.Database.Subnets
import Dockermock.Dns.Registration

/-!
From a registration to the answer. The tree keeps a name as the container has
it, the question comes in lower case, and the trie never returns the network of
its root; otherwise only a registration under the same labels takes a name away.
-/

namespace Dockermock.Dns

open Library Network Database

section Property

def lastAddress (calls : List Call) (container network : String) : Option String :=
  latest ((registrations calls).map fun registration =>
    ((registration.container, registration.network), registration.address)) (container, network)

def routes (calls : List Call) : List (String × IPv4Network) :=
  (registrations calls).map Registration.route

/-- Calls for containers on networks of the database, all of them allowed pairs. -/
structure Issued (tables : Tables) (pairs : String → String → Prop) (calls : List Call) : Prop where
  named : ∀ call ∈ calls, call.container ≠ ""
  networks : ∀ call ∈ calls, ∀ attached ∈ call.networks,
    attached.driver ≠ "host" ∧ attached.network ∈ networkRowsOf tables ∧
      pairs call.container attached.network.name

/-- After any such calls the question for the domain is answered with its last address. -/
def Answered (rdata : String → Bool) (tables : Tables) (pairs : String → String → Prop)
    (domain network : String) (net : IPv4Network) : Prop :=
  ∀ calls, Issued tables pairs calls → ∀ address, lastAddress calls domain network = some address →
    ∀ client, SubnetTrie.LongestMatch (routes calls) client net →
      ∀ qname, lower qname = lower (domain ++ ".") →
        ∃ records, resolve rdata (registerAll calls) client "A" qname = .answered records ∧
          address ∈ records.map RR.rdata

/-- The subnet is not 0.0.0.0/0, the name is in lower case, and no other pair has its labels. -/
structure Resolvable (tables : Tables) (pairs : String → String → Prop) (domain network : String)
    (net : IPv4Network) : Prop where
  positive : 1 ≤ net.prefixlen
  lowercase : lower domain = domain
  sole : ∀ container row other, container ≠ "" → row ∈ networkRowsOf tables →
    row.subnet = some (.v4 other) →
    pairs container row.name → (container, row.name) ≠ (domain, network) →
      rsplitGenerator (dotted container (netIf row.name)) ≠
        rsplitGenerator (dotted domain (netIf network))

end Property

section Registered

theorem registrationsOf_source (container : String) (networks : List Attachment)
    (registration : Registration) (member : registration ∈ registrationsOf container networks) :
    ∃ attached ∈ networks, registration.container = container ∧
      attached.network.name = registration.network ∧
      attached.network.subnet = some (.v4 registration.subnet) := by
  induction networks with
  | nil => cases member
  | cons attached rest ih =>
      rw [registrationsOf] at member
      cases made : attached.registration container with
      | none =>
          rw [made] at member
          cases member
      | some first =>
          rw [made] at member
          rcases List.mem_cons.mp member with rfl | later
          · rcases Option.bind_eq_some_iff.mp made with ⟨ip, _, given⟩
            split at given
            · rename_i net v4
              cases given
              exact ⟨attached, List.mem_cons_self, rfl, rfl, v4⟩
            · cases given
          · rcases ih later with ⟨source, listed, facts⟩
            exact ⟨source, List.mem_cons_of_mem _ listed, facts⟩

/-- Every registration comes from an allowed pair and has the subnet of its network. -/
theorem Issued.source {tables : Tables} {pairs : String → String → Prop} {calls : List Call}
    (issued : Issued tables pairs calls) (registration : Registration)
    (member : registration ∈ registrations calls) :
    registration.container ≠ "" ∧ pairs registration.container registration.network ∧
      ⟨registration.network, some (.v4 registration.subnet)⟩ ∈ networkRowsOf tables := by
  rcases List.mem_flatMap.mp member with ⟨call, listed, made⟩
  rw [Call.registrations] at made
  split at made
  · cases made
  · split at made
    · cases made
    · rcases registrationsOf_source _ _ _ made with ⟨attached, among, container, name, subnet⟩
      rcases issued.networks call listed attached among with ⟨_, row, pair⟩
      rw [container]
      refine ⟨issued.named call listed, name ▸ pair, ?_⟩
      rcases attached with ⟨driver, ⟨network, subnets⟩, ip⟩
      cases name
      cases subnet
      exact row

theorem readAt_registerAll (calls : List Call) (named : ∀ call ∈ calls, call.container ≠ "")
    (path : List String) : DnsTreeNode.readAt path (registerAll calls).tree.root =
      latest ((registrations calls).map fun registration =>
        (rsplitGenerator registration.name, registration.address)) path := by
  rw [registerAll_eq calls named, register_tree, DnsTree.insert_all_reads_latest,
    DnsTree.labelled, List.map_map]
  rfl

theorem find_registerAll (calls : List Call) (named : ∀ call ∈ calls, call.container ≠ "")
    (client : IPv4Address) :
    (registerAll calls).trie.find client = (SubnetTrie.insertAll (routes calls)).find client := by
  rw [registerAll_eq calls named, register_trie, routes]

theorem hostIp_registerAll (calls : List Call) (named : ∀ call ∈ calls, call.container ≠ "")
    (client : IPv4Address) (network : String)
    (found : (SubnetTrie.insertAll (routes calls)).find client = some (netIf network))
    (qname domain : String) (asked : lower qname = lower (domain ++ ".")) :
    (registerAll calls).hostIp client qname =
      (registerAll calls).tree.collectFrom (dotted (lower domain) (netIf network)) := by
  rw [Names.hostIp, find_registerAll calls named, found]
  simp only [if_neg (netIf_ne network)]
  rw [asked, lower_question]

end Registered

section Sufficient

theorem route_of_subnet {tables : Tables} (laid : Laid tables) {pairs : String → String → Prop}
    {calls : List Call} (issued : Issued tables pairs calls) {network : String} {net : IPv4Network}
    (row : (⟨network, some (.v4 net)⟩ : NetworkRow) ∈ networkRowsOf tables) (name : String)
    (stored : latest (SubnetTrie.byNetwork (routes calls)) net = some name) :
    name = netIf network := by
  have written := mem_of_latest _ _ _ stored
  rw [SubnetTrie.byNetwork, routes, List.map_map] at written
  rcases List.mem_map.mp written with ⟨registration, member, same⟩
  cases same
  rcases issued.source registration member with ⟨_, _, other⟩
  exact congrArg (fun row => netIf row.name) (List.inj_on_of_nodup_map laid.subnets other row rfl)

theorem find_of_resolvable {tables : Tables} (laid : Laid tables) {pairs : String → String → Prop}
    {calls : List Call} (issued : Issued tables pairs calls) {network : String} {net : IPv4Network}
    (row : (⟨network, some (.v4 net)⟩ : NetworkRow) ∈ networkRowsOf tables)
    (positive : 1 ≤ net.prefixlen) (client : IPv4Address)
    (longest : SubnetTrie.LongestMatch (routes calls) client net) :
    (SubnetTrie.insertAll (routes calls)).find client = some (netIf network) := by
  rcases (SubnetTrie.mem_networks_iff (routes calls) net).mp longest.1 with ⟨name, stored⟩
  rw [route_of_subnet laid issued row name stored] at stored
  exact SubnetTrie.find_of_longest _ client net longest positive _ stored

theorem read_of_sole {tables : Tables} {pairs : String → String → Prop} {calls : List Call}
    (issued : Issued tables pairs calls) {domain network : String} {net : IPv4Network}
    (resolvable : Resolvable tables pairs domain network net) {address : String}
    (last : lastAddress calls domain network = some address) :
    DnsTreeNode.readAt (rsplitGenerator (dotted domain (netIf network)))
      (registerAll calls).tree.root = some address := by
  let labels : String × String → List String :=
    fun pair => rsplitGenerator (dotted pair.1 (netIf pair.2))
  have renamed := latest_rename labels ((registrations calls).map fun registration =>
      ((registration.container, registration.network), registration.address)) (domain, network) (by
    intro written member same
    by_contra other
    rw [List.map_map] at member
    rcases List.mem_map.mp member with ⟨registration, listed, rfl⟩
    rcases issued.source registration listed with ⟨named, pair, row⟩
    exact resolvable.sole registration.container _ registration.subnet named row rfl
      pair other same)
  rw [List.map_map] at renamed
  rw [readAt_registerAll calls issued.named]
  exact renamed.trans last

theorem answered_of_resolvable {rdata : String → Bool}
    (texts : ∀ ip : IPv4Address, rdata (ipv4Text ip.value) = true) {tables : Tables}
    (laid : Laid tables) {pairs : String → String → Prop} {domain network : String}
    {net : IPv4Network} (row : (⟨network, some (.v4 net)⟩ : NetworkRow) ∈ networkRowsOf tables)
    (resolvable : Resolvable tables pairs domain network net) :
    Answered rdata tables pairs domain network net := by
  intro calls issued address last client longest qname asked
  have found := find_of_resolvable laid issued row resolvable.positive client longest
  have ips := hostIp_registerAll calls issued.named client network found qname domain asked
  rw [resolvable.lowercase] at ips
  have member : address ∈ (registerAll calls).hostIp client qname := by
    rw [ips, DnsTree.mem_collectFrom]
    exact ⟨[], by rw [List.append_nil]; exact read_of_sole issued resolvable last⟩
  -- Whatever else is listed was registered too, so no text makes the A record raise.
  have accepted : ((registerAll calls).hostIp client qname).all rdata = true := by
    refine List.all_eq_true.mpr fun text listed => ?_
    rw [ips, DnsTree.mem_collectFrom] at listed
    rcases listed with ⟨below, read⟩
    rw [readAt_registerAll calls issued.named] at read
    rcases List.mem_map.mp (mem_of_latest _ _ _ read) with ⟨registration, _, same⟩
    have source : registration.address = text := congrArg Prod.snd same
    rw [← source]
    exact texts registration.ip
  rw [resolve, if_pos rfl]
  cases listed : (registerAll calls).hostIp client qname with
  | nil => simp [listed] at member
  | cons first rest =>
      rw [listed] at accepted member
      simp only [accepted, if_true]
      exact ⟨_, rfl, by simpa [List.map_map, Function.comp_def] using member⟩

end Sufficient

section Necessary

theorem toLower_eq_dot_iff (char : Char) : char.toLower = '.' ↔ char = '.' := by
  constructor
  · intro same
    unfold Char.toLower at same
    split at same
    · rename_i upper
      have value : (char.val + 32).toNat = 46 := congrArg (fun char => char.val.toNat) same
      have lowest : 65 ≤ char.val.toNat := UInt32.le_iff_toNat_le.mp upper.1
      have highest : char.val.toNat ≤ 90 := UInt32.le_iff_toNat_le.mp upper.2
      rw [UInt32.toNat_add] at value
      have shift : (32 : UInt32).toNat = 32 := rfl
      omega
    · exact same
  · rintro rfl
    rfl

theorem dot_mem_lower_iff (chars : List Char) : '.' ∈ chars.map Char.toLower ↔ '.' ∈ chars := by
  simp [toLower_eq_dot_iff]

theorem lower_of_labels (chars : List Char) (below : List String)
    (same : labelsOf (chars.map Char.toLower) ++ below = labelsOf chars) :
    below = [] ∧ chars.map Char.toLower = chars := by
  induction size : chars.length using Nat.strongRecOn generalizing chars with
  | _ count ih =>
      -- the last label is cut off, and the rest is shorter
      by_cases dot : '.' ∈ chars
      · rcases cut_at_last chars dot with ⟨front, label, free, rfl⟩
        have lowerFree : '.' ∉ label.map Char.toLower :=
          fun member => free ((dot_mem_lower_iff label).mp member)
        have mapped : (front ++ '.' :: label).map Char.toLower =
            front.map Char.toLower ++ '.' :: label.map Char.toLower := by
          rw [List.map_append, List.map_cons]
          rfl
        rw [mapped, labelsOf_label _ _ lowerFree, labelsOf_label _ _ free, List.cons_append,
          List.cons.injEq] at same
        have shorter : front.length < count := by
          rw [← size]
          simp
        rcases ih front.length shorter front same.2 rfl with ⟨nothing, kept⟩
        refine ⟨nothing, ?_⟩
        rw [mapped, kept, String.ofList_injective same.1]
      · have lowerFree : '.' ∉ chars.map Char.toLower :=
          fun member => dot ((dot_mem_lower_iff chars).mp member)
        by_cases empty : chars = []
        · subst empty
          exact ⟨same, rfl⟩
        · rw [labelsOf_free _ lowerFree (by simpa using empty), labelsOf_free _ dot empty,
            List.singleton_append, List.cons.injEq] at same
          exact ⟨same.2, String.ofList_injective same.1⟩

def callOf (registration : Registration) : Call :=
  ⟨registration.container,
    [⟨"bridge", ⟨registration.network, some (.v4 registration.subnet)⟩, some registration.ip⟩]⟩

theorem registrations_callOf (made : List Registration) :
    registrations (made.map callOf) = made := by
  induction made with
  | nil => rfl
  | cons first rest ih =>
      have one : (callOf first).registrations = [first] := rfl
      rw [List.map_cons, registrations, List.flatMap_cons, ← registrations, ih, one,
        List.singleton_append]

theorem issued_callOf {tables : Tables} {pairs : String → String → Prop} (made : List Registration)
    (sound : ∀ registration ∈ made,
      registration.container ≠ "" ∧
        (⟨registration.network, some (.v4 registration.subnet)⟩ : NetworkRow) ∈
          networkRowsOf tables ∧ pairs registration.container registration.network) :
    Issued tables pairs (made.map callOf) := by
  constructor
  · intro call member
    rcases List.mem_map.mp member with ⟨registration, listed, rfl⟩
    exact (sound registration listed).1
  · intro call member attached among
    rcases List.mem_map.mp member with ⟨registration, listed, rfl⟩
    rw [List.mem_singleton.mp among]
    have bridged : "bridge" ≠ "host" := by decide
    exact ⟨bridged, (sound registration listed).2⟩

theorem answered_hostIp {rdata : String → Bool} {names : Names} {client : IPv4Address}
    {qname : String} {records : List RR}
    (answer : resolve rdata names client "A" qname = .answered records) :
    records.map RR.rdata = names.hostIp client qname := by
  rw [resolve, if_pos rfl] at answer
  split at answer
  · cases answer
  · split at answer
    · cases answer
      simp [List.map_map, Function.comp_def]
    · cases answer

theorem exists_client (net other : IPv4Network) :
    ∃ client : IPv4Address, net.Contains client.value ∧
      (other.Contains client.value → other.prefixlen ≤ net.prefixlen) := by
  have positive := net.numAddresses_pos
  by_cases first : other.Contains net.networkAddress
  · refine ⟨⟨net.broadcast, net.broadcast_lt⟩, ⟨Nat.le_add_right _ _, Nat.le_refl _⟩,
      fun last => ?_⟩
    -- A network with both ends of this one is at least as large.
    have larger : net.numAddresses ≤ other.numAddresses := by
      have low := first.1
      have high := last.2
      have otherPositive := other.numAddresses_pos
      simp only [IPv4Network.broadcast] at high
      omega
    have exponents : 32 - net.prefixlen ≤ 32 - other.prefixlen :=
      (Nat.pow_le_pow_iff_right (Nat.le_refl 2)).mp larger
    have bound := net.prefix_le
    have otherBound := other.prefix_le
    omega
  · refine ⟨⟨net.networkAddress, net.address_lt⟩, ⟨Nat.le_refl _, Nat.le_add_right _ _⟩,
      fun inside => ?_⟩
    exact absurd inside first

section OneRegistration

variable {rdata : String → Bool} {tables : Tables} {pairs : String → String → Prop}
  {domain network : String} {net : IPv4Network}

/-- What an answer after given registrations says. -/
theorem read_of_answered (answered : Answered rdata tables pairs domain network net)
    (named : domain ≠ "") (row : (⟨network, some (.v4 net)⟩ : NetworkRow) ∈ networkRowsOf tables)
    (pair : pairs domain network) (ip : IPv4Address) (later : List Registration)
    (sound : ∀ registration ∈ later,
      registration.container ≠ "" ∧
        (⟨registration.network, some (.v4 registration.subnet)⟩ : NetworkRow) ∈
          networkRowsOf tables ∧ pairs registration.container registration.network)
    (others : ∀ registration ∈ later,
      (registration.container, registration.network) ≠ (domain, network))
    (client : IPv4Address)
    (longest : SubnetTrie.LongestMatch
      ((⟨domain, network, net, ip⟩ :: later).map Registration.route) client net) :
    ipv4Text ip.value ∈
      (registerAll ((⟨domain, network, net, ip⟩ :: later).map callOf)).hostIp client
          (domain ++ ".") := by
  let made : List Registration := ⟨domain, network, net, ip⟩ :: later
  have issued : Issued tables pairs (made.map callOf) := by
    apply issued_callOf
    intro registration member
    rcases List.mem_cons.mp member with rfl | after
    · exact ⟨named, row, pair⟩
    · exact sound registration after
  -- no later registration is for the pair, so that the first address is its last
  have last : lastAddress (made.map callOf) domain network = some (ipv4Text ip.value) := by
    rw [lastAddress, registrations_callOf, List.map_cons]
    exact latest_of_first _ _ _ (List.forall_mem_map.mpr others)
  have matched : SubnetTrie.LongestMatch (routes (made.map callOf)) client net := by
    rw [routes, registrations_callOf]
    exact longest
  rcases answered _ issued _ last client matched (domain ++ ".") rfl with ⟨records, answer, member⟩
  rw [answered_hostIp answer] at member
  exact member

theorem positive_of_answered (answered : Answered rdata tables pairs domain network net)
    (named : domain ≠ "") (row : (⟨network, some (.v4 net)⟩ : NetworkRow) ∈ networkRowsOf tables)
    (pair : pairs domain network) :
    1 ≤ net.prefixlen ∧ lower domain = domain := by
  let client : IPv4Address := ⟨net.networkAddress, net.address_lt⟩
  let first : Registration := ⟨domain, network, net, client⟩
  have longest : SubnetTrie.LongestMatch ([first].map Registration.route) client net := by
    refine ⟨by simp [first, Registration.route], ⟨Nat.le_refl _, Nat.le_add_right _ _⟩, ?_⟩
    simp [first, Registration.route]
  have member := read_of_answered answered named row pair client [] (List.forall_mem_nil _)
    (List.forall_mem_nil _) client longest
  have calls : ∀ call ∈ [first].map callOf, call.container ≠ "" := by
    simpa [callOf, first] using named
  have routed : routes ([first].map callOf) = [(netIf network, net)] := by
    rw [routes, registrations_callOf]
    rfl
  have positive : 1 ≤ net.prefixlen := by
    by_contra short
    have none := SubnetTrie.find_none_of_root [(netIf network, net)] client (by simp; omega)
    rw [Names.hostIp, find_registerAll _ calls, routed, none] at member
    cases member
  refine ⟨positive, ?_⟩
  have found : (SubnetTrie.insertAll (routes ([first].map callOf))).find client =
      some (netIf network) := by
    rw [routed]
    rw [← registrations_callOf [first], ← routes, routed] at longest
    exact SubnetTrie.find_of_longest _ _ _ longest positive _ (by
      simp [SubnetTrie.byNetwork, latest])
  rw [hostIp_registerAll _ calls client network found _ _ rfl, DnsTree.mem_collectFrom] at member
  rcases member with ⟨below, read⟩
  -- The one registration is the only name there is, so the question's labels are a front part of
  -- its own.
  rw [readAt_registerAll _ calls, registrations_callOf] at read
  have written := mem_of_latest _ _ _ read
  rw [List.map_singleton, List.mem_singleton, Prod.mk.injEq] at written
  have labels := written.1
  rw [Registration.name, rsplitGenerator_dotted, rsplitGenerator_dotted,
    List.append_assoc] at labels
  have same : labelsOf (domain.toList.map Char.toLower) ++ below = labelsOf domain.toList := by
    have cancelled : labelsOf (lower domain).toList ++ below = labelsOf domain.toList :=
      List.append_cancel_left labels
    rwa [lower, String.toList_ofList] at cancelled
  rw [lower, (lower_of_labels domain.toList below same).2, String.ofList_toList]

theorem sole_of_answered (laid : Laid tables)
    (answered : Answered rdata tables pairs domain network net) (named : domain ≠ "")
    (row : (⟨network, some (.v4 net)⟩ : NetworkRow) ∈ networkRowsOf tables)
    (pair : pairs domain network) (container : String) (otherRow : NetworkRow) (other : IPv4Network)
    (otherNamed : container ≠ "") (listed : otherRow ∈ networkRowsOf tables)
    (v4 : otherRow.subnet = some (.v4 other)) (allowed : pairs container otherRow.name)
    (different : (container, otherRow.name) ≠ (domain, network))
    (same : rsplitGenerator (dotted container (netIf otherRow.name)) =
      rsplitGenerator (dotted domain (netIf network))) : False := by
  -- The address 1 is registered over the address 0, and the answer should still have 0.
  rcases exists_client net other with ⟨client, inside, shorter⟩
  let first : Registration := ⟨domain, network, net, ⟨0, by decide⟩⟩
  let second : Registration := ⟨container, otherRow.name, other, ⟨1, by decide⟩⟩
  have longest : SubnetTrie.LongestMatch ([first, second].map Registration.route) client net := by
    refine ⟨by simp [first, Registration.route], inside, ?_⟩
    simpa [first, second, Registration.route] using shorter
  have secondRow : (⟨otherRow.name, some (.v4 other)⟩ : NetworkRow) ∈ networkRowsOf tables := by
    rw [← v4]
    exact listed
  have member := read_of_answered answered named row pair ⟨0, by decide⟩ [second]
    (by simpa [second] using ⟨otherNamed, secondRow, allowed⟩) (by simpa [second] using different)
      client longest
  rcases positive_of_answered answered named row pair with ⟨positive, lowercase⟩
  have issued : Issued tables pairs ([first, second].map callOf) := by
    apply issued_callOf
    intro registration among
    rcases List.mem_cons.mp among with rfl | after
    · exact ⟨named, row, pair⟩
    · rw [List.mem_singleton.mp after]
      exact ⟨otherNamed, secondRow, allowed⟩
  have found : (SubnetTrie.insertAll (routes ([first, second].map callOf))).find client =
      some (netIf network) := by
    rw [← registrations_callOf [first, second], ← routes] at longest
    exact find_of_resolvable laid issued row positive client longest
  rw [hostIp_registerAll _ issued.named client network found _ _ rfl, lowercase,
    DnsTree.mem_collectFrom] at member
  rcases member with ⟨below, read⟩
  rw [readAt_registerAll _ issued.named, registrations_callOf] at read
  have apart : ipv4Text 0 ≠ ipv4Text 1 := fun equal =>
    absurd (ipv4Text_injective 0 1 (by decide) (by decide) equal) (by decide)
  have written := mem_of_latest _ _ _ read
  simp only [List.map_cons, List.map_nil, List.mem_cons, List.not_mem_nil, or_false,
    Prod.mk.injEq] at written
  rcases written with ⟨path, _⟩ | ⟨_, late⟩
  · rw [path] at read
    have replaced : latest ([first, second].map fun registration =>
        (rsplitGenerator registration.name, registration.address)) (rsplitGenerator first.name) =
          some (ipv4Text 1) := by
      have labels : rsplitGenerator first.name = rsplitGenerator second.name := same.symm
      simp [latest, labels, second, Registration.address]
    rw [replaced] at read
    exact apart (Option.some.inj read).symm
  · exact apart late

end OneRegistration

end Necessary

/-- With the networks of any run of create_network, the question for a container is answered with
its last address after every history if and only if the subnet has a prefix, the name is in lower
case and no other pair that is registered has its labels. -/
theorem answered_iff_resolvable (rdata : String → Bool)
    (texts : ∀ ip : IPv4Address, rdata (ipv4Text ip.value) = true) (printable : Char → Bool)
    (images : Table ImageRow) (volumes : Table VolumeRow) (creations : List Creation) (conn : Conn)
    (run : Run (create printable) anyAction (freshConn images volumes) creations conn)
    (pairs : String → String → Prop) (domain network : String) (net : IPv4Network)
    (named : domain ≠ "") (row : (⟨network, some (.v4 net)⟩ : NetworkRow) ∈ networkRowsOf conn.view)
    (pair : pairs domain network) :
    Answered rdata conn.view pairs domain network net ↔
        Resolvable conn.view pairs domain network net := by
  have laid := (laid_of_run printable images volumes creations conn run).2
  constructor
  · intro answered
    rcases positive_of_answered answered named row pair with ⟨positive, lowercase⟩
    refine ⟨positive, lowercase,
      fun container otherRow other otherNamed listed v4 allowed different same => ?_⟩
    exact sole_of_answered laid answered named row pair container otherRow other otherNamed
      listed v4 allowed different same
  · exact answered_of_resolvable texts laid row

section Example

theorem frontNet_strict : Strict 0x0A000000 24 := ⟨by decide, by decide, by decide⟩

def frontNet : IPv4Network := .strict frontNet_strict

def frontRow : NetworkRow := ⟨"front", some (.v4 frontNet)⟩

def frontOnly : List Creation := [⟨some "front", .parsed (.v4 frontNet), none⟩]

theorem frontOnly_run :
    ∃ after, Run (create asciiPrintable) anyAction (freshConn .empty .empty) frontOnly after ∧
    networkRowsOf after.view = [frontRow] :=
  run_of_replay (create asciiPrintable) anyAction (fun conn => networkRowsOf conn.view)
    _ _ _ (by decide)

theorem answered_web :
    ∃ after, Run (create asciiPrintable) anyAction (freshConn .empty .empty) frontOnly after ∧
    (Answered (fun _ => true) after.view
      (fun container network => (container, network) = ("web", "front"))
        "web" "front" frontNet ↔
      Resolvable after.view (fun container network => (container, network) = ("web", "front")) "web"
          "front" frontNet) :=
  frontOnly_run.imp fun after reached =>
    ⟨reached.1, answered_iff_resolvable (fun _ => true) (fun _ => rfl) asciiPrintable .empty .empty
      frontOnly after reached.1 _
      "web" "front" frontNet (by decide)
        (by rw [reached.2]; exact List.mem_singleton_self frontRow) rfl⟩

/-- A container Web is registered as Web, and asked for as web. -/
theorem capital_name_unanswered :
    ¬ ∀ rdata : String → Bool, (∀ ip : IPv4Address, rdata (ipv4Text ip.value) = true) →
      ∀ printable images volumes creations conn,
        Run (create printable) anyAction (freshConn images volumes) creations conn →
        ∀ (pairs : String → String → Prop) (domain network : String) (net : IPv4Network),
          domain ≠ "" → ⟨network, some (.v4 net)⟩ ∈ networkRowsOf conn.view →
            Answered rdata conn.view pairs domain network net := by
  intro claimed
  rcases frontOnly_run with ⟨after, run, rows⟩
  let web : Call := ⟨"Web", [⟨"bridge", frontRow, some ⟨0x0A000002, by decide⟩⟩]⟩
  have row : frontRow ∈ networkRowsOf after.view := by
    rw [rows]
    exact List.mem_singleton_self frontRow
  have issued : Issued after.view (fun _ _ => True) [web] := by
    constructor
    · intro call member
      rw [List.mem_singleton.mp member]
      decide
    · intro call member attached among
      rw [List.mem_singleton.mp member] at among
      rw [List.mem_singleton.mp among]
      exact ⟨by decide, row, trivial⟩
  have answered :=
    claimed (fun _ => true) (fun _ => rfl) _ _ _ _ after run
      (fun _ _ => True) "Web" "front" frontNet
    (by decide) row [web] issued "10.0.0.2" (by decide +kernel) ⟨0x0A000003, by decide⟩
    (by unfold SubnetTrie.LongestMatch; decide +kernel) "wEb." (by decide +kernel)
  have forwarded : resolve (fun _ => true) (registerAll [web]) ⟨0x0A000003, by decide⟩ "A" "wEb." =
      .forwarded := by
    decide +kernel
  rcases answered with ⟨records, answer, _⟩
  rw [forwarded] at answer
  cases answer

end Example

end Dockermock.Dns
