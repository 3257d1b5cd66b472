import Dockermock.Network.Hosts
import Dockermock.Database.Schema
import Dockermock.Dns.Registry

/-!
`register_jail_network` of kqueue_parent.py: the POST requests that the worker
sends for a container, one network after the other, until one of them raises or
is not answered with 201.
-/

namespace Dockermock.Dns

open Library Network Database

/-- A row of get_container_networks. The address is what `ip_interface` reads out of it. -/
structure Attachment where
  driver : String
  network : NetworkRow
  ip : Option IPv4Address
  deriving DecidableEq

def netIf (name : String) : String := if name = "" then "default" else name

/-- The text `subnet/prefix` as the server's `IPv4Network` takes it. -/
def subnetField (row : NetworkRow) : SubnetField :=
  match row.subnet with
  | some (.v4 net) => .parsed net
  | _ => .invalid

def registerNetworks (names : Names) (name : String) : List Attachment → Names
  | [] => names
  | attached :: rest =>
      match attached.ip with
      | none => names
      | some ip =>
          match names.post
              (.subnet (some (netIf attached.network.name)) (subnetField attached.network)) with
          | (.created, routed) =>
              match routed.post
                  (.dns (some name) (some (ipv4Text ip.value))
                      (some (netIf attached.network.name))) with
              | (.created, named) => registerNetworks named name rest
              | (_, named) => named
          | (_, routed) => routed

def registerJailNetwork (names : Names) (name : String) (networks : List Attachment) : Names :=
  match networks.head? with
  | none => names
  | some first => if first.driver = "host" then names else registerNetworks names name networks

/-- One call, for a container with its networks. -/
structure Call where
  container : String
  networks : List Attachment
  deriving DecidableEq

def registerAll (calls : List Call) : Names :=
  calls.foldl (fun names call => registerJailNetwork names call.container call.networks) .empty

section Registrations

/-- A subnet and an address that have both been registered. -/
structure Registration where
  container : String
  network : String
  subnet : IPv4Network
  ip : IPv4Address
  deriving DecidableEq

namespace Registration

def route (registration : Registration) : String × IPv4Network :=
  (netIf registration.network, registration.subnet)

def address (registration : Registration) : String := ipv4Text registration.ip.value

def name (registration : Registration) : String :=
  dotted registration.container (netIf registration.network)

end Registration

def Attachment.registration (container : String) (attached : Attachment) : Option Registration :=
  attached.ip.bind fun ip =>
    match attached.network.subnet with
    | some (.v4 net) => some ⟨container, attached.network.name, net, ip⟩
    | _ => none

/-- The registrations for a container: up to the first network that cannot be registered. -/
def registrationsOf (container : String) : List Attachment → List Registration
  | [] => []
  | attached :: rest =>
      match attached.registration container with
      | none => []
      | some registration => registration :: registrationsOf container rest

def Call.registrations (call : Call) : List Registration :=
  match call.networks.head? with
  | none => []
  | some first => if first.driver = "host" then [] else registrationsOf call.container call.networks

def registrations (calls : List Call) : List Registration := calls.flatMap Call.registrations

/-- What the two POST requests of a registration do. -/
def Names.register (names : Names) (registration : Registration) : Names where
  trie := names.trie.insert registration.route.1 registration.route.2
  tree := names.tree.insert registration.name registration.address

theorem netIf_ne (name : String) : netIf name ≠ "" := by
  rw [netIf]
  split
  · decide
  · assumption

theorem ipv4Text_ne (value : Nat) : ipv4Text value ≠ "" := by
  intro same
  have length := congrArg String.length same
  simp [ipv4Text] at length

theorem given_some {text : String} (present : text ≠ "") : given (some text) = some text := by
  simp [given, Option.filter, present]

theorem registerNetworks_eq (names : Names) {container : String} (named : container ≠ "")
    (networks : List Attachment) :
    registerNetworks names container networks =
        (registrationsOf container networks).foldl Names.register names := by
  induction networks generalizing names with
  | nil => rfl
  | cons attached rest ih =>
      rcases attached with ⟨driver, ⟨network, subnet⟩, ip⟩
      cases ip with
      | none => rfl
      | some ip =>
          have networkGiven := given_some (netIf_ne network)
          have ipGiven := given_some (ipv4Text_ne ip.value)
          rcases subnet with _ | net | net
          · simp [registerNetworks, subnetField, Names.post, Names.addSubnet, networkGiven,
              registrationsOf, Attachment.registration]
          · have both : registerNetworks names container
              (⟨driver, ⟨network, some (.v4 net)⟩, some ip⟩ :: rest) =
                registerNetworks (names.register ⟨container, network, net, ip⟩) container rest := by
              simp [registerNetworks, subnetField, Names.post, Names.addSubnet, Names.addDns,
                networkGiven, ipGiven,
                given_some named, Names.register, Registration.route, Registration.name,
                  Registration.address]
            rw [both, ih]
            rfl
          · simp [registerNetworks, subnetField, Names.post, Names.addSubnet, networkGiven,
              registrationsOf, Attachment.registration]

theorem registerJailNetwork_eq (names : Names) (call : Call) (named : call.container ≠ "") :
    registerJailNetwork names call.container call.networks =
        call.registrations.foldl Names.register names := by
  rw [registerJailNetwork, Call.registrations]
  cases call.networks.head? with
  | none => rfl
  | some first =>
      by_cases host : first.driver = "host"
      · simp [host]
      · simp only [host, if_false]
        exact registerNetworks_eq names named call.networks

theorem registerAll_eq (calls : List Call) (named : ∀ call ∈ calls, call.container ≠ "") :
    registerAll calls = (registrations calls).foldl Names.register .empty := by
  induction calls using List.reverseRecOn with
  | nil => rfl
  | append_singleton earlier call ih =>
      have before := ih fun other member => named other (List.mem_append_left _ member)
      rw [registerAll, List.foldl_append, List.foldl_cons, List.foldl_nil, ← registerAll, before,
        registerJailNetwork_eq _ _ (named call (by simp)), registrations, registrations,
          List.flatMap_append,
        List.foldl_append, List.flatMap_singleton]

theorem register_trie (history : List Registration) :
    (history.foldl Names.register .empty).trie =
        SubnetTrie.insertAll (history.map Registration.route) := by
  induction history using List.reverseRecOn with
  | nil => rfl
  | append_singleton earlier last ih =>
      rw [List.foldl_append, List.foldl_cons, List.foldl_nil, List.map_append, SubnetTrie.insertAll,
        List.foldl_append]
      exact congrArg (fun trie => trie.insert last.route.1 last.route.2) ih

theorem register_tree (history : List Registration) :
    (history.foldl Names.register .empty).tree =
      DnsTree.insertAll (history.map fun registration =>
          (registration.name, registration.address)) := by
  induction history using List.reverseRecOn with
  | nil => rfl
  | append_singleton earlier last ih =>
      rw [List.foldl_append, List.foldl_cons, List.foldl_nil, List.map_append, DnsTree.insertAll,
        List.foldl_append]
      exact congrArg (fun tree => tree.insert last.name last.address) ih

end Registrations

end Dockermock.Dns
