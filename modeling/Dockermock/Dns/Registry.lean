import Dockermock.Library.Text
import Dockermock.Dns.Labels
import Dockermock.Dns.SubnetTrie

/-!
The naming state of server.py: the handlers of POST /dns and POST /subnet, and
`DynamicResolver.resolve` up to its forwarders. dnslib gives a question's name
as an ASCII string with a dot at its end.
-/

namespace Dockermock.Dns

open Library Network

structure Names where
  trie : SubnetTrie String
  tree : DnsTree String

/-- The subnet field of POST /subnet, by what `IPv4Network` makes of it. -/
inductive SubnetField where
  | absent
  | invalid
  | parsed (subnet : IPv4Network)
  deriving DecidableEq

inductive Post where
  | dns (domain ip network : Option String)
  | subnet (network : Option String) (subnet : SubnetField)
  deriving DecidableEq

/-- The statuses 201 and 400, and 500 for an exception. -/
inductive Response where
  | created | refused | raised
  deriving DecidableEq, Repr

/-- `None` and the empty string are both refused. -/
def given (field : Option String) : Option String := field.filter fun text => text ≠ ""

namespace Names

def empty : Names := ⟨.empty, .empty⟩

def addDns (names : Names) (domain ip network : Option String) : Response × Names :=
  match given domain, given ip, given network with
  | some domain, some ip, some network =>
      (.created, { names with tree := names.tree.insert (dotted domain network) ip })
  | _, _, _ => (.refused, names)

def addSubnet (names : Names) (network : Option String) (subnet : SubnetField) : Response × Names :=
  match given network with
  | none => (.refused, names)
  | some network =>
      match subnet with
      | .absent => (.refused, names)
      | .invalid => (.raised, names)
      | .parsed net => (.created, { names with trie := names.trie.insert network net })

def post (names : Names) : Post → Response × Names
  | .dns domain ip network => names.addDns domain ip network
  | .subnet network subnet => names.addSubnet network subnet

def registered (history : List Post) : Names :=
  history.foldl (fun names request => (names.post request).2) empty

def hostIp (names : Names) (client : IPv4Address) (qname : String) : List String :=
  match names.trie.find client with
  | none => []
  | some network => if network = "" then [] else names.tree.collectFrom (lower qname ++ network)

end Names

structure RR where
  rname : String
  rdata : String
  ttl : Nat
  deriving DecidableEq, Repr

inductive Resolution where
  | answered (records : List RR)
  | raised
  | forwarded
  deriving DecidableEq, Repr

/-- resolve as far as the forwarders. `rdata` says of which texts dnslib makes an A record. -/
def resolve (rdata : String → Bool) (names : Names) (client : IPv4Address) (qtype qname : String) :
    Resolution :=
  if qtype = "A" then
    match names.hostIp client qname with
    | [] => .forwarded
    | ips => if ips.all rdata then .answered (ips.map fun ip => ⟨lower qname, ip, 300⟩) else .raised
  else .forwarded

section Histories

def Post.route : Post → Option (String × IPv4Network)
  | .subnet network (.parsed net) => (given network).map fun network => (network, net)
  | _ => none

def Post.entry : Post → Option (String × String)
  | .dns domain ip network =>
      (given domain).bind fun domain => (given ip).bind fun ip => (given network).map fun network =>
        (dotted domain network, ip)
  | _ => none

theorem post_trie (names : Names) (request : Post) :
    (names.post request).2.trie = request.route.elim names.trie fun route =>
        names.trie.insert route.1 route.2 := by
  cases request with
  | dns domain ip network =>
      rw [Names.post, Names.addDns]
      split <;> rfl
  | subnet network subnet =>
      rw [Names.post, Names.addSubnet]
      cases found : given network <;> cases subnet <;> simp [Post.route, found]

theorem post_tree (names : Names) (request : Post) :
    (names.post request).2.tree = request.entry.elim names.tree fun entry =>
        names.tree.insert entry.1 entry.2 := by
  cases request with
  | dns domain ip network =>
      rw [Names.post, Names.addDns, Post.entry]
      cases given domain with
      | none => rfl
      | some domain =>
          cases given ip with
          | none => rfl
          | some ip => cases given network <;> rfl
  | subnet network subnet =>
      rw [Names.post, Names.addSubnet]
      cases given network <;> cases subnet <;> rfl

theorem registered_trie (history : List Post) :
    (Names.registered history).trie = SubnetTrie.insertAll (history.filterMap Post.route) := by
  induction history using List.reverseRecOn with
  | nil => rfl
  | append_singleton earlier request ih =>
      rw [Names.registered, List.foldl_append, List.foldl_cons, List.foldl_nil, post_trie,
        List.filterMap_append]
      cases found : request.route with
      | none => simpa [found, Names.registered] using ih
      | some route =>
          simp only [List.filterMap_cons, found, List.filterMap_nil, Option.elim_some,
            SubnetTrie.insertAll, List.foldl_append, List.foldl_cons, List.foldl_nil]
          exact congrArg (fun trie => trie.insert route.1 route.2) ih

theorem registered_tree (history : List Post) :
    (Names.registered history).tree = DnsTree.insertAll (history.filterMap Post.entry) := by
  induction history using List.reverseRecOn with
  | nil => rfl
  | append_singleton earlier request ih =>
      rw [Names.registered, List.foldl_append, List.foldl_cons, List.foldl_nil, post_tree,
        List.filterMap_append]
      cases found : request.entry with
      | none => simpa [found, Names.registered] using ih
      | some entry =>
          simp only [List.filterMap_cons, found, List.filterMap_nil, Option.elim_some,
            DnsTree.insertAll, List.foldl_append, List.foldl_cons, List.foldl_nil]
          exact congrArg (fun tree => tree.insert entry.1 entry.2) ih

end Histories

theorem lower_question (name network : String) :
    lower (name ++ ".") ++ network = dotted (lower name) network := by
  apply String.toList_injective
  simp [dotted, lower]

end Dockermock.Dns
