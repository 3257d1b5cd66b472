import Dockermock.Dns.Registry

/-!
What the clients of a network see of the names of other networks. All networks
share one tree, so a registration for another network is seen as soon as its
labels begin with those of the network; where none does, the node of the network
is made by its own registrations alone.
-/

namespace Dockermock.Dns

open Library Network

section Histories

def isSubnet : Post → Bool
  | .subnet _ _ => true
  | .dns _ _ _ => false

def naming (network : String) : Post → Bool
  | .dns _ _ other => other = some network
  | .subnet _ _ => false

/-- The histories have the same subnets and the same names for the network. -/
def Agree (network : String) (first second : List Post) : Prop :=
  first.filter isSubnet = second.filter isSubnet ∧
    first.filter (naming network) = second.filter (naming network)

instance (network : String) (first second : List Post) : Decidable (Agree network first second) :=
  inferInstanceAs (Decidable (_ ∧ _))

/-- All that is registered for other networks is allowed. -/
def Within (allowed : String → String → Prop) (network : String) (history : List Post) : Prop :=
  ∀ domain ip other, .dns (some domain) ip (some other) ∈ history → other ≠ network →
    allowed domain other

/-- The name of a domain on another network begins, from its end, with all labels of the network. -/
def Reaches (network domain other : String) : Prop :=
  zoneLabels network <+: rsplitGenerator (dotted domain other)

/-- Clients of the network are given the same addresses after any two histories that agree on it. -/
def Isolated (allowed : String → String → Prop) (network : String) : Prop :=
  ∀ first second, Agree network first second → Within allowed network (first ++ second) →
    ∀ client, (Names.registered first).trie.find client = some network →
      ∀ name, (Names.registered first).hostIp client (name ++ ".") =
        (Names.registered second).hostIp client (name ++ ".")

def NoneReaches (allowed : String → String → Prop) (network : String) : Prop :=
  network ≠ "" → ∀ domain other, domain ≠ "" → other ≠ "" → other ≠ network → allowed domain other →
    ¬ Reaches network domain other

end Histories

section Agreement

theorem given_eq_some_iff (field : Option String) (text : String) :
    given field = some text ↔ field = some text ∧ text ≠ "" := by
  simp [given, Option.filter_eq_some_iff]

theorem trie_of_agree {network : String} {first second : List Post}
    (agree : Agree network first second) :
    (Names.registered first).trie = (Names.registered second).trie := by
  have subnets (history : List Post) :
      history.filterMap Post.route = (history.filter isSubnet).filterMap Post.route := by
    rw [List.filterMap_filter]
    refine List.filterMap_congr fun request _ => ?_
    cases request <;> rfl
  rw [registered_trie, registered_trie, subnets first, subnets second, agree.1]

theorem below_network {allowed : String → String → Prop} {network : String} (named : network ≠ "")
    (apart : NoneReaches allowed network) (history : List Post)
    (within : Within allowed network history) :
    DnsTree.insertsBelow (zoneLabels network) (history.filterMap Post.entry) =
      (history.filter (naming network)).filterMap Post.entry := by
  rw [DnsTree.insertsBelow, List.filter_filterMap, List.filterMap_filter]
  refine List.filterMap_congr fun request member => ?_
  cases request with
  | subnet other net => rfl
  | dns domain ip other =>
      cases made : Post.entry (.dns domain ip other) with
      | none => simp
      | some entry =>
          simp only [Post.entry, Option.bind_eq_some_iff, Option.map_eq_some_iff,
            given_eq_some_iff] at made
          rcases made with ⟨domain, ⟨rfl, domainGiven⟩, ip, ⟨rfl, _⟩, other, ⟨rfl, otherGiven⟩, rfl⟩
          by_cases own : other = network
          · have below : zoneLabels network <+: rsplitGenerator (dotted domain other) := by
              rw [own, rsplitGenerator_dotted]
              exact List.prefix_append _ _
            simp [naming, own, Option.filter, own ▸ below]
          · have outside :=
              apart named domain other domainGiven otherGiven own (within domain _ other member own)
            have missed : (zoneLabels network).isPrefixOf
                (rsplitGenerator (dotted domain other)) = false := by
              rw [← Bool.not_eq_true, List.isPrefixOf_iff_prefix]
              exact outside
            simp [naming, own, Option.filter, missed]

theorem hostIp_of_agree {allowed : String → String → Prop} {network : String}
    (apart : NoneReaches allowed network) {first second : List Post}
    (agree : Agree network first second) (within : Within allowed network (first ++ second))
    (client : IPv4Address) (found : (Names.registered first).trie.find client = some network)
    (name : String) :
    (Names.registered first).hostIp client (name ++ ".") =
        (Names.registered second).hostIp client (name ++ ".") := by
  have same : (Names.registered second).trie.find client = some network :=
    trie_of_agree agree ▸ found
  rw [Names.hostIp, Names.hostIp, found, same]
  by_cases named : network = ""
  · simp [named]
  · have firstWithin : Within allowed network first := fun domain ip other member =>
      within domain ip other (List.mem_append_left _ member)
    have secondWithin : Within allowed network second := fun domain ip other member =>
      within domain ip other (List.mem_append_right _ member)
    have labels := rsplitGenerator_dotted (lower name) network
    have nodes := DnsTree.descend_insertAll (zoneLabels network) (first.filterMap Post.entry)
      (second.filterMap Post.entry) (by
        rw [below_network named apart first firstWithin,
          below_network named apart second secondWithin, agree.2])
    simp only [if_neg named, lower_question, registered_tree]
    rw [DnsTree.collectFrom_append _ _ _ _ labels, DnsTree.collectFrom_append _ _ _ _ labels, nodes]

end Agreement

section Leaks

def lowerHalf : IPv4Network := ⟨0, 1, by decide, by decide, by decide⟩

def lowClient : IPv4Address := ⟨1, by decide⟩

theorem find_lowClient (network : String) :
    (SubnetTrie.insertAll [(network, lowerHalf)]).find lowClient = some network := by
  have longest : SubnetTrie.LongestMatch [(network, lowerHalf)] lowClient lowerHalf :=
    ⟨List.mem_singleton_self _, by decide, by simp⟩
  refine SubnetTrie.find_of_longest _ _ _ longest (by decide) network ?_
  simp [SubnetTrie.byNetwork, latest]

/-- One registration that reaches the network shows itself in the answer for the root. -/
theorem leak_of_reaches {network domain other : String} (named : network ≠ "")
    (domainGiven : domain ≠ "") (otherGiven : other ≠ "") (reaches : Reaches network domain other) :
    (Names.registered [.subnet (some network) (.parsed lowerHalf)]).hostIp lowClient ("" ++ ".") ≠
      (Names.registered [.subnet (some network) (.parsed lowerHalf),
        .dns (some domain) (some "address") (some other)]).hostIp lowClient ("" ++ ".") := by
  have networkRead : given (some network) = some network := (given_eq_some_iff _ _).mpr ⟨rfl, named⟩
  have domainRead : given (some domain) = some domain :=
    (given_eq_some_iff _ _).mpr ⟨rfl, domainGiven⟩
  have otherRead : given (some other) = some other := (given_eq_some_iff _ _).mpr ⟨rfl, otherGiven⟩
  have addressRead : given (some "address") = some "address" := by decide
  rcases reaches with ⟨below, labels⟩
  have shown : "address" ∈ (DnsTree.insertAll [(dotted domain other, "address")]).collectFrom
      (dotted "" network) := by
    rw [DnsTree.mem_collectFrom, rsplitGenerator_dotted]
    refine ⟨below, ?_⟩
    have root : rsplitGenerator "" = [] := rfl
    rw [DnsTree.insert_all_reads_latest, root, List.append_nil, labels]
    simp [DnsTree.labelled, latest]
  intro same
  simp only [Names.hostIp, registered_trie, registered_tree, List.filterMap_cons,
    List.filterMap_nil, Post.route,
    Post.entry, networkRead, domainRead, otherRead, addressRead, Option.map_some, Option.bind_some,
    find_lowClient, if_neg named, lower_question] at same
  have root : lower "" = "" := by decide
  rw [root] at same
  rw [← same, DnsTree.mem_collectFrom] at shown
  rcases shown with ⟨below, read⟩
  rw [DnsTree.insert_all_reads_latest] at read
  simp [DnsTree.labelled] at read

end Leaks

/-- Clients of a network are shielded from the registrations of other networks if and only if none
of these has a name that begins, from its end, with all labels of the network. -/
theorem isolated_iff (allowed : String → String → Prop) (network : String) :
    Isolated allowed network ↔ NoneReaches allowed network := by
  constructor
  · intro isolated named domain other domainGiven otherGiven different permitted reaches
    refine leak_of_reaches named domainGiven otherGiven reaches (isolated _ _ ?_ ?_ lowClient ?_ "")
    · exact ⟨rfl, by simp [naming, different]⟩
    · intro domain' ip other' member foreign
      simp only [List.mem_append, List.mem_cons, List.not_mem_nil, or_false, reduceCtorEq, false_or,
        Post.dns.injEq, Option.some.injEq] at member
      rcases member with ⟨rfl, _, rfl⟩
      exact permitted
    · have read : given (some network) = some network := (given_eq_some_iff _ _).mpr ⟨rfl, named⟩
      simp [registered_trie, Post.route, read, find_lowClient]
  · intro apart first second agree within client found name
    exact hostIp_of_agree apart agree within client found name

section Example

def officeSubnet : IPv4Network := ⟨0x0A000000, 24, by decide, by decide, by decide⟩

def officeClient : IPv4Address := ⟨0x0A000002, by decide⟩

/-- Clients of the network office see the container web of the network lab.office. -/
theorem isolated_not_dotted :
    ¬ ∀ network first second, Agree network first second →
      ∀ client, (Names.registered first).trie.find client = some network →
        ∀ name, (Names.registered first).hostIp client (name ++ ".") =
          (Names.registered second).hostIp client (name ++ ".") := by
  intro claimed
  let office : Post := .subnet (some "office") (.parsed officeSubnet)
  let web : Post := .dns (some "web") (some "10.0.1.2") (some "lab.office")
  have same :=
    claimed "office" [office, web] [office] (by decide) officeClient (by decide +kernel) "lab"
  exact absurd same (by decide +kernel)

end Example

end Dockermock.Dns
