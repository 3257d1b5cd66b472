import Dockermock.Network.Parsing
import Dockermock.Jail.Release

/-!
The epairs of a jail and the addresses they get. create_jail makes an epair for
each network with driver bridge and notes them in a list; setup_network, in the
child, looks for the epair of a network at the network's own position.
-/

namespace Dockermock.Jail.Interfaces

open Dockermock.Network

/-- The `ipaddress` module on texts that are no IPv4. -/
structure Ipv6 where
  network : String → Option IPv6Network
  interface : String → Option (String × String)
  text : Nat → String

/-- An entry of the networks: its driver with what create_epair_up meets, and the columns
that setup_network reads. -/
structure NetworkEntry where
  network : Jail.Network
  ip : Option String
  prefixlen : Option Nat
  subnet : Option String
  deriving DecidableEq, Repr

def NetworkEntry.isBridge (entry : NetworkEntry) : Bool := entry.network.driver = some "bridge"

def NetworkEntry.prefixText (entry : NetworkEntry) : String :=
  (entry.prefixlen.map toString).getD "None"

/-- `str(net.ip)` and `str(net.network.netmask)` of `ip_interface(..)` -/
def ipInterface (ipv6 : Ipv6) (text : String) : Option (String × String) :=
  match ipv4Interface text with
  | some (value, prefixlen) => some (ipv4Text value, netmaskText prefixlen)
  | none => ipv6.interface text

/-- The address of the network, nothing where `ip_interface` raises or there is no text for it. -/
def NetworkEntry.address (ipv6 : Ipv6) (entry : NetworkEntry) : Option (String × String) :=
  entry.ip.bind fun ip => ipInterface ipv6 (ip ++ "/" ++ entry.prefixText)

def hostText (ipv6 : Ipv6) : IpNetwork → Nat → String
  | .v4 _, value => ipv4Text value
  | .v6 _, value => ipv6.text value

/-- `str(next(ip_network(subnet).hosts()))`, nothing where it raises -/
def firstHost (ipv6 : Ipv6) (subnet : String) : Option String :=
  (ipNetwork ipv6.network subnet).bind fun net => net.hostIter.bind fun hosts =>
    hosts.head?.map (hostText ipv6 net)

/-- The nameserver that a network adds, if it has a subnet; nothing where that raises. -/
def NetworkEntry.nameserver (ipv6 : Ipv6) (entry : NetworkEntry) : Option (Option String) :=
  match entry.subnet with
  | none => some none
  | some subnet =>
      if subnet = "" then some none
        else (firstHost ipv6 (subnet ++ "/" ++ entry.prefixText)).map some

inductive Ended where
  | finished | indexError | raised
  deriving DecidableEq, Repr

/-- The calls of set_if_address, the nameservers collected, and how the loop has ended. -/
structure Setup where
  assigned : List (String × String × String)
  nameservers : List String
  ended : Ended
  deriving DecidableEq, Repr

/-- `for i, network in enumerate(networks)` -/
def setupLoop (ipv6 : Ipv6) (epair : List String) : Nat → List NetworkEntry → Setup
  | _, [] => ⟨[], [], .finished⟩
  | i, entry :: rest =>
      if entry.isBridge then
        match entry.address ipv6 with
        | none => ⟨[], [], .raised⟩
        | some address =>
            match epair[i]? with
            | none => ⟨[], [], .indexError⟩
            | some name =>
                match entry.nameserver ipv6 with
                | none => ⟨[(name, address)], [], .raised⟩
                | some host =>
                    let later := setupLoop ipv6 epair (i + 1) rest
                    ⟨(name, address) :: later.assigned,
                      host.toList ++ later.nameservers, later.ended⟩
      else setupLoop ipv6 epair (i + 1) rest

/-- setup_network; the nameservers are those it writes to resolv.conf. -/
def setupNetwork (ipv6 : Ipv6) (epair : List String) (networks : List NetworkEntry) : Setup :=
  match networks with
  | [] => ⟨[], [], .finished⟩
  | first :: rest =>
      match first.network.driver with
      | none => ⟨[], [], .raised⟩
      | some driver =>
          if driver = "host" then ⟨[], [], .finished⟩
          else
            let setup := setupLoop ipv6 epair 0 (first :: rest)
            if setup.nameservers = [] then
              { setup with nameservers := ["8.8.8.8", "1.1.1.1"] }
            else setup

def bridges (networks : List NetworkEntry) : List NetworkEntry :=
  networks.filter NetworkEntry.isBridge

def NetworkEntry.epair (entry : NetworkEntry) : String := entry.network.epair.getD ""

/-- Each network with driver bridge has its address assigned to its own epair, in turn. -/
def Assigns (ipv6 : Ipv6) (entries : List NetworkEntry)
    (assigned : List (String × String × String)) : Prop :=
  List.Forall₂ (fun entry call => entry.address ipv6 = some call.2 ∧ call.1 = entry.epair)
    (bridges entries) assigned

structure Wired (ipv6 : Ipv6) (networks : List NetworkEntry) (setup : Setup) : Prop where
  assigns : Assigns ipv6 networks setup.assigned
  inBounds : setup.ended ≠ .indexError

/-- Only bridge networks stand in front of a bridge network; all of them have addresses, and
the nameserver of one that others follow can be found. -/
structure Straight (ipv6 : Ipv6) (networks : List NetworkEntry) : Prop where
  bridgesFirst : networks.Pairwise fun earlier later => later.isBridge = true →
    earlier.isBridge = true
  addressed : ∀ entry ∈ networks, entry.isBridge = true → entry.address ipv6 ≠ none
  goesOn : networks.Pairwise fun earlier later =>
    earlier.isBridge = true → later.isBridge = true → earlier.nameserver ipv6 ≠ none

theorem bridges_cons {entry : NetworkEntry} (bridge : entry.isBridge = true)
    (rest : List NetworkEntry) :
    bridges (entry :: rest) = entry :: bridges rest := List.filter_cons_of_pos bridge

theorem bridges_other {entry : NetworkEntry} (other : ¬ entry.isBridge = true)
    (rest : List NetworkEntry) :
    bridges (entry :: rest) = bridges rest := List.filter_cons_of_neg other

theorem bridges_eq_nil_iff (networks : List NetworkEntry) :
    bridges networks = [] ↔ ∀ entry ∈ networks, ¬ entry.isBridge = true := List.filter_eq_nil_iff

section Creation

theorem createEpairs_epair (networks : List NetworkEntry) (jail : State)
    (made : (createEpairs (networks.map NetworkEntry.network) jail).2 = true) :
    (createEpairs (networks.map NetworkEntry.network) jail).1.epair =
      jail.epair ++ (bridges networks).map NetworkEntry.epair := by
  induction networks generalizing jail with
  | nil => simp [createEpairs, bridges]
  | cons entry rest ih =>
      rw [List.map_cons, createEpairs] at made ⊢
      by_cases bridge : entry.network.driver = some "bridge"
      · rw [if_pos bridge] at made ⊢
        have kept : entry.isBridge = true := by simp [NetworkEntry.isBridge, bridge]
        rcases (andThen_done _ _).mp made with ⟨first, later⟩
        have noted : (createEpairUp entry.network jail).1.epair = jail.epair ++ [entry.epair] := by
          unfold createEpairUp at first ⊢
          cases name : entry.network.epair with
          | none => simp [name] at first
          | some epair =>
              by_cases empty : epair = ""
              · simp [name, empty] at first
              · simp [empty, State.acquire, NetworkEntry.epair, name]
        rw [andThen_state first, ih _ later, noted, bridges_cons kept, List.map_cons,
          List.append_assoc]
        rfl
      · rw [if_neg bridge] at made ⊢
        have left : ¬ entry.isBridge = true := by simp [NetworkEntry.isBridge, bridge]
        rw [bridges_other left]
        exact ih jail made

end Creation

section Loop

variable {ipv6 : Ipv6} {epair : List String} {position : Nat} {entry : NetworkEntry}
  {rest : List NetworkEntry}

theorem setupLoop_other (other : ¬ entry.isBridge = true) :
    setupLoop ipv6 epair position (entry :: rest) = setupLoop ipv6 epair (position + 1) rest := by
  rw [setupLoop, if_neg other]

theorem setupLoop_none (none : bridges rest = []) :
    setupLoop ipv6 epair position rest = ⟨[], [], .finished⟩ := by
  induction rest generalizing position with
  | nil => rfl
  | cons entry rest ih =>
      have others := List.filter_eq_nil_iff.mp none
      rw [setupLoop_other (others entry List.mem_cons_self)]
      exact ih (List.filter_eq_nil_iff.mpr fun later member =>
        others later (List.mem_cons_of_mem _ member))

theorem setupLoop_bridge {name : String} {address : String × String}
    (bridge : entry.isBridge = true) (addressed : entry.address ipv6 = some address)
    (found : epair[position]? = some name) :
    setupLoop ipv6 epair position (entry :: rest) =
      match entry.nameserver ipv6 with
      | none => ⟨[(name, address)], [], .raised⟩
      | some host =>
          let later := setupLoop ipv6 epair (position + 1) rest
          ⟨(name, address) :: later.assigned, host.toList ++ later.nameservers, later.ended⟩ := by
  rw [setupLoop, if_pos bridge, addressed]
  simp only [found]

/-- Position and list in step: the epairs from here on are those of the bridge networks left. -/
theorem straight_wired (front : List String) (networks : List NetworkEntry)
    (straight : Straight ipv6 networks) :
    Wired ipv6 networks
        (setupLoop ipv6 (front ++ (bridges networks).map NetworkEntry.epair) front.length
            networks) := by
  -- over the networks, with the epairs that have been used in front
  induction networks generalizing front with
  | nil => exact ⟨.nil, nofun⟩
  | cons entry rest ih =>
      rcases List.pairwise_cons.mp straight.bridgesFirst with ⟨before, bridgesFirst⟩
      rcases List.pairwise_cons.mp straight.goesOn with ⟨resolves, goesOn⟩
      have later : Straight ipv6 rest :=
        ⟨bridgesFirst, fun other member =>
          straight.addressed other (List.mem_cons_of_mem _ member), goesOn⟩
      by_cases bridge : entry.isBridge = true
      · rcases Option.ne_none_iff_exists'.mp
          (straight.addressed entry List.mem_cons_self bridge) with ⟨address, given⟩
        have found : (front ++ (bridges (entry :: rest)).map NetworkEntry.epair)[front.length]? =
            some entry.epair := by
          simp [bridges_cons bridge]
        rw [setupLoop_bridge bridge given found]
        cases host : entry.nameserver ipv6 with
        | none =>
            have last : bridges rest = [] := by
              rw [bridges_eq_nil_iff]
              intro other member isBridge
              exact resolves other member bridge isBridge host
            refine ⟨?_, nofun⟩
            rw [Assigns, bridges_cons bridge, last]
            exact .cons ⟨given, rfl⟩ .nil
        | some host =>
            have next := ih (front ++ [entry.epair]) later
            rw [List.append_assoc, List.length_append, List.length_singleton] at next
            simp only [bridges_cons bridge, List.map_cons]
            refine ⟨?_, next.inBounds⟩
            rw [Assigns, bridges_cons bridge]
            exact .cons ⟨given, rfl⟩ next.assigns
      · have none : bridges rest = [] := by
          rw [bridges_eq_nil_iff]
          intro other member isBridge
          exact bridge (before other member isBridge)
        have all : bridges (entry :: rest) = [] := (bridges_other bridge rest).trans none
        rw [setupLoop_none all]
        refine ⟨?_, nofun⟩
        rw [Assigns, all]
        exact .nil

theorem straight_of_none {networks : List NetworkEntry} (none : bridges networks = []) :
    Straight ipv6 networks := by
  rw [bridges_eq_nil_iff] at none
  constructor
  · exact List.pairwise_of_forall_mem_list fun _ _ later member isBridge =>
      absurd isBridge (none later member)
  · exact fun entry member isBridge => absurd isBridge (none entry member)
  · exact List.pairwise_of_forall_mem_list fun _ _ later member _ isBridge =>
      absurd isBridge (none later member)

theorem Straight.cons (straight : Straight ipv6 rest) (bridge : entry.isBridge = true)
    (addressed : entry.address ipv6 ≠ none)
    (resolves : ∀ other ∈ rest, other.isBridge = true → entry.nameserver ipv6 ≠ none) :
    Straight ipv6 (entry :: rest) := by
  constructor
  · exact List.pairwise_cons.mpr ⟨fun _ _ _ => bridge, straight.bridgesFirst⟩
  · intro other member isBridge
    rcases List.mem_cons.mp member with rfl | later
    · exact addressed
    · exact straight.addressed other later isBridge
  · exact List.pairwise_cons.mpr ⟨fun other member _ isBridge => resolves other member isBridge,
      straight.goesOn⟩

theorem setupLoop_skip (skipped : List NetworkEntry)
    (others : ∀ entry ∈ skipped, ¬ entry.isBridge = true) :
    setupLoop ipv6 epair position (skipped ++ rest) =
        setupLoop ipv6 epair (position + skipped.length) rest := by
  induction skipped generalizing position with
  | nil => rfl
  | cons entry skipped ih =>
      rw [List.cons_append, setupLoop_other (others entry List.mem_cons_self),
        ih fun later member => others later (List.mem_cons_of_mem _ member), List.length_cons,
          Nat.add_assoc,
        Nat.add_comm 1]

theorem not_wired_behind (front : List String)
    (distinct : ((bridges rest).map NetworkEntry.epair).Nodup) (other : ¬ entry.isBridge = true)
    (behind : bridges rest ≠ []) :
    ¬ Wired ipv6 (entry :: rest)
      (setupLoop ipv6 (front ++ (bridges rest).map NetworkEntry.epair) front.length
          (entry :: rest)) := by
  rcases List.exists_cons_of_ne_nil behind with ⟨bridge, more, shape⟩
  rcases List.filter_eq_cons_iff.mp shape with ⟨skipped, later, rfl, others, isBridge, _⟩
  rintro ⟨assigns, inBounds⟩
  rw [Assigns, bridges_other other] at assigns
  rw [shape, List.map_cons, List.nodup_cons] at distinct
  rw [setupLoop_other other, setupLoop_skip skipped others, shape, setupLoop,
    if_pos isBridge] at assigns inBounds
  cases address : bridge.address ipv6 with
  | none =>
      rw [address] at assigns
      cases assigns
  | some value =>
      simp only [address] at assigns inBounds
      have place : front.length + 1 + skipped.length = front.length + (skipped.length + 1) := by
        omega
      -- the counter has left the list behind by one: the epair is that of a later network, or none
      rw [place, List.getElem?_append_right (Nat.le_add_right _ _), Nat.add_sub_cancel_left,
        List.map_cons, List.getElem?_cons_succ] at assigns inBounds
      cases found : (more.map NetworkEntry.epair)[skipped.length]? with
      | none =>
          rw [found] at inBounds
          exact inBounds rfl
      | some name =>
          simp only [found] at assigns
          have among := List.mem_of_getElem? found
          have apart : name ≠ bridge.epair := fun same => distinct.1 (same ▸ among)
          split at assigns
          · cases assigns with
            | cons first _ => exact apart first.2
          · cases assigns with
            | cons first _ => exact apart first.2

theorem wired_straight (front : List String) (networks : List NetworkEntry)
    (distinct : ((bridges networks).map NetworkEntry.epair).Nodup)
    (wired : Wired ipv6 networks
      (setupLoop ipv6 (front ++ (bridges networks).map NetworkEntry.epair) front.length networks)) :
    Straight ipv6 networks := by
  induction networks generalizing front with
  | nil => exact straight_of_none rfl
  | cons entry rest ih =>
      by_cases bridge : entry.isBridge = true
      · rw [bridges_cons bridge, List.map_cons] at distinct wired
        rcases wired with ⟨assigns, inBounds⟩
        rw [Assigns, bridges_cons bridge] at assigns
        have found :
          (front ++ entry.epair :: (bridges rest).map NetworkEntry.epair)[front.length]? =
            some entry.epair := by simp
        cases given : entry.address ipv6 with
        | none =>
            rw [setupLoop, if_pos bridge, given] at assigns
            cases assigns
        | some address =>
            rw [setupLoop_bridge bridge given found] at assigns inBounds
            -- without a nameserver the loop ends here, so that no bridge network may follow
            cases resolved : entry.nameserver ipv6 with
            | none =>
                rw [resolved] at assigns
                cases assigns with
                | cons _ nothing =>
                    have last :=
                      (bridges_eq_nil_iff rest).mp (List.forall₂_nil_right_iff.mp nothing)
                    have later : Straight ipv6 rest :=
                      straight_of_none ((bridges_eq_nil_iff rest).mpr last)
                    refine later.cons bridge (by rw [given]; exact Option.some_ne_none _) ?_
                    exact fun other member isBridge => absurd isBridge (last other member)
            | some host =>
                rw [resolved] at assigns inBounds
                cases assigns with
                | cons _ later =>
                    have next : Wired ipv6 rest (setupLoop ipv6
                        (front ++ [entry.epair] ++ (bridges rest).map NetworkEntry.epair)
                        (front ++ [entry.epair]).length rest) := by
                      rw [List.append_assoc, List.length_append, List.length_singleton]
                      exact ⟨later, inBounds⟩
                    refine (ih _ (List.nodup_cons.mp distinct).2 next).cons bridge
                      (by rw [given]; exact Option.some_ne_none _) ?_
                    intro _ _ _
                    rw [resolved]
                    exact Option.some_ne_none _
      -- the counter moves on past a network without an epair
      · rw [bridges_other bridge] at distinct wired
        have none : bridges rest = [] := by
          by_contra behind
          exact not_wired_behind front distinct bridge behind wired
        exact straight_of_none ((bridges_other bridge rest).trans none)

end Loop

/-- The default nameservers change neither the assignments nor the end. -/
theorem setupNetwork_eq_loop (ipv6 : Ipv6) (epair : List String) (first : NetworkEntry)
    (rest : List NetworkEntry) (driver : String) (given : first.network.driver = some driver)
    (vnet : driver ≠ "host") :
    (setupNetwork ipv6 epair (first :: rest)).assigned =
      (setupLoop ipv6 epair 0 (first :: rest)).assigned ∧
      (setupNetwork ipv6 epair (first :: rest)).ended =
          (setupLoop ipv6 epair 0 (first :: rest)).ended := by
  rw [setupNetwork]
  simp only [given, if_neg vnet]
  split <;> exact ⟨rfl, rfl⟩

theorem wired_congr {ipv6 : Ipv6} {networks : List NetworkEntry} {left right : Setup}
    (assigned : left.assigned = right.assigned) (ended : left.ended = right.ended) :
    Wired ipv6 networks left ↔ Wired ipv6 networks right := by
  constructor
  · rintro ⟨assigns, inBounds⟩
    exact ⟨assigned ▸ assigns, ended ▸ inBounds⟩
  · rintro ⟨assigns, inBounds⟩
    exact ⟨assigned.symm ▸ assigns, ended.symm ▸ inBounds⟩

section Example

def noIpv6 : Ipv6 := ⟨fun _ => none, fun _ => none, fun _ => ""⟩

def bridgeEntry (epair ip : String) : NetworkEntry :=
  ⟨⟨some "bridge", some epair, true, true, true⟩, some ip, some 24, none⟩

def nullEntry : NetworkEntry := ⟨⟨some "null", none, true, true, true⟩, none, none, none⟩

end Example

end Dockermock.Jail.Interfaces
