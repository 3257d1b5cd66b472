import Dockermock.Database.Subnets

/-!
POST /api/networks statement by statement. The route takes no lock, and all
handlers share one connection, so any of them can commit between the two INSERTs
of a create_network. A SELECT with its fetch is one statement.
-/

namespace Dockermock.Database

open Library Network

/-- The JSON body, as far as add_network and create_network use it. -/
structure NetworkRequest where
  name : Option String
  subnet : SubnetArgument
  deriving DecidableEq

/-- What a call has executed so far. A reserved row is known by its id. -/
inductive Phase where
  | asked (request : NetworkRequest)
  | unnumbered (request : NetworkRequest)
  | chosen (request : NetworkRequest) (net : IpNetwork)
  | reserved (request : NetworkRequest) (net : IpNetwork) (row : Nat)
  | inserted (request : NetworkRequest) (net : IpNetwork) (row : Nat)
  deriving DecidableEq

def Phase.request : Phase → NetworkRequest
  | .asked request | .unnumbered request | .chosen request _ | .reserved request _ _
  | .inserted request _ _ => request

/-- The end of a call, with the row of allocated_subnets that it has inserted. -/
structure Report where
  failed : Bool
  row : Option Nat
  deriving DecidableEq

inductive Progress where
  | continues (phase : Phase)
  | ends (report : Report)

def advance (conn : Conn) : Phase → Conn × Progress
  | .asked request =>
      if (conn.view.networks.select fun row => some row.name = request.name) ≠ [] then
        (conn, .ends ⟨true, none⟩)
      else
        match request.subnet with
        | .invalid => (conn, .ends ⟨true, none⟩)
        | .parsed net =>
            if net.hostIter = none then (conn, .ends ⟨true, none⟩)
              else (conn, .continues (.chosen request net))
        | .absent => (conn, .continues (.unnumbered request))
  | .unnumbered request =>
      match allocateSubnet (allocatedValues conn.view) with
      | none => (conn, .ends ⟨true, none⟩)
      | some net => (conn, .continues (.chosen request net))
  | .chosen request net =>
      match conn.view.insertAllocated net with
      | none => (conn, .ends ⟨true, none⟩)
      | some allocated =>
          (conn.write allocated,
            .continues (.reserved request net conn.view.allocatedSubnets.nextId))
  | .reserved request net row =>
      match request.name.bind fun name => conn.view.insertNetwork ⟨name, some net⟩ with
      | none => (conn, .ends ⟨true, some row⟩)
      | some inserted => (conn.write inserted, .continues (.inserted request net row))
  | .inserted _ _ row => (conn.commit, .ends ⟨false, some row⟩)

structure System where
  conn : Conn
  calls : Dict Nat Phase
  reports : List Report

/-- Other operations write to the tables other than the two, and commit or roll back. -/
inductive Action where
  | request (id : Nat) (request : NetworkRequest)
  | statement (id : Nat)
  | elsewhere (tables : Tables)
  | commit
  | rollback

namespace System

def step (system : System) : Action → Option System
  | .request id request =>
      if system.calls.get id = none then
        some { system with calls := system.calls.set id (.asked request) }
      else none
  | .statement id =>
      (system.calls.get id).map fun phase =>
        match advance system.conn phase with
        | (conn, .continues next) => { system with conn := conn, calls := system.calls.set id next }
        | (conn, .ends report) =>
            { conn := conn, calls := system.calls.pop id, reports := system.reports ++ [report] }
  | .elsewhere tables =>
      some { system with
        conn := system.conn.write { tables with
          networks := system.conn.view.networks
          allocatedSubnets := system.conn.view.allocatedSubnets } }
  | .commit => some { system with conn := system.conn.commit }
  | .rollback => some { system with conn := system.conn.rollback }

def initial (tables : Tables) : System := ⟨⟨tables, tables⟩, .empty, []⟩

end System

section Alone

/-- The call comes to its end by its own statements and leaves the connection so. -/
def Finishes (conn : Conn) (phase : Phase) (after : Conn) : Prop :=
  ∃ statements report, ∀ reports, Run System.step anyAction ⟨conn, Dict.empty.set 0 phase, reports⟩
    (List.replicate statements (.statement 0)) ⟨after, .empty, reports ++ [report]⟩

theorem Finishes.of_ends {conn after : Conn} {phase : Phase} (report : Report)
    (advanced : advance conn phase = (after, .ends report)) : Finishes conn phase after := by
  refine ⟨1, report, fun reports => Run.next trivial ?_ (Run.refl _)⟩
  have here : (Dict.empty.set 0 phase).get 0 = some phase := rfl
  rw [System.step, here, Option.map_some, advanced]
  rfl

theorem Finishes.of_continues {conn after : Conn} {phase : Phase} (middle : Conn) (next : Phase)
    (advanced : advance conn phase = (middle, .continues next))
    (rest : Finishes middle next after) :
    Finishes conn phase after := by
  rcases rest with ⟨statements, report, run⟩
  refine ⟨statements + 1, report, fun reports => Run.next trivial ?_ (run reports)⟩
  have here : (Dict.empty.set 0 phase).get 0 = some phase := rfl
  rw [System.step, here, Option.map_some, advanced]
  rfl

theorem chosen_finishes (conn : Conn) (request : NetworkRequest) (net : IpNetwork) :
    Finishes conn (.chosen request net) (insertSubnet conn request.name net).2 := by
  unfold insertSubnet
  let row := conn.view.allocatedSubnets.nextId
  cases reserved : conn.view.insertAllocated net with
  | none => exact .of_ends ⟨true, none⟩ (by rw [advance, reserved])
  | some allocated =>
      apply Finishes.of_continues (conn.write allocated) (.reserved request net row)
        (by rw [advance, reserved])
      cases inserted : request.name.bind fun name => allocated.insertNetwork ⟨name, some net⟩ with
      | none => exact .of_ends ⟨true, some row⟩ (by simp only [advance, Connection.write, inserted])
      | some tables =>
          apply Finishes.of_continues (conn.write tables) (.inserted request net row)
          · simp only [advance, Connection.write, inserted]
          · exact .of_ends ⟨false, some row⟩ (by simp only [advance, inserted])

/-- A call that nothing comes between does what `createNetwork` says. -/
theorem alone_createNetwork (printable : Char → Bool) (conn : Conn) (request : NetworkRequest) :
    Finishes conn (.asked request)
        (createNetwork printable conn request.name request.subnet none).2 := by
  unfold createNetwork
  by_cases taken : (conn.view.networks.select fun row => some row.name = request.name) ≠ []
  · rw [if_pos taken]
    exact .of_ends ⟨true, none⟩ (by rw [advance, if_pos taken])
  · rw [if_neg taken]
    cases given : request.subnet with
    | invalid => exact .of_ends ⟨true, none⟩ (by rw [advance, if_neg taken, given])
    | parsed net =>
        have absent : firstGiven none none = none := rfl
        by_cases single : net.hostIter = none
        · simp only [single, absent, and_self, if_true]
          apply Finishes.of_ends ⟨true, none⟩
          simp only [advance, if_neg taken, given, if_pos single]
        · simp only [single, and_false, if_false]
          apply Finishes.of_continues conn
            (.chosen request net) _ (chosen_finishes conn request net)
          simp only [advance, if_neg taken, given, if_neg single]
    | absent =>
        apply Finishes.of_continues conn (.unnumbered request)
          (by simp only [advance, if_neg taken, given])
        rw [← allocatedValues]
        cases found : allocateSubnet (allocatedValues conn.view) with
        | none => exact .of_ends ⟨true, none⟩ (by rw [advance, found])
        | some net =>
            apply Finishes.of_continues conn
              (.chosen request net) _ (chosen_finishes conn request net)
            rw [advance, found]

end Alone

section Correspondence

/-- networks and allocated_subnets have the same subnets, each of them once. -/
structure OneToOne (tables : Tables) : Prop where
  allocated : (allocatedValues tables).Nodup
  networks : ((networkRowsOf tables).map NetworkRow.subnet).Nodup
  matched : ∀ subnet, subnet ∈ (networkRowsOf tables).map NetworkRow.subnet ↔
    ∃ net ∈ allocatedValues tables, subnet = some net

def Report.LeftNothing (report : Report) (conn : Conn) : Prop :=
  ∀ row, report.row = some row →
    conn.view.allocatedSubnets.rows.get row = none ∧
      conn.committed.allocatedSubnets.rows.get row = none

/-- The subnet that the call has reserved and not yet given to a network. -/
def Phase.awaited : Phase → Option IpNetwork
  | .reserved _ net _ => some net
  | _ => none

/-- The call has rows in the transaction that it has not committed. -/
def Phase.writing : Phase → Bool
  | .reserved _ _ _ | .inserted _ _ _ => true
  | _ => false

def awaitedBy (calls : Dict Nat Phase) (id : Nat) : Option IpNetwork :=
  (calls.get id).bind Phase.awaited

def writingBy (calls : Dict Nat Phase) (id : Nat) : Bool := (calls.get id).any Phase.writing

/-- No second INSERT is refused, and nothing is rolled back while a call has rows of its own in
the transaction. -/
def undisturbed (system : System) : Action → Prop
  | .statement id =>
      match system.calls.get id with
      | some (.reserved request _ _) => nameFree system.conn.view request.name = true
      | _ => True
  | .rollback => ∀ entry ∈ system.calls.entries, entry.2.writing = false
  | _ => True

instance (system : System) (action : Action) : Decidable (undisturbed system action) := by
  unfold undisturbed
  split
  · split <;> infer_instance
  · infer_instance
  · infer_instance

/-- Apart from reserved subnets the two tables correspond, and they are committed when no call
is writing. -/
structure Matched (conn : Conn) (awaited : Nat → Option IpNetwork)
    (writing : Nat → Bool) : Prop where
  allocated : (allocatedValues conn.view).Nodup
  networks : ((networkRowsOf conn.view).map NetworkRow.subnet).Nodup
  backed : ∀ subnet ∈ (networkRowsOf conn.view).map NetworkRow.subnet,
    ∃ net ∈ allocatedValues conn.view, subnet = some net
  used : ∀ net ∈ allocatedValues conn.view,
    some net ∈ (networkRowsOf conn.view).map NetworkRow.subnet ∨ ∃ id, awaited id = some net
  reserved : ∀ id net, awaited id = some net →
    net ∈ allocatedValues conn.view ∧ some net ∉ (networkRowsOf conn.view).map NetworkRow.subnet
  apart : ∀ id other net, awaited id = some net → awaited other = some net → id = other
  settled : (∀ id, writing id = false) → conn.committed.networks = conn.view.networks ∧
    conn.committed.allocatedSubnets = conn.view.allocatedSubnets

theorem Matched.of_tables {conn next : Conn} {awaited : Nat → Option IpNetwork}
    {writing : Nat → Bool} (matched : Matched conn awaited writing)
    (networks : next.view.networks = conn.view.networks)
    (allocated : next.view.allocatedSubnets = conn.view.allocatedSubnets)
    (settled : (∀ id, writing id = false) → next.committed.networks = next.view.networks ∧
      next.committed.allocatedSubnets = next.view.allocatedSubnets) :
    Matched next awaited writing := by
  have rows : networkRowsOf next.view = networkRowsOf conn.view := by
    rw [networkRowsOf, networks, networkRowsOf]
  have values : allocatedValues next.view = allocatedValues conn.view := by
    rw [allocatedValues, allocated, allocatedValues]
  constructor
  · exact values ▸ matched.allocated
  · exact rows ▸ matched.networks
  · exact rows ▸ values ▸ matched.backed
  · exact rows ▸ values ▸ matched.used
  · exact rows ▸ values ▸ matched.reserved
  · exact matched.apart
  · exact settled

theorem Matched.commit {conn : Conn} {awaited : Nat → Option IpNetwork} {writing : Nat → Bool}
    (matched : Matched conn awaited writing) (still : Nat → Bool) :
    Matched conn.commit awaited still :=
  ⟨matched.allocated, matched.networks, matched.backed, matched.used, matched.reserved,
    matched.apart, fun _ => ⟨rfl, rfl⟩⟩

theorem Matched.reserve {conn : Conn} {awaited : Nat → Option IpNetwork} {writing : Nat → Bool}
    (matched : Matched conn awaited writing) (id : Nat) (net : IpNetwork)
    (before : awaited id = none) (free : net ∉ allocatedValues conn.view) :
    Matched (conn.write (withAllocated conn.view net)) (Function.update awaited id (some net))
      (Function.update writing id true) := by
  have values : allocatedValues (conn.write (withAllocated conn.view net)).view =
      allocatedValues conn.view ++ [net] := allocatedValues_insert _ _
  -- A subnet that is not allocated belongs to no network and to no other call.
  have unused : some net ∉ (networkRowsOf conn.view).map NetworkRow.subnet := by
    intro member
    rcases matched.backed _ member with ⟨other, listed, same⟩
    cases same
    exact free listed
  have others (other : Nat) (held : awaited other = some net) : False :=
    free (matched.reserved other net held).1
  constructor
  · rw [values, ← List.concat_eq_append]
    exact matched.allocated.concat free
  · exact matched.networks
  · intro subnet member
    rcases matched.backed subnet member with ⟨other, listed, same⟩
    exact ⟨other, by simp [values, listed], same⟩
  · intro other member
    rw [values] at member
    rcases List.mem_append.mp member with old | new
    · rcases matched.used other old with given | ⟨call, held⟩
      · exact Or.inl given
      · have different : call ≠ id := fun same => by simp [same, before] at held
        exact Or.inr ⟨call, by rw [Function.update_of_ne different, held]⟩
    · exact Or.inr ⟨id, by rw [Function.update_self, List.mem_singleton.mp new]⟩
  · intro call other held
    by_cases same : call = id
    · rw [same, Function.update_self] at held
      cases held
      exact ⟨by simp [values], unused⟩
    · rw [Function.update_of_ne same] at held
      exact ⟨by
        simp [values, (matched.reserved call other held).1], (matched.reserved call other held).2⟩
  · intro left right other leftHeld rightHeld
    by_cases leftSame : left = id <;> by_cases rightSame : right = id
    · exact leftSame.trans rightSame.symm
    · rw [leftSame, Function.update_self] at leftHeld
      rw [Function.update_of_ne rightSame] at rightHeld
      cases leftHeld
      exact (others right rightHeld).elim
    · rw [rightSame, Function.update_self] at rightHeld
      rw [Function.update_of_ne leftSame] at leftHeld
      cases rightHeld
      exact (others left leftHeld).elim
    · rw [Function.update_of_ne leftSame] at leftHeld
      rw [Function.update_of_ne rightSame] at rightHeld
      exact matched.apart left right other leftHeld rightHeld
  · intro quiet
    have busy := quiet id
    rw [Function.update_self] at busy
    cases busy

theorem Matched.give {conn : Conn} {awaited : Nat → Option IpNetwork} {writing : Nat → Bool}
    (matched : Matched conn awaited writing) (id : Nat) (name : String) (net : IpNetwork)
    (held : awaited id = some net) (busy : writing id = true) :
    Matched (conn.write (withNetwork conn.view name net))
        (Function.update awaited id none) writing := by
  have subnets : (networkRowsOf (conn.write (withNetwork conn.view name net)).view).map
    NetworkRow.subnet =
      (networkRowsOf conn.view).map NetworkRow.subnet ++ [some net] := by
    have rows := networkRowsOf_insert conn.view name net
    rw [Connection.write, rows, List.map_append]
    rfl
  -- the row was reserved for this call alone, and no network has it yet
  rcases matched.reserved id net held with ⟨reserved, unused⟩
  constructor
  · exact matched.allocated
  · rw [subnets, ← List.concat_eq_append]
    exact matched.networks.concat unused
  · intro subnet member
    rw [subnets] at member
    rcases List.mem_append.mp member with old | new
    · exact matched.backed subnet old
    · exact ⟨net, reserved, List.mem_singleton.mp new⟩
  · intro other member
    rw [subnets]
    rcases matched.used other member with given | ⟨call, waiting⟩
    · exact Or.inl (List.mem_append_left _ given)
    · by_cases same : call = id
      · rw [same, held] at waiting
        cases waiting
        exact Or.inl (by simp)
      · exact Or.inr ⟨call, by rw [Function.update_of_ne same, waiting]⟩
  · intro call other waiting
    by_cases same : call = id
    · rw [same, Function.update_self] at waiting
      cases waiting
    · rw [Function.update_of_ne same] at waiting
      rcases matched.reserved call other waiting with ⟨listed, free⟩
      refine ⟨listed, fun member => ?_⟩
      rw [subnets] at member
      rcases List.mem_append.mp member with old | new
      · exact free old
      · have equal : other = net := Option.some.inj (List.mem_singleton.mp new)
        exact same (matched.apart call id net (equal ▸ waiting) held)
  · intro left right other leftHeld rightHeld
    have leftOther : left ≠ id := fun same => by simp [same] at leftHeld
    have rightOther : right ≠ id := fun same => by simp [same] at rightHeld
    rw [Function.update_of_ne leftOther] at leftHeld
    rw [Function.update_of_ne rightOther] at rightHeld
    exact matched.apart left right other leftHeld rightHeld
  -- a call that is writing keeps the connection from being quiet
  · intro quiet
    rw [quiet id] at busy
    cases busy

end Correspondence

section Calls

theorem awaitedBy_set (calls : Dict Nat Phase) (id : Nat) (next : Phase) :
    awaitedBy (calls.set id next) = Function.update (awaitedBy calls) id next.awaited := by
  funext other
  by_cases same : other = id <;> simp [awaitedBy, Dict.get_set, same]

theorem writingBy_set (calls : Dict Nat Phase) (id : Nat) (next : Phase) :
    writingBy (calls.set id next) = Function.update (writingBy calls) id next.writing := by
  funext other
  by_cases same : other = id <;> simp [writingBy, Dict.get_set, same]

theorem awaitedBy_pop (calls : Dict Nat Phase) (id : Nat) :
    awaitedBy (calls.pop id) = Function.update (awaitedBy calls) id none := by
  funext other
  by_cases same : other = id <;> simp [awaitedBy, Dict.get_pop, same]

theorem writingBy_pop (calls : Dict Nat Phase) (id : Nat) :
    writingBy (calls.pop id) = Function.update (writingBy calls) id false := by
  funext other
  by_cases same : other = id <;> simp [writingBy, Dict.get_pop, same]

theorem awaited_of_idle {phase : Phase} (idle : phase.writing = false) : phase.awaited = none := by
  cases phase <;> first | rfl | cases idle

inductive Advanced (conn : Conn) : Phase → Conn → Progress → Prop where
  | moves (phase next : Phase) (idle : phase.writing = false) (still : next.writing = false) :
      Advanced conn phase conn (.continues next)
  | refused (phase : Phase) (idle : phase.writing = false) :
      Advanced conn phase conn (.ends ⟨true, none⟩)
  | reserves (request : NetworkRequest) (net : IpNetwork) (free : net ∉ allocatedValues conn.view) :
      Advanced conn (.chosen request net) (conn.write (withAllocated conn.view net))
        (.continues (.reserved request net conn.view.allocatedSubnets.nextId))
  | gives (request : NetworkRequest) (net : IpNetwork) (row : Nat) (name : String)
      (named : request.name = some name) :
      Advanced conn (.reserved request net row) (conn.write (withNetwork conn.view name net))
        (.continues (.inserted request net row))
  | leaves (request : NetworkRequest) (net : IpNetwork) (row : Nat)
      (refused : nameFree conn.view request.name = false) :
      Advanced conn (.reserved request net row) conn (.ends ⟨true, some row⟩)
  | commits (request : NetworkRequest) (net : IpNetwork) (row : Nat) :
      Advanced conn (.inserted request net row) conn.commit (.ends ⟨false, some row⟩)

theorem advance_advanced (conn : Conn) (phase : Phase) :
    Advanced conn phase (advance conn phase).1 (advance conn phase).2 := by
  cases phase with
  | asked request =>
      rw [advance]
      split
      · exact .refused _ rfl
      · split
        · exact .refused _ rfl
        · split
          · exact .refused _ rfl
          · exact .moves _ _ rfl rfl
        · exact .moves _ _ rfl rfl
  | unnumbered request =>
      rw [advance]
      split
      · exact .refused _ rfl
      · exact .moves _ _ rfl rfl
  | chosen request net =>
      rw [advance]
      cases reserved : conn.view.insertAllocated net with
      | none => exact .refused _ rfl
      | some allocated =>
          rcases (insertAllocated_eq_some_iff _ _ _).mp reserved with ⟨free, rfl⟩
          exact .reserves request net free
  | reserved request net row =>
      rw [advance]
      cases inserted : request.name.bind fun name => conn.view.insertNetwork ⟨name, some net⟩ with
      | some tables =>
          rcases Option.bind_eq_some_iff.mp inserted with ⟨name, named, entered⟩
          rcases (insertNetwork_eq_some_iff _ _ _ _).mp entered with ⟨_, rfl⟩
          exact .gives request net row name named
      | none =>
          -- refused for want of a free name: the row that was reserved stays
          apply Advanced.leaves
          cases named : request.name with
          | none => rfl
          | some name =>
              rw [named, Option.bind_some] at inserted
              by_contra free
              rw [Bool.not_eq_false] at free
              have entered := (insertNetwork_eq_some_iff conn.view _ name net).mpr ⟨free, rfl⟩
              rw [inserted] at entered
              cases entered
  | inserted request net row => exact .commits request net row

structure Kept (system : System) : Prop where
  matched : Matched system.conn (awaitedBy system.calls) (writingBy system.calls)
  reports : ∀ report ∈ system.reports, report.failed = true → report.row = none

theorem Kept.step {system after : System} {action : Action} (kept : Kept system)
    (condition : undisturbed system action) (taken : system.step action = some after) :
    Kept after := by
  rcases kept with ⟨matched, reports⟩
  cases action with
  | request id request =>
      rcases Option.ite_none_right_eq_some.mp taken with ⟨absent, made⟩
      cases made
      refine ⟨?_, reports⟩
      rw [awaitedBy_set, writingBy_set]
      have nothing : awaitedBy system.calls id = none := by simp [awaitedBy, absent]
      have idle : writingBy system.calls id = false := by simp [writingBy, absent]
      rw [Function.update_eq_self_iff.mpr nothing.symm, Function.update_eq_self_iff.mpr idle.symm]
      exact matched
  | statement id =>
      rcases Option.map_eq_some_iff.mp taken with ⟨phase, running, made⟩
      have waiting : awaitedBy system.calls id = phase.awaited := by simp [awaitedBy, running]
      have busy : writingBy system.calls id = phase.writing := by simp [writingBy, running]
      have advanced := advance_advanced system.conn phase
      rcases result : advance system.conn phase with ⟨conn, progress⟩
      rw [result] at advanced made
      simp only [undisturbed, running] at condition
      cases advanced with
      | moves phase next idle still =>
          -- Before its first INSERT a call counts for neither of the two maps.
          cases made
          refine ⟨?_, reports⟩
          have before := awaited_of_idle idle
          rw [awaitedBy_set, writingBy_set, awaited_of_idle still, still,
            Function.update_eq_self_iff.mpr (before ▸ waiting).symm,
            Function.update_eq_self_iff.mpr (idle ▸ busy).symm]
          exact matched
      | refused phase idle =>
          cases made
          constructor
          · have before := awaited_of_idle idle
            rw [awaitedBy_pop, writingBy_pop,
              Function.update_eq_self_iff.mpr (before ▸ waiting).symm,
              Function.update_eq_self_iff.mpr (idle ▸ busy).symm]
            exact matched
          · exact List.forall_mem_append.mpr ⟨reports, List.forall_mem_singleton.mpr fun _ => rfl⟩
      | reserves request net free =>
          cases made
          refine ⟨?_, reports⟩
          rw [awaitedBy_set, writingBy_set]
          exact matched.reserve id net waiting free
      | gives request net row name named =>
          cases made
          refine ⟨?_, reports⟩
          rw [awaitedBy_set, writingBy_set]
          have still : Function.update (writingBy system.calls) id true = writingBy system.calls :=
            Function.update_eq_self_iff.mpr busy.symm
          rw [show (Phase.inserted request net row).writing = true from rfl, still]
          exact matched.give id name net waiting busy
      | leaves request net row refused =>
          -- The first INSERT would stay in the open transaction.
          have free : nameFree system.conn.view request.name = true := condition
          rw [refused] at free
          cases free
      | commits request net row =>
          cases made
          constructor
          · rw [awaitedBy_pop, Function.update_eq_self_iff.mpr waiting.symm]
            exact matched.commit _
          · exact List.forall_mem_append.mpr ⟨reports,
              List.forall_mem_singleton.mpr fun failed => absurd failed Bool.false_ne_true⟩
  | elsewhere tables =>
      cases taken
      exact ⟨matched.of_tables rfl rfl matched.settled, reports⟩
  | commit =>
      cases taken
      exact ⟨matched.commit _, reports⟩
  | rollback =>
      -- With no call between its INSERT and its commit the two tables are those committed.
      cases taken
      have idle : ∀ id, writingBy system.calls id = false := by
        intro id
        cases running : system.calls.get id with
        | none => simp [writingBy, running]
        | some phase =>
            have quiet := condition (id, phase) ((Dict.get_eq_some_iff _ _ _).mp running)
            simpa [writingBy, running] using quiet
      rcases matched.settled idle with ⟨networks, allocated⟩
      exact ⟨matched.of_tables networks allocated fun _ => ⟨rfl, rfl⟩, reports⟩

/-- As long as no second INSERT is refused and no rollback hits a call between its INSERT and its
commit, the committed tables correspond whenever no create_network is in progress, and a failed
one leaves nothing in allocated_subnets. -/
theorem networks_one_to_one (tables : Tables) (corresponds : OneToOne tables)
    (actions : List Action) (after : System)
    (run : Run System.step undisturbed (System.initial tables) actions after) :
    (after.calls.entries = [] → OneToOne after.conn.committed) ∧
      ∀ report ∈ after.reports, report.failed = true → report.LeftNothing after.conn := by
  have start : Kept (System.initial tables) := by
    refine ⟨⟨corresponds.allocated, corresponds.networks,
      fun subnet member => (corresponds.matched subnet).mp member,
      fun net member => Or.inl ((corresponds.matched _).mpr ⟨net, member, rfl⟩), nofun, nofun,
        fun _ => ⟨rfl, rfl⟩⟩,
      nofun⟩
  have kept : Kept after := by
    apply run_invariant Kept _ run start
    intro before action next valid condition taken
    exact valid.step condition taken
  constructor
  · intro finished
    have ended (id : Nat) : after.calls.get id = none := by simp [Dict.get, finished]
    have matched := kept.matched
    have settled := matched.settled fun id => by simp [writingBy, ended]
    -- with no call under way no subnet is reserved, and every allocated one has its network
    have seen : OneToOne after.conn.view := by
      refine ⟨matched.allocated, matched.networks, fun subnet => ⟨matched.backed subnet, ?_⟩⟩
      rintro ⟨net, listed, rfl⟩
      rcases matched.used net listed with given | ⟨id, waiting⟩
      · exact given
      · simp [awaitedBy, ended] at waiting
    rcases seen with ⟨allocated, networks, matched⟩
    rw [allocatedValues, ← settled.2] at allocated
    rw [networkRowsOf, ← settled.1] at networks
    simp only [networkRowsOf, allocatedValues, ← settled.1, ← settled.2] at matched
    exact ⟨allocated, networks, matched⟩
  · intro report member failed row inserted
    rw [kept.reports report member failed] at inserted
    cases inserted

end Calls

section Example

theorem fresh_oneToOne : OneToOne (.fresh .empty .empty) :=
  ⟨List.nodup_nil, List.nodup_nil, by
    simp [networkRowsOf, allocatedValues, Tables.fresh, Table.empty, Dict.empty]⟩

/-- Two requests at once, the second with its first INSERT between those of the first, while
another operation commits. -/
def twoAtOnce : List Action :=
  [.request 0 ⟨some "front", .absent⟩,
    .request 1 ⟨some "back", .parsed (.v4 backNetwork)⟩, .statement 0,
    .statement 1, .statement 0, .statement 0, .statement 1, .commit, .statement 0,
      .statement 1, .statement 1,
    .statement 0]

def finishedCalls (system : System) : Nat × Nat × Nat :=
  (system.calls.entries.length, (networkRowsOf system.conn.committed).length, system.reports.length)

theorem networks_one_to_one_at_once :
    ∃ after, Run System.step undisturbed (System.initial (.fresh .empty .empty)) twoAtOnce after ∧
      finishedCalls after = (0, 2, 2) ∧
        (after.calls.entries = [] → OneToOne after.conn.committed) ∧
          ∀ report ∈ after.reports, report.failed = true → report.LeftNothing after.conn :=
  (run_of_replay System.step undisturbed finishedCalls
    (System.initial (.fresh .empty .empty)) twoAtOnce _
    (by decide)).imp fun after reached => ⟨reached.1, reached.2,
      networks_one_to_one _ fresh_oneToOne twoAtOnce after reached.1⟩

/-- A request without a name, and any later commit. -/
theorem unnamed_network_leaves_subnet :
    ¬ ∀ tables, OneToOne tables → ∀ actions after,
      Run System.step anyAction (System.initial tables) actions after →
      after.calls.entries = [] → OneToOne after.conn.committed := by
  intro claimed
  rcases run_of_replay System.step anyAction
    (fun system =>
      (system.calls.entries, allocatedValues system.conn.committed,
        networkRowsOf system.conn.committed))
    (System.initial (.fresh .empty .empty))
    [.request 0 ⟨none, .parsed (.v4 backNetwork)⟩, .statement 0, .statement 0,
      .statement 0, .commit]
    ([], [.v4 backNetwork], []) (by decide) with ⟨after, run, read⟩
  have corresponds := claimed _ fresh_oneToOne _ after run (congrArg Prod.fst read)
  have values : allocatedValues after.conn.committed = [.v4 backNetwork] :=
    congrArg (fun read => read.2.1) read
  have rows : networkRowsOf after.conn.committed = [] := congrArg (fun read => read.2.2) read
  have network := (corresponds.matched (some (.v4 backNetwork))).mpr
    ⟨_, by rw [values]; exact List.mem_cons_self, rfl⟩
  rw [rows] at network
  cases network

end Example

end Dockermock.Database
