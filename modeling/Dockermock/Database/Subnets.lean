import Dockermock.Database.Addresses

/-!
The subnets of networks made by create_network. The allocator compares a subnet
with all that are allocated; a subnet that is given is only held against an
equal one. So the subnets stay apart as long as given ones overlap no network.
-/

namespace Dockermock.Database

open Library Network

structure Creation where
  name : Option String
  subnet : SubnetArgument
  gateway : Option String
  deriving DecidableEq

def create (printable : Char → Bool) (conn : Conn) (creation : Creation) : Option Conn :=
  some (createNetwork printable conn creation.name creation.subnet creation.gateway).2

section Outcomes

def allocatedValues (tables : Tables) : List IpNetwork :=
  tables.allocatedSubnets.rows.entries.map Prod.snd

def networkRowsOf (tables : Tables) : List NetworkRow := tables.networks.rows.entries.map Prod.snd

def nameFree (tables : Tables) (name : Option String) : Bool :=
  name.any fun text => (networkRowsOf tables).all fun row => row.name ≠ text

def withAllocated (tables : Tables) (net : IpNetwork) : Tables :=
  { tables with allocatedSubnets := tables.allocatedSubnets.insert net }

def withNetwork (tables : Tables) (name : String) (net : IpNetwork) : Tables :=
  { tables with networks := tables.networks.insert ⟨name, some net⟩ }

def chosen (tables : Tables) (creation : Creation) : Option IpNetwork :=
  match creation.subnet with
  | .invalid => none
  | .parsed net =>
      if firstGiven creation.gateway none = none ∧ net.hostIter = none then none else some net
  | .absent => allocateSubnet (allocatedValues tables)

theorem allocatedValues_insert (tables : Tables) (net : IpNetwork) :
    allocatedValues (withAllocated tables net) = allocatedValues tables ++ [net] := by
  simp [allocatedValues, withAllocated, Table.insert_entries]

theorem networkRowsOf_insert (tables : Tables) (name : String) (net : IpNetwork) :
    networkRowsOf (withNetwork tables name net) = networkRowsOf tables ++ [⟨name, some net⟩] := by
  simp [networkRowsOf, withNetwork, Table.insert_entries]

theorem insertAllocated_eq_some_iff (tables after : Tables) (net : IpNetwork) :
    tables.insertAllocated net = some after ↔
        net ∉ allocatedValues tables ∧ after = withAllocated tables net := by
  simp only [Tables.insertAllocated, Option.map_eq_some_iff, Table.insertUnless_eq_some_iff,
    decide_eq_false_iff_not]
  constructor
  · rintro ⟨allocated, ⟨free, rfl⟩, rfl⟩
    refine ⟨fun member => ?_, rfl⟩
    rcases List.mem_map.mp member with ⟨entry, listed, same⟩
    exact free entry listed same
  · rintro ⟨absent, rfl⟩
    exact ⟨_, ⟨fun entry listed same => absent (List.mem_map.mpr ⟨entry, listed, same⟩), rfl⟩, rfl⟩

theorem insertNetwork_eq_some_iff (tables after : Tables) (name : String) (net : IpNetwork) :
    tables.insertNetwork ⟨name, some net⟩ = some after ↔
      nameFree tables (some name) = true ∧ after = withNetwork tables name net := by
  simp only [Tables.insertNetwork, Option.map_eq_some_iff, Table.insertUnless_eq_some_iff,
    decide_eq_false_iff_not, nameFree, Option.any_some, List.all_eq_true, decide_eq_true_eq]
  constructor
  · rintro ⟨networks, ⟨free, rfl⟩, rfl⟩
    refine ⟨fun row member => ?_, rfl⟩
    rcases List.mem_map.mp member with ⟨entry, listed, rfl⟩
    exact free entry listed
  · rintro ⟨free, rfl⟩
    exact ⟨_, ⟨fun entry listed => free _ (List.mem_map_of_mem listed), rfl⟩, rfl⟩

/-- A call leaves the connection as it is, inserts both rows and commits, or, for a missing
name, leaves the first row behind. -/
inductive Created (conn : Conn) (creation : Creation) : Conn → Prop where
  | unchanged : Created conn creation conn
  | unnamed (net : IpNetwork) (missing : creation.name = none)
      (choice : chosen conn.view creation = some net) (free : net ∉ allocatedValues conn.view) :
      Created conn creation (conn.write (withAllocated conn.view net))
  | inserted (name : String) (net : IpNetwork) (named : creation.name = some name)
      (unused : nameFree conn.view creation.name = true)
        (choice : chosen conn.view creation = some net)
      (free : net ∉ allocatedValues conn.view) :
      Created conn creation (conn.write (withNetwork (withAllocated conn.view net) name net)).commit

theorem insertSubnet_created (conn : Conn) (creation : Creation) (net : IpNetwork)
    (unused : ∀ name, creation.name = some name → nameFree conn.view creation.name = true)
    (choice : chosen conn.view creation = some net) :
    Created conn creation (insertSubnet conn creation.name net).2 := by
  unfold insertSubnet
  cases reserved : conn.view.insertAllocated net with
  | none => exact .unchanged
  | some allocated =>
      rcases (insertAllocated_eq_some_iff _ _ _).mp reserved with ⟨free, rfl⟩
      cases named : creation.name with
      | none => exact .unnamed net named choice free
      | some name =>
          have open' := unused name named
          have entered : (withAllocated conn.view net).insertNetwork ⟨name, some net⟩ =
              some (withNetwork (withAllocated conn.view net) name net) :=
            (insertNetwork_eq_some_iff _ _ _ _).mpr ⟨named ▸ open', rfl⟩
          simp only [Option.bind_some, entered]
          exact .inserted name net named open' choice free

theorem create_created (printable : Char → Bool) (conn : Conn) (creation : Creation) :
    Created conn creation
        (createNetwork printable conn creation.name creation.subnet creation.gateway).2 := by
  unfold createNetwork
  split
  · exact .unchanged
  · rename_i absent
    have unused : ∀ name, creation.name = some name → nameFree conn.view creation.name = true := by
      intro name named
      have none := List.filter_eq_nil_iff.mp (Decidable.of_not_not absent)
      simp only [named, nameFree, Option.any_some, List.all_eq_true, decide_eq_true_eq]
      intro row member same
      rcases List.mem_map.mp member with ⟨entry, listed, rfl⟩
      exact none entry listed (by simp [same, named])
    split
    · exact .unchanged
    · rename_i net given
      split
      · exact .unchanged
      · rename_i hosts
        exact insertSubnet_created conn creation net unused
          (by rw [chosen, given]; exact if_neg hosts)
    · rename_i given
      split
      · exact .unchanged
      · rename_i net found
        exact insertSubnet_created conn creation net unused (by rw [chosen, given]; exact found)

end Outcomes

section Invariants

/-- What the UNIQUE constraints leave of networks that create_network has made. -/
structure Laid (tables : Tables) : Prop where
  names : ((networkRowsOf tables).map NetworkRow.name).Nodup
  subnets : ((networkRowsOf tables).map NetworkRow.subnet).Nodup
  reserved : ∀ row ∈ networkRowsOf tables, ∃ net ∈ allocatedValues tables, row.subnet = some net

theorem Laid.withAllocated {tables : Tables} (laid : Laid tables) (net : IpNetwork) :
    Laid (withAllocated tables net) := by
  refine ⟨laid.names, laid.subnets, fun row member => ?_⟩
  rcases laid.reserved row member with ⟨other, listed, same⟩
  rw [allocatedValues_insert]
  exact ⟨other, List.mem_append_left _ listed, same⟩

theorem Laid.inserted {tables : Tables} (laid : Laid tables) {name : String} {net : IpNetwork}
    (unused : nameFree tables (some name) = true) (free : net ∉ allocatedValues tables) :
    Laid (withNetwork (Database.withAllocated tables net) name net) := by
  have rows : networkRowsOf (withNetwork (Database.withAllocated tables net) name net) =
      networkRowsOf tables ++ [⟨name, some net⟩] := networkRowsOf_insert _ _ _
  have values : allocatedValues (withNetwork (Database.withAllocated tables net) name net) =
      allocatedValues tables ++ [net] := allocatedValues_insert _ _
  simp only [nameFree, Option.any_some, List.all_eq_true, decide_eq_true_eq] at unused
  constructor
  · rw [rows, List.map_append]
    have absent : name ∉ (networkRowsOf tables).map NetworkRow.name := by
      intro member
      rcases List.mem_map.mp member with ⟨row, listed, same⟩
      exact unused row listed same
    have longer := laid.names.concat absent
    rwa [List.concat_eq_append] at longer
  · rw [rows, List.map_append]
    -- a network with this subnet would have it allocated
    have absent : some net ∉ (networkRowsOf tables).map NetworkRow.subnet := by
      intro member
      rcases List.mem_map.mp member with ⟨row, listed, same⟩
      rcases laid.reserved row listed with ⟨other, held, given⟩
      cases given.symm.trans same
      exact free held
    have longer := laid.subnets.concat absent
    rwa [List.concat_eq_append] at longer
  · intro row member
    rw [rows] at member
    rw [values]
    rcases List.mem_append.mp member with old | new
    · rcases laid.reserved row old with ⟨other, held, given⟩
      exact ⟨other, List.mem_append_left _ held, given⟩
    · rw [List.mem_singleton.mp new]
      exact ⟨net, by simp, rfl⟩

theorem created_of_step {printable : Char → Bool} {conn after : Conn} {creation : Creation}
    (taken : create printable conn creation = some after) : Created conn creation after := by
  cases taken
  exact create_created printable conn creation

def Throughout (property : Tables → Prop) (conn : Conn) : Prop :=
  property conn.committed ∧ property conn.view

theorem create_laid (printable : Char → Bool) (conn after : Conn) (creation : Creation)
    (laid : Throughout Laid conn) (taken : create printable conn creation = some after) :
    Throughout Laid after := by
  cases created_of_step taken with
  | unchanged => exact laid
  | unnamed net missing choice free => exact ⟨laid.1, laid.2.withAllocated net⟩
  | inserted name net named unused choice free =>
      have both := laid.2.inserted (named ▸ unused) free
      exact ⟨both, both⟩

/-- In every run of create_network the networks have distinct names and distinct, allocated subnets.
-/
theorem laid_of_run (printable : Char → Bool) (images : Table ImageRow) (volumes : Table VolumeRow)
    {admitted : Conn → Creation → Prop} (creations : List Creation) (after : Conn)
    (run : Run (create printable) admitted (freshConn images volumes) creations after) :
    Throughout Laid after := by
  have fresh : Laid (.fresh images volumes) := ⟨List.nodup_nil, List.nodup_nil, nofun⟩
  apply run_invariant (Throughout Laid) _ run ⟨fresh, fresh⟩
  intro conn creation next laid _ taken
  exact create_laid printable conn next creation laid taken

end Invariants

section Disjointness

/-- No two networks have an address in common. -/
def SubnetsDisjoint (tables : Tables) : Prop :=
  ∀ left right leftRow rightRow, tables.networks.rows.get left = some leftRow →
    tables.networks.rows.get right = some rightRow → left ≠ right →
      ∀ leftNet rightNet, leftRow.subnet = some leftNet → rightRow.subnet = some rightNet →
        ¬ leftNet.Shares rightNet

def givenApart (conn : Conn) (creation : Creation) : Prop :=
  match creation.subnet with
  | .parsed net =>
      nameFree conn.view creation.name = true → chosen conn.view creation = some net →
        net ∉ allocatedValues conn.view →
          ∀ row ∈ networkRowsOf conn.view, row.subnet.all (fun other => !net.overlaps other) = true
  | .absent | .invalid => True

instance (conn : Conn) (creation : Creation) : Decidable (givenApart conn creation) := by
  unfold givenApart
  split <;> infer_instance

def Apart (left right : NetworkRow) : Prop :=
  ∀ leftNet rightNet, left.subnet = some leftNet → right.subnet = some rightNet →
    leftNet.overlaps rightNet = false

theorem Apart.symm {left right : NetworkRow} (apart : Apart left right) : Apart right left :=
  fun rightNet leftNet rightGiven leftGiven =>
    (IpNetwork.overlaps_comm rightNet leftNet).trans (apart leftNet rightNet leftGiven rightGiven)

def RowsApart (tables : Tables) : Prop := (networkRowsOf tables).Pairwise Apart

theorem disjoint_of_rowsApart {tables : Tables} (apart : RowsApart tables) :
    SubnetsDisjoint tables := by
  intro left right leftRow rightRow leftHeld rightHeld different leftNet rightNet leftGiven
    rightGiven shared
  have symmetric : Std.Symm fun left right : Nat × NetworkRow => Apart left.2 right.2 :=
    ⟨fun _ _ => Apart.symm⟩
  have leftEntry := (Dict.get_eq_some_iff _ _ _).mp leftHeld
  have rightEntry := (Dict.get_eq_some_iff _ _ _).mp rightHeld
  have others : (left, leftRow) ≠ (right, rightRow) :=
    fun same => different (congrArg Prod.fst same)
  have separate :=
    (List.pairwise_map.mp apart).forall leftEntry rightEntry others leftNet rightNet leftGiven
    rightGiven
  rw [(IpNetwork.overlaps_iff_shares _ _).mpr shared] at separate
  cases separate

theorem RowsApart.inserted {tables : Tables} (apart : RowsApart tables) (name : String)
    (net : IpNetwork) (clear : ∀ row ∈ networkRowsOf tables, ∀ other, row.subnet = some other →
      net.overlaps other = false) :
    RowsApart (withNetwork (withAllocated tables net) name net) := by
  have rows : networkRowsOf (withNetwork (withAllocated tables net) name net) =
      networkRowsOf tables ++ [⟨name, some net⟩] := networkRowsOf_insert _ _ _
  rw [RowsApart, rows, List.pairwise_append]
  refine ⟨apart, List.pairwise_singleton _ _, fun row member new last => ?_⟩
  rw [List.mem_singleton.mp last]
  intro other _ given same
  cases same
  exact (IpNetwork.overlaps_comm _ _).trans (clear row member other given)

/-- A chosen subnet overlaps no network: the allocator has seen to it, or the condition does. -/
theorem clear_of_chosen {conn : Conn} {creation : Creation} {net : IpNetwork}
    (laid : Laid conn.view) (condition : givenApart conn creation)
    (unused : nameFree conn.view creation.name = true)
    (choice : chosen conn.view creation = some net) (free : net ∉ allocatedValues conn.view) :
    ∀ row ∈ networkRowsOf conn.view, ∀ other, row.subnet = some other →
        net.overlaps other = false := by
  intro row member other given
  cases source : creation.subnet with
  | invalid => simp [chosen, source] at choice
  | parsed asked =>
      have same : asked = net := by
        simp only [chosen, source, Option.ite_none_left_eq_some, Option.some.injEq] at choice
        exact choice.2
      simp only [givenApart, source] at condition
      rw [same] at condition
      simpa [given] using condition unused choice free row member
  | absent =>
      simp only [chosen, source, allocateSubnet] at choice
      have apart := List.find?_some choice
      rcases laid.reserved row member with ⟨reserved, listed, held⟩
      cases given.symm.trans held
      simpa using List.all_eq_true.mp apart other listed

theorem create_apart (printable : Char → Bool) (conn after : Conn) (creation : Creation)
    (laid : Throughout Laid conn) (apart : Throughout RowsApart conn)
    (condition : givenApart conn creation) (taken : create printable conn creation = some after) :
    Throughout RowsApart after := by
  cases created_of_step taken with
  | unchanged => exact apart
  | unnamed net missing choice free => exact ⟨apart.1, apart.2⟩
  | inserted name net named unused choice free =>
      have both := apart.2.inserted name net (clear_of_chosen laid.2 condition unused choice free)
      exact ⟨both, both⟩

/-- From an empty database, as long as no given subnet overlaps a network when its rows are
inserted, no two networks ever have an address in common. -/
theorem subnets_disjoint (printable : Char → Bool) (images : Table ImageRow)
    (volumes : Table VolumeRow) (creations : List Creation) (after : Conn)
    (run : Run (create printable) givenApart (freshConn images volumes) creations after) :
    Throughout SubnetsDisjoint after := by
  have kept : Throughout Laid after ∧ Throughout RowsApart after := by
    apply run_invariant (fun conn => Throughout Laid conn ∧ Throughout RowsApart conn) _ run
    · have laid : Laid (.fresh images volumes) := ⟨List.nodup_nil, List.nodup_nil, nofun⟩
      exact ⟨⟨laid, laid⟩, List.Pairwise.nil, List.Pairwise.nil⟩
    · rintro conn creation next ⟨laid, apart⟩ condition taken
      exact ⟨create_laid printable conn next creation laid taken,
        create_apart printable conn next creation laid apart condition taken⟩
  exact ⟨disjoint_of_rowsApart kept.2.1, disjoint_of_rowsApart kept.2.2⟩

section Example

theorem wideNetwork_strict : Strict 0x0A000000 8 := ⟨by decide, by decide, by decide⟩

def wideNetwork : IPv4Network := .strict wideNetwork_strict

theorem innerNetwork_strict : Strict 0x0A000100 24 := ⟨by decide, by decide, by decide⟩

def innerNetwork : IPv4Network := .strict innerNetwork_strict

theorem backNetwork_strict : Strict 0xC0A80000 24 := ⟨by decide, by decide, by decide⟩

def backNetwork : IPv4Network := .strict backNetwork_strict

def subnetsOf (conn : Conn) : List (Nat × Option IpNetwork) :=
  conn.committed.networks.rows.entries.map fun entry => (entry.1, entry.2.subnet)

def frontAndBack : List Creation :=
  [⟨some "front", .absent, none⟩, ⟨some "back", .parsed (.v4 backNetwork), none⟩,
    ⟨some "next", .absent, none⟩]

theorem subnets_disjoint_beside_given :
    ∃ after, Run (create asciiPrintable) givenApart (freshConn .empty .empty) frontAndBack after ∧
      (subnetsOf after).length = 3 ∧ Throughout SubnetsDisjoint after :=
  (run_of_replay (create asciiPrintable) givenApart (fun conn => (subnetsOf conn).length)
    (freshConn .empty .empty) frontAndBack 3 (by decide)).imp fun after reached =>
      ⟨reached.1, reached.2,
        subnets_disjoint asciiPrintable .empty .empty frontAndBack after reached.1⟩

/-- Neither order of a given subnet and a smaller one inside it is refused. -/
theorem given_subnets_overlap :
    ¬ ∀ printable images volumes creations after,
      Run (create printable) anyAction (freshConn images volumes) creations after →
      Throughout SubnetsDisjoint after := by
  intro claimed
  rcases run_of_replay (create asciiPrintable) anyAction
    (fun conn => (conn.committed.networks.rows.get 1,
      conn.committed.networks.rows.get 2)) (freshConn .empty .empty)
    [⟨some "inner", .parsed (.v4 innerNetwork), none⟩,
      ⟨some "wide", .parsed (.v4 wideNetwork), none⟩]
    (some ⟨"inner", some (.v4 innerNetwork)⟩, some ⟨"wide", some (.v4 wideNetwork)⟩) (by decide)
    with ⟨after, run, read⟩
  have disjoint :=
    (claimed _ _ _ _ _ run).1 1 2 _ _ (congrArg Prod.fst read) (congrArg Prod.snd read) (by decide)
  exact disjoint _ _ rfl rfl ⟨0x0A000105, by decide, by decide⟩

end Example

end Disjointness

end Dockermock.Database
