import Dockermock.Dns.Shared

/-!
Finds against inserts that come one after another. What a find returns is what it
would have returned in one go, in the trie after some of the inserts: all that had
returned when it began, and none that had not when it ended.
-/

namespace Dockermock.Dns.Shared

open Library Network TrieNode
open SubnetTrie (insertAll networkPath nameAt_insertAll)

variable {Name : Type}

section Registers

/-- The registers a find reads: the names on the way to its address, after that many inserts. -/
def onTheWay (history : List (Name × IPv4Network)) (ip : IPv4Address) (moment index : Nat) :
    Option Name :=
  nameAt ((bitsOf ip.value 32).take (index + 1)) (insertAll (history.take moment)).root

theorem findFrom_eq_lastHeld (bits : List Bool) (node : TrieNode Name) (lastFound : Option Name) :
    findFrom bits node lastFound =
      (lastHeld (fun index => nameAt (bits.take (index + 1)) node) bits.length).or lastFound := by
  induction bits generalizing node lastFound with
  | nil => rfl
  | cons bit rest ih =>
      rw [findFrom, List.length_cons, lastHeld_front]
      cases held : node.child bit with
      | none =>
          have empty : ∀ index, 0 ≤ index → index < rest.length →
              nameAt ((bit :: rest).take (index + 1 + 1)) node = none := fun index _ _ => by
                simp [nameAt, held]
          rw [lastHeld_rest (Nat.zero_le _) empty]
          simp [lastHeld, nameAt, held]
      | some next =>
          have below : ∀ index, nameAt ((bit :: rest).take (index + 1)) node =
              nameAt (rest.take index) next :=
            fun index => by simp [nameAt, held]
          simp only [below, List.take_zero, Option.or_assoc]
          rw [ih]
          cases named : next.networkName <;> simp [nameAt, named]

theorem find_eq_lastHeld (history : List (Name × IPv4Network)) (ip : IPv4Address) (moment : Nat) :
    (insertAll (history.take moment)).find ip = lastHeld (onTheWay history ip moment) 32 := by
  rw [SubnetTrie.find, findFrom_eq_lastHeld, Option.or_none, bitsOf_length]
  rfl

theorem onTheWay_filling (history : List (Name × IPv4Network)) (ip : IPv4Address) :
    Filling (onTheWay history ip) := by
  intro earlier later index ordered empty
  rw [onTheWay, nameAt_insertAll] at empty ⊢
  by_contra held
  rcases Option.ne_none_iff_exists'.mp held with ⟨name, held⟩
  have written := (latest_isSome_iff _ _).mp ⟨name, held⟩
  have still : history.take earlier <+: history.take later := List.take_prefix_take_left ordered
  rcases (latest_isSome_iff _ _).mpr (((still.map _).map Prod.fst).subset written) with
    ⟨other, there⟩
  rw [empty] at there
  cases there

theorem onTheWay_append (history : List (Name × IPv4Network)) (entry : Name × IPv4Network)
    (ip : IPv4Address) {moment : Nat} (before : moment ≤ history.length) :
    onTheWay (history ++ [entry]) ip moment = onTheWay history ip moment := by
  funext index
  rw [onTheWay, onTheWay, List.take_append_of_le_length before]

end Registers

section Serial

/-- No insert begins before the one in front of it has returned, as the requests of one client do
not. -/
def oneInsert (system : System Name) : Action Name → Prop
  | .insert _ _ _ => system.inserts.entries = []
  | _ => True

instance : ∀ (system : System Name) (action : Action Name), Decidable (oneInsert system action)
  | system, .insert _ _ _ =>
      decidable_of_iff (system.inserts.entries.isEmpty = true) List.isEmpty_iff
  | _, .insertOn _ => isTrue trivial
  | _, .find _ _ => isTrue trivial
  | _, .findOn _ => isTrue trivial

def Reading (place : Nat → List Bool) (system : System Name) (call : FindCall Name) : Prop :=
  let gathered := Gathered (onTheWay system.history call.ip) call.since system.history.length
  match call.point with
  | .testing node _ lastFound => gathered (place node).length lastFound
  | .descending node _ _ lastFound => gathered (place node).length lastFound
  | .naming node _ lastFound => ∃ depth, (place node).length = depth + 1 ∧ gathered depth lastFound
  | .taking node _ lastFound =>
      system.heap.networkName node ≠ none ∧ ∃ depth, (place node).length = depth + 1 ∧
        gathered depth lastFound

def Linear (history : List (Name × IPv4Network)) (answer : Answer Name) : Prop :=
  ∃ moment, answer.since ≤ moment ∧ moment ≤ answer.upTo ∧
    answer.found = (insertAll (history.take moment)).find answer.ip

/-- One node object for each place, with the name that the trie has there. -/
structure Serial (place : Nat → List Bool) (system : System Name) :
    Prop extends Placed place system where
  sole : ∀ id other call rival, system.inserts.get id = some call →
    system.inserts.get other = some rival → id = other
  injective : ∀ node < system.heap.length, ∀ other < system.heap.length,
    place node = place other → node = other
  parents : ∀ node < system.heap.length, node ≠ 0 → ∃ parent bit,
    system.heap.child parent bit = some node
  named : ∀ node < system.heap.length,
    system.heap.networkName node = nameAt (place node) (insertAll system.history).root
  covered : ∀ path name, nameAt path (insertAll system.history).root = some name →
    ∃ node < system.heap.length, place node = path
  creating : ∀ id call node bit rest, system.inserts.get id = some call →
    call.point = .creating node bit rest → system.heap.child node bit = none
  reading : ∀ id call, system.finds.get id = some call → Reading place system call
  linear : ∀ answer ∈ system.answers, Linear system.history answer

variable {place : Nat → List Bool} {system : System Name}

theorem child_below {heap : Heap Name} {node next : Nat} {bit : Bool}
    (held : heap.child node bit = some next) : node < heap.length := by
  by_contra outside
  rw [Heap.child, List.getElem?_eq_none (Nat.le_of_not_lt outside)] at held
  cases held

theorem Serial.unborn (serial : Serial place system) {node : Nat} {bit : Bool}
    (there : node < system.heap.length) (absent : system.heap.child node bit = none) :
    ∀ other < system.heap.length, place other ≠ place node ++ [bit] := by
  intro other below path
  have inner : other ≠ 0 := by
    rintro rfl
    rw [serial.root.2] at path
    exact List.append_ne_nil_of_right_ne_nil _ (List.cons_ne_nil bit []) path.symm
  rcases serial.parents other below inner with ⟨parent, side, held⟩
  have behind := (serial.edges parent side other held).2
  rcases List.append_inj' (path.symm.trans behind) rfl with ⟨same, sides⟩
  obtain rfl := serial.injective node there parent (child_below held) same
  cases sides
  rw [absent] at held
  cases held

theorem Serial.above (serial : Serial place system) (front back : List Bool) :
    ∀ node < system.heap.length, place node = front ++ back → ∃ other < system.heap.length,
        place other = front := by
  induction back using List.reverseRecOn with
  | nil => exact fun node below path => ⟨node, below, by rw [path, List.append_nil]⟩
  | append_singleton back bit ih =>
      intro node below path
      have inner : node ≠ 0 := by
        rintro rfl
        rw [serial.root.2, ← List.append_assoc] at path
        exact List.append_ne_nil_of_right_ne_nil _ (List.cons_ne_nil bit []) path.symm
      rcases serial.parents node below inner with ⟨parent, side, held⟩
      have behind := (serial.edges parent side node held).2
      rw [path, ← List.append_assoc] at behind
      exact ih parent (child_below held) (List.append_inj' behind rfl).1.symm

theorem Serial.nothing_below (serial : Serial place system) {node : Nat} {bit : Bool}
    (there : node < system.heap.length) (absent : system.heap.child node bit = none)
    (more : List Bool) :
    nameAt (place node ++ bit :: more) (insertAll system.history).root = none := by
  by_contra held
  rcases Option.ne_none_iff_exists'.mp held with ⟨name, held⟩
  rcases serial.covered _ name held with ⟨last, below, path⟩
  rw [← List.singleton_append, ← List.append_assoc] at path
  rcases serial.above (place node ++ [bit]) more last below path with ⟨other, inside, here⟩
  exact serial.unborn there absent other inside here

theorem Serial.register (serial : Serial place system) {ip : IPv4Address} {node depth : Nat}
    {rest : List Bool} (there : node < system.heap.length)
    (path : place node ++ rest = bitsOf ip.value 32) (length : (place node).length = depth + 1) :
    onTheWay system.history ip system.history.length depth = system.heap.networkName node := by
  rw [onTheWay, List.take_length, serial.named node there, ← path, ← length, List.take_left]

theorem Serial.registers_below (serial : Serial place system) {ip : IPv4Address} {node : Nat}
    {bit : Bool} {rest : List Bool} (there : node < system.heap.length)
    (absent : system.heap.child node bit = none)
    (path : place node ++ bit :: rest = bitsOf ip.value 32) (index : Nat)
    (behind : (place node).length ≤ index) :
    onTheWay system.history ip system.history.length index = none := by
  obtain ⟨further, rfl⟩ := Nat.exists_eq_add_of_le behind
  rw [onTheWay, List.take_length, ← path, Nat.add_assoc, List.take_length_add_append,
    List.take_succ_cons]
  exact serial.nothing_below there absent _

theorem gathered_append {history : List (Name × IPv4Network)} {ip : IPv4Address} {since count : Nat}
    {found : Option Name} (entry : Name × IPv4Network)
    (gathered : Gathered (onTheWay history ip) since history.length count found) :
    Gathered (onTheWay (history ++ [entry]) ip) since (history ++ [entry]).length count found :=
  (gathered.congr fun _ before => onTheWay_append history entry ip before).later
    (by rw [List.length_append]; exact Nat.le_add_right _ _)

theorem Reading.moved {others : Nat → List Bool} {after : System Name} {call : FindCall Name}
    (reading : Reading place system call) (same : others call.point.node = place call.point.node)
    (named : ∀ node, after.heap.networkName node = none → system.heap.networkName node = none)
    (still : ∀ count found,
      Gathered (onTheWay system.history call.ip) call.since system.history.length count found →
        Gathered (onTheWay after.history call.ip) call.since after.history.length count found) :
    Reading others after call := by
  rcases call with ⟨ip, since, point⟩
  cases point with
  | testing node bits lastFound => exact still _ _ (same ▸ reading)
  | descending node bit rest lastFound => exact still _ _ (same ▸ reading)
  | naming node rest lastFound =>
      rcases reading with ⟨depth, length, gathered⟩
      exact ⟨depth, same ▸ length, still _ _ gathered⟩
  | taking node rest lastFound =>
      rcases reading with ⟨there, depth, length, gathered⟩
      exact ⟨fun unnamed => there (named node unnamed), depth, same ▸ length, still _ _ gathered⟩

theorem reading_testing {ip : IPv4Address} {since count node : Nat} {bits : List Bool}
    {lastFound : Option Name} (passed : (place node).length = count) :
    Reading place system ⟨ip, since, .testing node bits lastFound⟩ ↔
      Gathered (onTheWay system.history ip) since system.history.length count lastFound := by
  rw [← passed]
  rfl

theorem Linear.later {history : List (Name × IPv4Network)} {answer : Answer Name}
    (linear : Linear history answer) (before : answer.upTo ≤ history.length)
    (entry : Name × IPv4Network) : Linear (history ++ [entry]) answer := by
  rcases linear with ⟨moment, begun, ended, found⟩
  exact ⟨moment, begun, ended, by
    rw [List.take_append_of_le_length (Nat.le_trans ended before), found]⟩

theorem initial_serial : Serial (fun _ => []) (System.initial : System Name) where
  toPlaced := initial_placed
  sole := nofun
  injective := by
    intro node below other inside _
    rw [Nat.lt_one_iff.mp below, Nat.lt_one_iff.mp inside]
  parents := fun node below inner => absurd (Nat.lt_one_iff.mp below) inner
  named := by
    intro node below
    rw [Nat.lt_one_iff.mp below]
    rfl
  covered := by
    intro path name held
    rw [show (System.initial : System Name).history = [] from rfl, nameAt_insertAll] at held
    cases held
  creating := nofun
  reading := nofun
  linear := nofun

section Inserts
variable {id : Nat} {call : InsertCall Name}

theorem Serial.insertOn (serial : Serial place system)
    (alone : ∀ other rival, system.inserts.get other = some rival → other = id)
    (there : call.point.node < system.heap.length)
    (path : place call.point.node ++ call.point.ahead = networkPath call.subnet)
    (absent : ∀ node bit rest, call.point = .creating node bit rest →
      system.heap.child node bit = none) :
    Serial place { system with inserts := system.inserts.set id call } := by
  have only : ∀ other rival, (system.inserts.set id call).get other = some rival → other = id := by
    intro other rival held
    rw [Dict.get_set] at held
    split_ifs at held with same
    · exact same
    · exact alone other rival held
  refine { serial with toPlaced := serial.toPlaced.insertOn there path, sole := ?_, creating := ?_ }
  · intro one other _ _ held look
    rw [only one _ held, only other _ look]
  · intro other rival node bit rest held point
    rw [Dict.get_set] at held
    split_ifs at held
    · cases held
      exact absent node bit rest point
    · exact serial.creating other rival node bit rest held point

theorem Serial.insertGone (serial : Serial place system) :
    Serial place { system with inserts := system.inserts.pop id } := by
  have old : ∀ other rival, (system.inserts.pop id).get other = some rival →
      system.inserts.get other = some rival := by
    intro other rival held
    rw [Dict.get_pop] at held
    split_ifs at held
    exact held
  refine { serial with toPlaced := serial.toPlaced.insertGone, sole := ?_, creating := ?_ }
  · exact fun one other left right held look =>
      serial.sole one other left right (old _ _ held) (old _ _ look)
  · exact fun other rival node bit rest held point =>
      serial.creating other rival node bit rest (old _ _ held) point

theorem Serial.create (serial : Serial place system) {networkName : Name} {subnet : IPv4Network}
    {node : Nat} {bit : Bool} {rest : List Bool}
    (held : system.inserts.get id = some ⟨networkName, subnet, .creating node bit rest⟩) :
    Serial (Function.update place system.heap.length (place node ++ [bit]))
      { system with
        heap := system.heap.create node bit
        inserts := system.inserts.set id ⟨networkName, subnet, .descending node bit rest⟩ } := by
  have there : node < system.heap.length := (serial.inserts id _ held).1
  have absent := serial.creating id _ node bit rest held rfl
  have unborn := serial.unborn there absent
  -- no other insert is under way that could find this child missing as well
  have alone : ∀ other rival, system.inserts.get other = some rival → other = id :=
    fun other rival look => serial.sole other id rival _ look held
  have made := serial.toPlaced.create there bit
  have old : ∀ other < system.heap.length,
      Function.update place system.heap.length (place node ++ [bit]) other = place other :=
    fun other below => Function.update_of_ne (Nat.ne_of_lt below) _ _
  have new : Function.update place system.heap.length (place node ++ [bit]) system.heap.length =
      place node ++ [bit] :=
    Function.update_self _ _ _
  have sizes : ∀ other < (system.heap.create node bit).length, other < system.heap.length ∨
      other = system.heap.length :=
    fun other below => Nat.lt_succ_iff_lt_or_eq.mp (by simpa using below)
  constructor
  case toPlaced =>
    rcases made.inserts id _ held with ⟨below, path⟩
    exact made.insertOn below path
  case sole =>
    intro one other left right look seen
    rw [Dict.get_set] at look seen
    have first : one = id := by
      split_ifs at look with same
      · exact same
      · exact alone one left look
    have second : other = id := by
      split_ifs at seen with same
      · exact same
      · exact alone other right seen
    rw [first, second]
  -- the new object is at a place that had none
  case injective =>
    intro one below other inside same
    rcases sizes one below with before | rfl <;> rcases sizes other inside with earlier | rfl
    · rw [old one before, old other earlier] at same
      exact serial.injective one before other earlier same
    · rw [old one before, new] at same
      exact absurd same (unborn one before)
    · rw [old other earlier, new] at same
      exact absurd same.symm (unborn other earlier)
    · rfl
  case parents =>
    intro other below inner
    rcases sizes other below with before | rfl
    · rcases serial.parents other before inner with ⟨parent, side, edge⟩
      refine ⟨parent, side, ?_⟩
      rw [Heap.child_create there, if_neg]
      · exact edge
      · rintro ⟨rfl, rfl⟩
        rw [absent] at edge
        cases edge
    · exact ⟨node, bit, by rw [Heap.child_create there, if_pos ⟨rfl, rfl⟩]⟩
  case named =>
    intro other below
    simp only [Heap.networkName_create]
    rcases sizes other below with before | rfl
    · rw [old other before]
      exact serial.named other before
    · rw [new, Heap.networkName, List.getElem?_eq_none (Nat.le_refl _)]
      exact (serial.nothing_below there absent []).symm
  case covered =>
    intro path name stored
    rcases serial.covered path name stored with ⟨other, before, same⟩
    exact ⟨other, by simpa using Nat.lt_succ_of_lt before, by rw [old other before, same]⟩
  case creating =>
    intro other rival probe side more look point
    rw [Dict.get_set] at look
    split_ifs at look with same
    · cases look
      cases point
    · exact absurd (alone other rival look) same
  -- the new node has no name, so that no find can have missed one
  case reading =>
    intro other rival look
    refine (serial.reading other rival look).moved (old _ (serial.finds other rival look).1)
      (fun probe unnamed => ?_) fun _ _ gathered => gathered
    simpa using unnamed
  case linear => exact serial.linear

theorem Serial.setName (serial : Serial place system) {networkName : Name} {subnet : IPv4Network}
    {node : Nat} (held : system.inserts.get id = some ⟨networkName, subnet, .testing node []⟩) :
    Serial place
      { system with
        heap := system.heap.setName node networkName
        inserts := system.inserts.pop id
        history := system.history ++ [(networkName, subnet)] } := by
  have there : node < system.heap.length := (serial.inserts id _ held).1
  have ended : place node = networkPath subnet :=
    (List.append_nil _).symm.trans (serial.inserts id _ held).2
  have gone : Serial place { system with inserts := system.inserts.pop id } := serial.insertGone
  -- only here the sequential trie changes
  have stored : ∀ path, nameAt path (insertAll (system.history ++ [(networkName, subnet)])).root =
      if path = place node then some networkName
          else nameAt path (insertAll system.history).root := by
    intro path
    simp only [nameAt_insertAll, List.map_append, List.map_singleton, latest_concat, ended]
  constructor
  case toPlaced => exact (serial.toPlaced.setName there networkName ended).insertGone
  case sole => exact gone.sole
  case injective => simpa using serial.injective
  case parents => simpa using serial.parents
  case named =>
    intro other below
    have before : other < system.heap.length := by simpa using below
    simp only [Heap.networkName_setName there, stored]
    by_cases here : other = node
    · subst here
      simp
    · rw [if_neg here, if_neg fun same => here (serial.injective other before node there same)]
      exact serial.named other before
  case covered =>
    intro path name look
    simp only [stored] at look
    split_ifs at look with here
    · exact ⟨node, by simpa using there, here.symm⟩
    · rcases serial.covered path name look with ⟨other, before, same⟩
      exact ⟨other, by simpa using before, same⟩
  case creating =>
    intro other rival probe side more look point
    simpa using gone.creating other rival probe side more look point
  -- the one name that has come was put where a find that is still above will see it
  case reading =>
    intro other rival look
    refine (serial.reading other rival look).moved rfl (fun probe unnamed => ?_) fun _ _ gathered =>
      gathered_append _ gathered
    simp only [Heap.networkName_setName there] at unnamed
    split_ifs at unnamed
    exact unnamed
  case linear =>
    intro answer member
    exact (serial.linear answer member).later (serial.answers answer member).1 _

theorem Serial.insertStep (serial : Serial place system) {call : InsertCall Name}
    (held : system.inserts.get id = some call) :
    ∃ place, Serial place (system.insertStep id call) := by
  -- inserts come one after another, so that what this one has tested stays true
  rcases serial.inserts id call held with ⟨there, path⟩
  have alone : ∀ other rival, system.inserts.get other = some rival → other = id :=
    fun other rival look => serial.sole other id rival _ look held
  rcases call with ⟨networkName, subnet, point⟩
  cases point with
  | testing node bits =>
      cases bits with
      | nil => exact ⟨place, serial.setName held⟩
      | cons bit rest =>
          refine ⟨place, ?_⟩
          by_cases absent : system.heap.child node bit = none
          · simp only [System.insertStep, insertTurn, if_pos absent]
            refine serial.insertOn alone there path ?_
            rintro _ _ _ ⟨⟩
            exact absent
          · simp only [System.insertStep, insertTurn, if_neg absent]
            refine serial.insertOn alone there path ?_
            rintro _ _ _ ⟨⟩
  | creating node bit rest => exact ⟨_, serial.create held⟩
  | descending node bit rest =>
      refine ⟨place, ?_⟩
      cases found : system.heap.child node bit with
      | none =>
          simp only [System.insertStep, insertTurn, found]
          exact serial.insertGone
      | some next =>
          rcases serial.edges node bit next found with ⟨below, behind⟩
          simp only [System.insertStep, insertTurn, found]
          refine serial.insertOn alone below ?_ ?_
          · rw [InsertPoint.node, InsertPoint.ahead, behind, List.append_assoc]
            exact path
          · rintro _ _ _ ⟨⟩

end Inserts

section Finds
variable {id : Nat}

theorem Serial.findOn (serial : Serial place system) {call : FindCall Name}
    (there : call.point.node < system.heap.length)
    (path : place call.point.node ++ call.point.ahead = bitsOf call.ip.value 32)
    (vouched : Vouched system.history call.ip call.point.lastFound)
    (reading : Reading place system call) :
    Serial place { system with finds := system.finds.set id call } := by
  refine { serial with toPlaced := serial.toPlaced.findOn there path vouched, reading := ?_ }
  intro other held look
  rw [Dict.get_set] at look
  split_ifs at look
  · cases look
    exact reading
  · exact serial.reading other held look

theorem Serial.findGone (serial : Serial place system) :
    Serial place { system with finds := system.finds.pop id } := by
  refine { serial with toPlaced := serial.toPlaced.findGone, reading := ?_ }
  intro other held look
  rw [Dict.get_pop] at look
  split_ifs at look
  exact serial.reading other held look

/-- With all registers behind it, a find returns what one moment showed. -/
theorem Serial.answered (serial : Serial place system) {ip : IPv4Address} {since : Nat}
    {found : Option Name} (vouched : Vouched system.history ip found)
    (gathered : Gathered (onTheWay system.history ip) since system.history.length 32 found) :
    Serial place { system with answers :=
      system.answers ++ [⟨ip, since, system.history.length, found⟩] } := by
  rcases gathered with ⟨moment, begun, ended, same⟩
  refine { serial with
    toPlaced := serial.toPlaced.answered since vouched
    linear := List.forall_mem_append.mpr ⟨serial.linear, List.forall_mem_singleton.mpr ?_⟩ }
  exact ⟨moment, begun, ended, by rw [find_eq_lastHeld, same]⟩

theorem Serial.findStep (serial : Serial place system) {call : FindCall Name}
    (held : system.finds.get id = some call) : Serial place (system.findStep id call) := by
  rcases serial.finds id call held with ⟨there, path, vouched⟩
  have reading := serial.reading id call held
  have filling := onTheWay_filling system.history call.ip
  rcases call with ⟨ip, since, point⟩
  cases point with
  | testing node bits lastFound =>
      cases bits with
      | nil =>
          -- at the end of the path every register has been read
          have whole : (place node).length = 32 := by
            rw [show place node = bitsOf ip.value 32 by
              simpa [FindPoint.node, FindPoint.ahead] using path, bitsOf_length]
          exact (serial.answered vouched ((reading_testing whole).mp reading)).findGone
      | cons bit rest =>
          have inside : (place node).length ≤ 32 := by
            rw [← bitsOf_length ip.value 32, ← path, List.length_append]
            exact Nat.le_add_right _ _
          by_cases absent : system.heap.child node bit = none
          · simp only [System.findStep, findTurn, if_pos absent]
            -- the registers behind a missing child are empty, and were so before
            refine (serial.answered vouched ?_).findGone
            exact reading.rest filling inside fun index behind _ =>
              serial.registers_below there absent path index behind
          · simp only [System.findStep, findTurn, if_neg absent]
            exact serial.findOn there path vouched reading
  | descending node bit rest lastFound =>
      cases found : system.heap.child node bit with
      | none =>
          simp only [System.findStep, findTurn, found]
          exact serial.findGone
      | some next =>
          rcases serial.edges node bit next found with ⟨below, behind⟩
          simp only [System.findStep, findTurn, found]
          refine serial.findOn below ?_ vouched ⟨(place node).length, by rw [behind]; simp, reading⟩
          rw [FindPoint.node, FindPoint.ahead, behind, List.append_assoc]
          exact path
  | naming node rest lastFound =>
      rcases reading with ⟨depth, length, gathered⟩
      have register := serial.register there path length
      by_cases unnamed : system.heap.networkName node = none
      · simp only [System.findStep, findTurn, if_pos unnamed]
        refine serial.findOn there path vouched ((reading_testing length).mpr ?_)
        -- an empty register now was empty at the moment that is being shown
        exact gathered.read filling _ (Or.inr ⟨register.trans unnamed, rfl⟩)
      · simp only [System.findStep, findTurn, if_neg unnamed]
        exact serial.findOn there path vouched ⟨unnamed, depth, length, gathered⟩
  | taking node rest lastFound =>
      rcases reading with ⟨named, depth, length, gathered⟩
      refine serial.findOn there path (serial.vouched path) ((reading_testing length).mpr ?_)
      exact gathered.read filling _ (Or.inl ⟨(serial.register there path length).symm, named⟩)

end Finds

theorem step_serial {after : System Name} {action : Action Name} (serial : Serial place system)
    (admitted : oneInsert system action) (stepped : system.step action = some after) :
    ∃ place, Serial place after := by
  cases action with
  | insert id networkName subnet =>
      rw [System.step, Option.ite_none_right_eq_some] at stepped
      cases stepped.2
      have idle : ∀ other rival, system.inserts.get other = some rival → other = id := by
        intro other rival held
        have listed := (Dict.get_eq_some_iff _ _ _).mp held
        rw [show system.inserts.entries = [] from admitted] at listed
        cases listed
      refine ⟨place,
        serial.insertOn idle serial.root.1 (by rw [InsertPoint.node, serial.root.2]; rfl) ?_⟩
      rintro _ _ _ ⟨⟩
  | insertOn id =>
      rcases Option.map_eq_some_iff.mp stepped with ⟨call, held, rfl⟩
      exact serial.insertStep held
  | find id ip =>
      rw [System.step, Option.ite_none_right_eq_some] at stepped
      cases stepped.2
      have reading : Reading place system
          ⟨ip, system.history.length, .testing 0 (bitsOf ip.value 32) none⟩ :=
        (reading_testing (congrArg List.length serial.root.2)).mpr (gathered_start (Nat.le_refl _))
      have vouched : Vouched system.history ip none := fun name found => (by cases found)
      exact ⟨place,
        serial.findOn serial.root.1 (by rw [FindPoint.node, serial.root.2]; rfl) vouched reading⟩
  | findOn id =>
      rcases Option.map_eq_some_iff.mp stepped with ⟨call, held, rfl⟩
      exact ⟨place, serial.findStep held⟩

/-- Finds without a lock are as good as atomic: one after another with the inserts, each at a
moment between its begin and its end. -/
theorem find_linearizable {actions : List (Action Name)} {after : System Name}
    (run : Run System.step oneInsert System.initial actions after) (answer : Answer Name)
    (returned : answer ∈ after.answers) :
    answer.upTo ≤ after.history.length ∧ ∃ moment, answer.since ≤ moment ∧ moment ≤ answer.upTo ∧
      answer.found = (insertAll (after.history.take moment)).find answer.ip := by
  have serial : ∃ place, Serial place after := by
    apply run_invariant (fun system => ∃ place, Serial place system) _ run ⟨_, initial_serial⟩
    rintro before action next ⟨place, serial⟩ admitted stepped
    exact step_serial serial admitted stepped
  rcases serial with ⟨place, serial⟩
  exact ⟨(serial.answers answer returned).1, serial.linear answer returned⟩

end Serial

section Example

def quarter : IPv4Network := ⟨0x80000000, 2, by decide, by decide, by decide⟩

def quarterHost : IPv4Address := ⟨0x80000001, by decide⟩

/-- The find is at the first node before the insert has made the second. -/
def overtaken : List (Action String) :=
  [.insert 0 "front" quarter, .find 7 quarterHost] ++ List.replicate 3 (.insertOn 0) ++
    List.replicate 3 (.findOn 7) ++ List.replicate 4 (.insertOn 0) ++ List.replicate 5 (.findOn 7)

def answersOf (system : System String) : List (Nat × Nat × Option String) :=
  system.answers.map fun answer => (answer.since, answer.upTo, answer.found)

theorem found_contains_overtaken :
    ∃ after : System String, Run System.step anyAction System.initial overtaken after ∧
      ∃ answer ∈ after.answers, answer.found = some "front" ∧
        ∃ net, ("front", net) ∈ after.history.take answer.upTo ∧ net.Contains answer.ip.value := by
  rcases run_of_replay System.step anyAction answersOf System.initial overtaken
      [(0, 1, some "front")] (by decide) with
    ⟨after, run, answers⟩
  rcases List.mem_map.mp (answers ▸ List.mem_cons_self :
      (0, 1, some "front") ∈ answersOf after) with
    ⟨answer, returned, same⟩
  have found : answer.found = some "front" := congrArg (fun times => times.2.2) same
  exact ⟨after, run, answer, returned, found, found_contains run answer returned "front" found⟩

theorem find_linearizable_overtaken :
    ∃ after : System String, Run System.step oneInsert System.initial overtaken after ∧
      ∃ answer ∈ after.answers, answer.found = some "front" ∧
        ∃ moment, answer.since ≤ moment ∧ moment ≤ answer.upTo ∧
          answer.found = (insertAll (after.history.take moment)).find answer.ip := by
  rcases run_of_replay System.step oneInsert answersOf System.initial overtaken
      [(0, 1, some "front")] (by decide) with
    ⟨after, run, answers⟩
  rcases List.mem_map.mp (answers ▸ List.mem_cons_self :
      (0, 1, some "front") ∈ answersOf after) with
    ⟨answer, returned, same⟩
  have found : answer.found = some "front" := congrArg (fun times => times.2.2) same
  exact ⟨after, run, answer, returned, found, (find_linearizable run answer returned).2⟩

/-- Two inserts at once that both find the first node missing: the one that puts its node there
last takes the other's away, and a later find misses a network that was inserted. -/
example :
    (replay System.step anyAction (System.initial : System String)
      ([.insert 0 "front" quarter,
        .insert 1 "back" ⟨0xC0000000, 2, by decide, by decide, by decide⟩, .insertOn 0,
        .insertOn 1] ++ List.replicate 6 (.insertOn 0) ++ List.replicate 6 (.insertOn 1) ++
          [.find 7 quarterHost] ++
        List.replicate 4 (.findOn 7))).map (fun after => (after.history.length, answersOf after)) =
      some (2, [(2, 2, none)]) := by decide

end Example

end Dockermock.Dns.Shared
