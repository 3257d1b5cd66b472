import Dockermock.Library.Transition
import Dockermock.Dns.SharedTree

/-!
Queries against inserts that go on meanwhile. A query that returns has found every
name that was registered below its own when it began, each once and with an address
of its time; one that raises was overtaken by the registration of a new name.
-/

namespace Dockermock.Dns.SharedTree

open Library Library.Traversal DnsTreeNode
open DnsTree (labelled)

variable {Addr : Type}

section Inserting

def InsertPoint.node : InsertPoint → List String
  | .testing node _ => node
  | .creating node _ _ => node
  | .descending node _ _ => node

def InsertPoint.ahead : InsertPoint → List String
  | .testing _ parts => parts
  | .creating _ part rest => part :: rest
  | .descending _ part rest => part :: rest

/-- What the last test of an insert has told it. -/
def InsertPoint.Tested (root : DnsTreeNode Addr) : InsertPoint → Prop
  | .testing _ _ => True
  | .creating node part _ => part ∉ labels root node
  | .descending node part _ => part ∈ labels root node

structure Placed (root : DnsTreeNode Addr) (call : InsertCall Addr) : Prop where
  there : descend call.point.node root ≠ none
  path : call.point.node ++ call.point.ahead = rsplitGenerator call.domain
  tested : call.point.Tested root

def registered (history : List (String × Addr)) (moment : Nat) (path : List String) : Option Addr :=
  latest (labelled (history.take moment)) path

structure Standing (system : System Addr) : Prop where
  distinct : ∀ node, (labels system.root node).Nodup
  reads : ∀ node, readAt node system.root = registered system.history system.history.length node
  inserting : ∀ call, system.inserting = some call → Placed system.root call

/-- An insert that returned after that many others, or has the lock. -/
def Overlaps (system : System Addr) (since : Nat) (domain : String) : Prop :=
  system.inserting.map InsertCall.domain = some domain ∨
    domain ∈ (system.history.drop since).map Prod.fst

/-- What a query can rely on while others go on. New children come with an insert of a name that was
not there. -/
structure Later (before after : System Addr) : Prop where
  labels : Grows (labels before.root) (labels after.root)
  history : before.history <+: after.history
  held : ∀ node, readAt node before.root ≠ none → readAt node after.root ≠ none
  overlaps : ∀ since ≤ before.history.length, ∀ domain, Overlaps before since domain →
    Overlaps after since domain
  grown : ∀ node,
    (SharedTree.labels after.root node).length = (SharedTree.labels before.root node).length ∨
    ∃ domain, Overlaps after before.history.length domain ∧ node <+: rsplitGenerator domain ∧
      readAt (rsplitGenerator domain) before.root = none

theorem registered_later {history more : List (String × Addr)} {moment : Nat}
    (extends' : history <+: more) (inside : moment ≤ history.length) (path : List String) :
    registered more moment path = registered history moment path := by
  rcases extends' with ⟨rest, rfl⟩
  rw [registered, registered, List.take_append_of_le_length inside]

theorem registered_stays {history : List (String × Addr)} {earlier later : Nat}
    (ordered : earlier ≤ later) {path : List String}
    (held : registered history earlier path ≠ none) : registered history later path ≠ none := by
  rcases Option.ne_none_iff_exists'.mp held with ⟨ip, held⟩
  have written := (latest_isSome_iff _ _).mp ⟨ip, held⟩
  have still : history.take earlier <+: history.take later := List.take_prefix_take_left ordered
  rcases (latest_isSome_iff _ _).mpr (((still.map _).map Prod.fst).subset written) with
    ⟨other, there⟩
  exact Option.ne_none_iff_exists'.mpr ⟨other, there⟩

theorem registered_append (history : List (String × Addr)) (domain : String) (ip : Addr)
    (path : List String) :
    registered (history ++ [(domain, ip)]) (history ++ [(domain, ip)]).length path =
      if path = rsplitGenerator domain then some ip
        else registered history history.length path := by
  rw [registered, registered, List.take_length, List.take_length, labelled, List.map_append]
  exact latest_concat _ _ _ _

theorem later_refl (system : System Addr) : Later system system where
  labels := fun _ => List.prefix_rfl
  history := List.prefix_rfl
  held := fun _ held => held
  overlaps := fun _ _ _ overlaps => overlaps
  grown := fun _ => Or.inl rfl

variable {system : System Addr} {call : InsertCall Addr}

theorem absent_below {root : DnsTreeNode Addr} {node : List String} {part : String}
    (rest : List String)
    (fresh : part ∉ labels root node) : readAt (node ++ part :: rest) root = none := by
  by_contra held
  have there := descend_of_read held
  rw [List.append_cons] at there
  exact fresh ((descend_iff_member root node part).mp (descend_of_append there))

theorem Standing.moved (standing : Standing system) {point : InsertPoint}
    (held : system.inserting = some call)
    (placed : Placed system.root { call with point := point }) :
    Standing { system with inserting := some { call with point := point } } ∧
      Later system { system with inserting := some { call with point := point } } := by
  constructor
  · refine { standing with inserting := ?_ }
    rintro _ ⟨⟩
    exact placed
  · refine { later_refl system with overlaps := ?_, grown := fun _ => Or.inl rfl }
    intro since _ domain overlaps
    rw [Overlaps, held] at overlaps
    exact overlaps

theorem Standing.insertStep (standing : Standing system) (held : system.inserting = some call) :
    Standing (system.insertStep call) ∧ Later system (system.insertStep call) := by
  have placed := standing.inserting call held
  rcases call with ⟨domain, ip, point⟩
  cases point with
  | testing node parts =>
      cases parts with
      -- the last assignment, `node.ip = ip`: the insert enters the history and nothing else moves
      | nil =>
          have ended : node = rsplitGenerator domain := by
            simpa [InsertPoint.node, InsertPoint.ahead] using placed.path
          have there : descend node system.root ≠ none := placed.there
          have same := labels_setIp there ip
          constructor
          · constructor
            case distinct =>
              intro probe
              simpa only [System.insertStep, insertTurn, same] using standing.distinct probe
            case reads =>
              intro probe
              simp only [System.insertStep, insertTurn]
              rw [readAt_setIp there, registered_append, standing.reads, ended]
            case inserting => rintro _ ⟨⟩
          · constructor
            case labels =>
              intro probe
              simp only [System.insertStep, insertTurn, same, List.prefix_rfl]
            case history => exact List.prefix_append _ _
            case held =>
              intro probe was
              simp only [System.insertStep, insertTurn]
              rw [readAt_setIp there]
              split_ifs
              · exact Option.some_ne_none ip
              · exact was
            -- the call that held the lock is now the newest entry of the history
            case overlaps =>
              intro since inside other overlaps
              refine Or.inr ?_
              simp only [System.insertStep, insertTurn]
              rw [List.drop_append_of_le_length inside, List.map_append, List.mem_append]
              rcases overlaps with overlaps | overlaps
              · rw [held] at overlaps
                cases overlaps
                exact Or.inr List.mem_cons_self
              · exact Or.inl overlaps
            case grown =>
              exact fun probe => Or.inl (by simp only [System.insertStep, insertTurn, same])
      | cons part rest =>
          by_cases member : part ∈ labels system.root node
          · simp only [System.insertStep, insertTurn, if_pos member]
            exact standing.moved held ⟨placed.there, placed.path, member⟩
          · simp only [System.insertStep, insertTurn, if_neg member]
            exact standing.moved held ⟨placed.there, placed.path, member⟩
  -- `node.children[part] = DnsTreeNode()`: the only step that lengthens a dictionary
  | creating node part rest =>
      have there : descend node system.root ≠ none := placed.there
      have fresh : part ∉ labels system.root node := placed.tested
      have path : node ++ part :: rest = rsplitGenerator domain := placed.path
      have grows : Grows (labels system.root) (labels (create node part system.root)) := by
        intro probe
        rw [labels_create there fresh]
        split_ifs with here
        · rw [here]
          exact List.prefix_append _ _
        · exact List.prefix_rfl
      constructor
      · constructor
        case distinct =>
          intro probe
          simp only [System.insertStep, insertTurn]
          rw [labels_create there fresh]
          split_ifs
          · exact List.nodup_append.mpr ⟨standing.distinct node, List.nodup_singleton part, by
              rintro label member _ (_ | ⟨_, ⟨⟩⟩) rfl
              exact fresh member⟩
          · exact standing.distinct probe
        case reads =>
          intro probe
          simp only [System.insertStep, insertTurn]
          rw [readAt_create there fresh, standing.reads]
        case inserting =>
          rintro _ ⟨⟩
          have listed : part ∈ labels (create node part system.root) node := by
            rw [labels_create there fresh, if_pos rfl]
            exact List.mem_append_right _ List.mem_cons_self
          exact ⟨descend_of_append ((descend_iff_member _ node part).mpr listed), path, listed⟩
      · constructor
        case labels => exact grows
        case history => exact List.prefix_rfl
        case held =>
          intro probe was
          simpa only [System.insertStep, insertTurn, readAt_create there fresh] using was
        case overlaps =>
          intro since _ other overlaps
          rw [Overlaps, held] at overlaps
          exact overlaps
        -- the name is new: below the new child nothing was registered
        case grown =>
          intro probe
          by_cases here : probe = node
          · refine Or.inr ⟨domain, Or.inl rfl, ?_, ?_⟩
            · rw [here, ← path]
              exact List.prefix_append _ _
            · rw [← path]
              exact absent_below rest fresh
          · refine Or.inl ?_
            simp only [System.insertStep, insertTurn]
            rw [labels_create there fresh, if_neg here]
  | descending node part rest =>
      have member : part ∈ labels system.root node := placed.tested
      have path : node ++ part :: rest = rsplitGenerator domain := placed.path
      simp only [System.insertStep, insertTurn, if_pos member]
      refine standing.moved held ⟨(descend_iff_member _ node part).mpr member, ?_, trivial⟩
      rw [InsertPoint.node, InsertPoint.ahead, List.append_assoc]
      exact path

end Inserting

section Collecting

def CollectPoint.position : CollectPoint Addr → Position String
  | .testing node parts => .node (node ++ parts) []
  | .descending node part rest => .node (node ++ part :: rest) []
  | .asking node frames _ => .node node frames
  | .taking node frames _ => .node node frames
  | .opening node frames _ => .below node frames
  | .turning frames _ => .between frames

def CollectPoint.ips : CollectPoint Addr → List (Option Addr)
  | .testing _ _ => []
  | .descending _ _ _ => []
  | .asking _ _ ips => ips
  | .taking _ _ ips => ips
  | .opening _ _ ips => ips
  | .turning _ ips => ips

def CollectPoint.Tested (root : DnsTreeNode Addr) : CollectPoint Addr → Prop
  | .descending node part _ => part ∈ labels root node
  | .taking node _ _ => readAt node root ≠ none
  | _ => True

def Current (history : List (String × Addr)) (since upTo : Nat) (entry : List String × Addr) :
    Prop :=
  ∃ moment, since ≤ moment ∧ moment ≤ upTo ∧ registered history moment entry.1 = some entry.2

/-- The name was new, and it is below the label list. -/
def Overtook (system : System Addr) (since : Nat) (path : List String) (domain : String) : Prop :=
  Overlaps system since domain ∧ path <+: rsplitGenerator domain ∧
    registered system.history since (rsplitGenerator domain) = none

/-- How far a query is: what it has visited, and that the rest of what it must find is ahead. -/
structure Reading (system : System Addr) (call : CollectCall Addr)
    (visited : List (List String × Addr)) : Prop where
  begun : call.since ≤ system.history.length
  sized : Sized (labels system.root) call.point.position.frames
  clear : call.point.position.Clear (labels system.root)
  within : call.point.position.Within (rsplitGenerator call.domain)
  tested : call.point.Tested system.root
  ips : call.point.ips = visited.map fun entry => some entry.2
  current : ∀ entry ∈ visited, rsplitGenerator call.domain <+: entry.1 ∧
    Current system.history call.since system.history.length entry
  once : (visited.map Prod.fst).Nodup
  passed : ∀ path ∈ visited.map Prod.fst, ¬ Ahead (labels system.root) call.point.position path
  left : ∀ path, rsplitGenerator call.domain <+: path →
    registered system.history call.since path ≠ none →
    path ∈ visited.map Prod.fst ∨ Ahead (labels system.root) call.point.position path
  counted : ∀ frame ∈ call.point.position.frames,
    (labels system.root frame.path).length = frame.size ∨
    ∃ domain, Overtook system call.since frame.path domain

structure Collected (history : List (String × Addr)) (answer : Answer Addr)
    (visited : List (List String × Addr)) : Prop where
  ips : answer.ips = visited.map fun entry => some entry.2
  once : (visited.map Prod.fst).Nodup
  current : ∀ entry ∈ visited, rsplitGenerator answer.domain <+: entry.1 ∧
    Current history answer.since answer.upTo entry
  complete : ∀ path, rsplitGenerator answer.domain <+: path →
    registered history answer.since path ≠ none → path ∈ visited.map Prod.fst

def Overtaken (history : List (String × Addr)) (failure : Failure) : Prop :=
  ∃ domain, (failure.inserting = some domain ∨
      domain ∈ ((history.take failure.upTo).drop failure.since).map Prod.fst) ∧
    rsplitGenerator failure.domain <+: rsplitGenerator domain ∧
    registered history failure.since (rsplitGenerator domain) = none

theorem Current.later {history more : List (String × Addr)} {since upTo after : Nat}
    {entry : List String × Addr} (extends' : history <+: more) (inside : upTo ≤ history.length)
    (ordered : upTo ≤ after) (current : Current history since upTo entry) :
    Current more since after entry := by
  rcases current with ⟨moment, begun, ended, same⟩
  refine ⟨moment, begun, ended.trans ordered, ?_⟩
  rw [registered_later extends' (ended.trans inside), same]

section Waiting
variable {before after : System Addr} {call : CollectCall Addr}
  {visited : List (List String × Addr)}

theorem Reading.later (reading : Reading before call visited) (standing : Standing before)
    (later : Later before after) : Reading after call visited := by
  have ordered := later.history.length_le
  have known := fun path => registered_later later.history reading.begun path
  constructor
  case begun => exact reading.begun.trans ordered
  case sized => exact reading.sized.grows later.labels
  case clear => exact reading.clear.grows later.labels reading.sized
  case within => exact reading.within
  case tested =>
    have tested := reading.tested
    rcases call with ⟨domain, since, point⟩
    cases point with
    | descending node part rest => exact (later.labels node).subset tested
    | taking node frames ips => exact later.held node tested
    | _ => trivial
  case ips => exact reading.ips
  case current =>
    intro entry member
    rcases reading.current entry member with ⟨below, current⟩
    exact ⟨below, current.later later.history (Nat.le_refl _) ordered⟩
  case once => exact reading.once
  -- grown dictionaries put nothing in front of the walk that it has behind it
  case passed =>
    intro path member ahead
    exact reading.passed path member ((ahead_grows later.labels reading.sized path).mp ahead)
  case left =>
    intro path below held
    rw [known] at held
    rcases reading.left path below held with done | ahead
    · exact Or.inl done
    · exact Or.inr ((ahead_grows later.labels reading.sized path).mpr ahead)
  -- only here can a query fall short of what it counted, and then a newcomer is to blame
  case counted =>
    intro frame member
    rcases reading.counted frame member with counted | ⟨domain, overlaps, below, fresh⟩
    · rcases later.grown frame.path with same | ⟨domain, overlaps, below, absent⟩
      · exact Or.inl (same.trans counted)
      · refine Or.inr ⟨domain, ?_, below, ?_⟩
        · rcases overlaps with holds | returned
          · exact Or.inl holds
          · exact Or.inr
              (((List.drop_sublist_drop_left _ reading.begun).map Prod.fst).subset returned)
        · rw [known]
          by_contra held
          rw [standing.reads] at absent
          exact registered_stays reading.begun held absent
    · exact Or.inr ⟨domain, later.overlaps _ reading.begun domain overlaps, below, by
        rw [known, fresh]⟩

end Waiting

section Turning
variable {system : System Addr} {call : CollectCall Addr} {visited : List (List String × Addr)}

theorem Reading.known (reading : Reading system call visited) (standing : Standing system)
    {path : List String} (held : registered system.history call.since path ≠ none) :
    readAt path system.root ≠ none := by
  rw [standing.reads]
  exact registered_stays reading.begun held

theorem Reading.moved (reading : Reading system call visited) {point : CollectPoint Addr}
    (sized : Sized (labels system.root) point.position.frames)
    (clear : point.position.Clear (labels system.root))
    (within : point.position.Within (rsplitGenerator call.domain))
    (tested : point.Tested system.root) (ips : point.ips = call.point.ips)
    (behind : ∀ path, Ahead (labels system.root) point.position path →
      Ahead (labels system.root) call.point.position path)
    (ahead : ∀ path, registered system.history call.since path ≠ none →
      Ahead (labels system.root) call.point.position path →
        Ahead (labels system.root) point.position path)
    (counted : ∀ frame ∈ point.position.frames,
      (labels system.root frame.path).length = frame.size ∨ ∃ domain,
        Overtook system call.since frame.path domain) :
    Reading system { call with point := point } visited where
  begun := reading.begun
  sized := sized
  clear := clear
  within := within
  tested := tested
  ips := ips.trans reading.ips
  current := reading.current
  once := reading.once
  passed := fun path member still => reading.passed path member (behind path still)
  left := fun path below held => (reading.left path below held).imp_right (ahead path held)
  counted := counted

theorem Reading.same (reading : Reading system call visited) {point : CollectPoint Addr}
    (position : point.position = call.point.position) (ips : point.ips = call.point.ips)
    (tested : point.Tested system.root) : Reading system { call with point := point } visited := by
  apply reading.moved
  case sized => exact position ▸ reading.sized
  case clear => exact position ▸ reading.clear
  case within => exact position ▸ reading.within
  case tested => exact tested
  case ips => exact ips
  case behind => exact fun path still => position ▸ still
  case ahead => exact fun path _ still => position ▸ still
  case counted => exact position ▸ reading.counted

/-- With nothing ahead, all that had to be found has been. -/
theorem Reading.collected (reading : Reading system call visited)
    (done : ∀ path, registered system.history call.since path ≠ none →
      ¬ Ahead (labels system.root) call.point.position path) :
    Collected system.history ⟨call.domain, call.since, system.history.length,
        call.point.ips⟩ visited where
  ips := reading.ips
  once := reading.once
  current := reading.current
  complete := fun path below held => (reading.left path below held).resolve_right (done path held)

theorem Reading.visit (reading : Reading system call visited) (standing : Standing system)
    {node : List String} {frames : List (Frame String)} {ips : List (Option Addr)}
    (point : call.point = .taking node frames ips) :
    ∃ visited, Reading system
      { call with point := .opening node frames (ips ++ [readAt node system.root]) } visited := by
  rcases call with ⟨domain, since, _⟩
  obtain rfl := point
  rcases Option.ne_none_iff_exists'.mp reading.tested with ⟨ip, held⟩
  have here : Ahead (labels system.root) (.node node frames) node := Or.inl List.prefix_rfl
  -- what is still ahead has not been visited, so the node is not taken twice
  have unseen : node ∉ visited.map Prod.fst := fun member => reading.passed node member here
  have past := fun path => ahead_below node reading.clear path
  refine ⟨visited ++ [(node, ip)], ?_⟩
  constructor
  case begun => exact reading.begun
  case sized => exact reading.sized
  case clear => exact reading.clear
  case within => exact reading.within
  case tested => trivial
  case ips =>
    rw [CollectPoint.ips, List.map_append, held]
    exact congrArg (· ++ [some ip]) reading.ips
  case current =>
    refine List.forall_mem_append.mpr
      ⟨reading.current, List.forall_mem_singleton.mpr ⟨reading.within.1, ?_⟩⟩
    exact ⟨system.history.length, reading.begun, Nat.le_refl _, by rw [← standing.reads, held]⟩
  case once =>
    rw [List.map_append]
    exact List.nodup_append.mpr ⟨reading.once, List.nodup_singleton node, by
      rintro path member _ (_ | ⟨_, ⟨⟩⟩) rfl
      exact unseen member⟩
  case passed =>
    intro path member still
    rcases (past path).mp still with ⟨old, other⟩
    rw [List.map_append, List.mem_append] at member
    rcases member with member | member
    · exact reading.passed path member old
    · exact other (List.mem_singleton.mp member)
  case left =>
    intro path below was
    rw [List.map_append, List.mem_append]
    rcases reading.left path below was with done | still
    · exact Or.inl (Or.inl done)
    · by_cases same : path = node
      · exact Or.inl (Or.inr (List.mem_singleton.mpr same))
      · exact Or.inr ((past path).mpr ⟨still, same⟩)
  case counted => exact reading.counted

theorem Reading.open (reading : Reading system call visited) (standing : Standing system)
    {node : List String} {frames : List (Frame String)} {ips : List (Option Addr)}
    (point : call.point = .opening node frames ips) :
    Reading system
      { call with point := .turning (⟨node, (labels system.root node).length, 0⟩ :: frames) ips }
          visited := by
  rcases call with ⟨domain, since, _⟩
  obtain rfl := point
  apply reading.moved
  case sized => exact List.forall_mem_cons.mpr ⟨Nat.le_refl _, reading.sized⟩
  case clear => exact reading.clear
  case within => exact List.forall_mem_cons.mpr reading.within
  case tested => trivial
  case ips => rfl
  case behind => exact fun path still => ahead_opened node path still
  case ahead =>
    intro path held still
    refine ahead_open node path ?_ still
    rintro part ⟨rest, rfl⟩
    exact (descend_iff_member _ node part).mp
      (descend_of_append (descend_of_read (reading.known standing held)))
  case counted => exact List.forall_mem_cons.mpr ⟨Or.inl rfl, reading.counted⟩

def Allowed (system : System Addr) (call : CollectCall Addr) :
    Shared.Turn (CollectPoint Addr) (List (Option Addr)) → Prop
  | .goesOn point => ∃ visited, Reading system { call with point := point } visited
  | .returned ips => ∃ visited,
      Collected system.history ⟨call.domain, call.since, system.history.length, ips⟩ visited
  | .raised => ∃ domain, Overtook system call.since (rsplitGenerator call.domain) domain

theorem Reading.turn (reading : Reading system call visited) (standing : Standing system) :
    Allowed system call (collectTurn system.root call.point) := by
  rcases call with ⟨domain, since, point⟩
  cases point with
  | testing node parts =>
      cases parts with
      | nil => exact ⟨visited, reading.same (by simp [CollectPoint.position]) rfl trivial⟩
      | cons part rest =>
          by_cases member : part ∈ labels system.root node
          · simp only [collectTurn, if_pos member]
            exact ⟨visited, reading.same rfl rfl member⟩
          -- a part that is missing now was missing all along, and nothing below it is registered
          · simp only [collectTurn, if_neg member]
            refine ⟨visited, reading.collected ?_⟩
            rintro path held (⟨below, rfl⟩ | ⟨frame, ⟨⟩, _⟩)
            have there := reading.known standing held
            rw [List.append_assoc] at there
            exact there (absent_below (rest ++ below) member)
  | descending node part rest =>
      have member : part ∈ labels system.root node := reading.tested
      simp only [collectTurn, if_pos member]
      exact ⟨visited, reading.same (by simp [CollectPoint.position]) rfl trivial⟩
  | asking node frames ips =>
      by_cases empty : readAt node system.root = none
      · simp only [collectTurn, if_pos empty]
        have past := fun path => ahead_below node reading.clear path
        refine ⟨visited, reading.moved reading.sized reading.clear reading.within trivial rfl
          ?_ ?_ reading.counted⟩
        · exact fun path still => ((past path).mp still).1
        · rintro path held still
          refine (past path).mpr ⟨still, ?_⟩
          rintro rfl
          exact reading.known standing held empty
      · simp only [collectTurn, if_neg empty]
        exact ⟨visited, reading.same rfl rfl empty⟩
  | taking node frames ips => exact reading.visit standing rfl
  | opening node frames ips => exact ⟨visited, reading.open standing rfl⟩
  | turning frames ips =>
      cases frames with
      | nil =>
          refine ⟨visited, reading.collected ?_⟩
          rintro path _ ⟨frame, ⟨⟩, _⟩
      | cons frame rest =>
          have within := List.forall_mem_cons.mp reading.within
          have sized := List.forall_mem_cons.mp reading.sized
          have counted := List.forall_mem_cons.mp reading.counted
          by_cases size : (labels system.root frame.path).length = frame.size
          · simp only [collectTurn, if_pos size]
            -- the dictionary has the size it had, so that the iterator goes on where it stopped
            cases here : (labels system.root frame.path)[frame.next]? with
            | none =>
                have past : ∀ path, Ahead (labels system.root) (.between rest) path ↔
                    Ahead (labels system.root) (.between (frame :: rest)) path :=
                      ahead_done size here
                refine ⟨visited,
                  reading.moved sized.2 reading.clear.2 within.2 trivial rfl ?_ ?_ counted.2⟩
                · exact fun path => (past path).mp
                · exact fun path _ => (past path).mpr
            | some part =>
                have past : ∀ path,
                    Ahead (labels system.root)
                      (.node (frame.path ++ [part]) ({ frame with next := frame.next + 1 } :: rest))
                        path ↔
                    Ahead (labels system.root) (.between (frame :: rest)) path :=
                      ahead_next size here
                have clear := clear_next size (standing.distinct frame.path) here reading.clear
                have inside : rsplitGenerator domain <+: frame.path ++ [part] :=
                  within.1.trans (List.prefix_append _ _)
                refine ⟨visited, reading.moved ?_ clear ⟨inside, ?_⟩ trivial rfl ?_ ?_ ?_⟩
                · exact List.forall_mem_cons.mpr sized
                · exact List.forall_mem_cons.mpr within
                · exact fun path => (past path).mp
                · exact fun path _ => (past path).mpr
                · exact List.forall_mem_cons.mpr counted
          -- the iterator raises, and the count names the newcomer
          · simp only [collectTurn, if_neg size]
            rcases counted.1.resolve_left size with ⟨other, overlaps, below, fresh⟩
            exact ⟨other, overlaps, within.1.trans below, fresh⟩

end Turning

end Collecting

section Runs

/-- A call that is over, of one of the two kinds of end. -/
structure Timely (history : List (String × Addr)) (since upTo : Nat) : Prop where
  begun : since ≤ upTo
  ended : upTo ≤ history.length

structure Sound (system : System Addr) : Prop extends Standing system where
  collects : ∀ id call, system.collects.get id = some call → ∃ visited, Reading system call visited
  answers : ∀ answer ∈ system.answers, Timely system.history answer.since answer.upTo ∧
    ∃ visited, Collected system.history answer visited
  failures : ∀ failure ∈ system.failures, Timely system.history failure.since failure.upTo ∧
    Overtaken system.history failure

theorem initial_sound : Sound (System.initial : System Addr) where
  distinct := fun node => by
    rw [labels, System.initial, look_blank]
    exact List.nodup_nil
  reads := fun node => readAt_blank node
  inserting := by rintro _ ⟨⟩
  collects := by rintro _ _ ⟨⟩
  answers := by rintro _ ⟨⟩
  failures := by rintro _ ⟨⟩

theorem Timely.later {history more : List (String × Addr)} {since upTo : Nat}
    (extends' : history <+: more) (timely : Timely history since upTo) : Timely more since upTo :=
  ⟨timely.begun, timely.ended.trans extends'.length_le⟩

theorem Collected.later {history more : List (String × Addr)} {answer : Answer Addr}
    {visited : List (List String × Addr)} (extends' : history <+: more)
    (timely : Timely history answer.since answer.upTo)
    (collected : Collected history answer visited) :
    Collected more answer visited where
  ips := collected.ips
  once := collected.once
  current := fun entry member =>
    (collected.current entry member).imp_right (Current.later extends' timely.ended (Nat.le_refl _))
  complete := fun path below held => by
    rw [registered_later extends' (timely.begun.trans timely.ended)] at held
    exact collected.complete path below held

theorem Overtaken.later {history more : List (String × Addr)} {failure : Failure}
    (extends' : history <+: more) (timely : Timely history failure.since failure.upTo)
    (overtaken : Overtaken history failure) :
    Overtaken more failure := by
  rcases overtaken with ⟨domain, overlaps, below, fresh⟩
  refine ⟨domain, ?_, below, ?_⟩
  · rcases extends' with ⟨rest, rfl⟩
    rwa [List.take_append_of_le_length timely.ended]
  · rw [registered_later extends' (timely.begun.trans timely.ended), fresh]

variable {system after : System Addr} {id : Nat}

theorem Sound.later (sound : Sound system) (standing : Standing after) (later : Later system after)
    (collects : after.collects = system.collects) (answers : after.answers = system.answers)
    (failures : after.failures = system.failures) : Sound after := by
  refine { standing with collects := ?_, answers := ?_, failures := ?_ }
  · intro id call held
    rw [collects] at held
    rcases sound.collects id call held with ⟨visited, reading⟩
    exact ⟨visited, reading.later sound.toStanding later⟩
  · intro answer member
    rw [answers] at member
    rcases sound.answers answer member with ⟨timely, visited, collected⟩
    exact ⟨timely.later later.history, visited, collected.later later.history timely⟩
  · intro failure member
    rw [failures] at member
    rcases sound.failures failure member with ⟨timely, overtaken⟩
    exact ⟨timely.later later.history, overtaken.later later.history timely⟩

theorem insertStep_others (call : InsertCall Addr) :
    (system.insertStep call).collects = system.collects ∧
    (system.insertStep call).answers = system.answers ∧
        (system.insertStep call).failures = system.failures := by
  rw [System.insertStep]
  split <;> exact ⟨rfl, rfl, rfl⟩

theorem Reading.anywhere (collects : Dict Nat (CollectCall Addr)) (answers : List (Answer Addr))
    (failures : List Failure) {call : CollectCall Addr} {visited : List (List String × Addr)}
    (reading : Reading system call visited) :
    Reading { system with collects := collects, answers := answers, failures := failures }
        call visited :=
  { reading with }

theorem Sound.collectOn (sound : Sound system) {call : CollectCall Addr}
    (reading : ∃ visited, Reading system call visited) :
    Sound { system with collects := system.collects.set id call } := by
  refine { sound with collects := fun other rival look => ?_ }
  rw [Dict.get_set] at look
  split_ifs at look
  · cases look
    exact reading.imp fun _ => Reading.anywhere _ _ _
  · exact (sound.collects other rival look).imp fun _ => Reading.anywhere _ _ _

theorem Sound.collectGone (sound : Sound system) :
    Sound { system with collects := system.collects.pop id } := by
  refine { sound with collects := fun other rival look => ?_ }
  rw [Dict.get_pop, Option.ite_none_left_eq_some] at look
  exact (sound.collects other rival look.2).imp fun _ => Reading.anywhere _ _ _

theorem Sound.answered (sound : Sound system) {answer : Answer Addr}
    (timely : Timely system.history answer.since answer.upTo)
    (collected : ∃ visited, Collected system.history answer visited) :
    Sound { system with answers := system.answers ++ [answer] } where
  toStanding := { sound.toStanding with }
  collects := fun other rival look => (sound.collects other rival look).imp fun _ =>
    Reading.anywhere _ _ _
  answers :=
    List.forall_mem_append.mpr ⟨sound.answers, List.forall_mem_singleton.mpr ⟨timely, collected⟩⟩
  failures := sound.failures

theorem Sound.failed (sound : Sound system) {failure : Failure}
    (timely : Timely system.history failure.since failure.upTo)
    (overtaken : Overtaken system.history failure) :
    Sound { system with failures := system.failures ++ [failure] } where
  toStanding := { sound.toStanding with }
  collects := fun other rival look => (sound.collects other rival look).imp fun _ =>
    Reading.anywhere _ _ _
  answers := sound.answers
  failures :=
    List.forall_mem_append.mpr ⟨sound.failures, List.forall_mem_singleton.mpr ⟨timely, overtaken⟩⟩

theorem Sound.collectStep (sound : Sound system) {call : CollectCall Addr}
    (held : system.collects.get id = some call) : Sound (system.collectStep id call) := by
  rcases sound.collects id call held with ⟨visited, reading⟩
  have allowed := reading.turn sound.toStanding
  have timely : Timely system.history call.since system.history.length :=
    ⟨reading.begun, Nat.le_refl _⟩
  cases turned : collectTurn system.root call.point with
  | goesOn point =>
      rw [turned] at allowed
      simp only [System.collectStep, turned]
      exact sound.collectOn allowed
  | returned ips =>
      rw [turned] at allowed
      simp only [System.collectStep, turned]
      exact (sound.answered timely allowed).collectGone
  | raised =>
      rw [turned] at allowed
      rcases allowed with ⟨domain, overlaps, below, fresh⟩
      simp only [System.collectStep, turned]
      refine (sound.failed timely ⟨domain, ?_, below, fresh⟩).collectGone
      rwa [List.take_length]

theorem started (system : System Addr) (domain : String) :
    Reading system ⟨domain, system.history.length, .testing [] (rsplitGenerator domain)⟩ [] where
  begun := Nat.le_refl _
  sized := by rintro _ ⟨⟩
  clear := ⟨by rintro _ ⟨_, ⟨⟩, _⟩, trivial⟩
  within := ⟨List.prefix_rfl, by rintro _ ⟨⟩⟩
  tested := trivial
  ips := rfl
  current := by rintro _ ⟨⟩
  once := List.nodup_nil
  passed := by rintro _ ⟨⟩
  left := fun _ below _ => Or.inr (Or.inl below)
  counted := by rintro _ ⟨⟩

theorem step_sound {action : Action Addr} (sound : Sound system)
    (stepped : system.step action = some after) : Sound after := by
  cases action with
  | insert domain ip =>
      rw [System.step, Option.ite_none_right_eq_some] at stepped
      rcases stepped with ⟨free, ⟨⟩⟩
      have unlocked := Option.isNone_iff_eq_none.mp free
      refine sound.later ?_ ?_ rfl rfl rfl
      · refine { sound.toStanding with inserting := ?_ }
        rintro _ ⟨⟩
        exact ⟨Option.some_ne_none _, rfl, trivial⟩
      · refine { later_refl system with overlaps := ?_, grown := fun _ => Or.inl rfl }
        rintro since _ other (holds | returned)
        · rw [unlocked] at holds
          cases holds
        · exact Or.inr returned
  | insertOn =>
      rcases Option.map_eq_some_iff.mp stepped with ⟨call, held, rfl⟩
      rcases sound.toStanding.insertStep held with ⟨standing, later⟩
      rcases @insertStep_others _ system call with ⟨collects, answers, failures⟩
      exact sound.later standing later collects answers failures
  | collect id domain =>
      rw [System.step, Option.ite_none_right_eq_some] at stepped
      rcases stepped with ⟨_, ⟨⟩⟩
      exact sound.collectOn ⟨[], started system domain⟩
  | collectOn id =>
      rcases Option.map_eq_some_iff.mp stepped with ⟨call, held, rfl⟩
      exact sound.collectStep held

theorem run_sound {actions : List (Action Addr)}
    (run : Run System.step anyAction System.initial actions after) : Sound after := by
  apply run_invariant Sound _ run initial_sound
  intro before action next sound _ stepped
  exact step_sound sound stepped

/-- However the steps of queries and inserts mix: an answer has each label list below the queried
one at most once, with an address that it had at some moment of the query, and none that had one
already at its beginning is missing. -/
theorem collected_registered {actions : List (Action Addr)}
    (run : Run System.step anyAction System.initial actions after) (answer : Answer Addr)
    (returned : answer ∈ after.answers) :
    ∃ visited : List (List String × Addr), answer.ips = visited.map (fun entry => some entry.2) ∧
      (visited.map Prod.fst).Nodup ∧
      (∀ path ip, (path, ip) ∈ visited → rsplitGenerator answer.domain <+: path ∧
        ∃ moment, answer.since ≤ moment ∧ moment ≤ answer.upTo ∧
          registered after.history moment path = some ip) ∧
      ∀ path, rsplitGenerator answer.domain <+: path →
        registered after.history answer.since path ≠ none → path ∈ visited.map Prod.fst := by
  rcases (run_sound run).answers answer returned with ⟨_, visited, collected⟩
  exact ⟨visited, collected.ips, collected.once, fun path ip => collected.current (path, ip),
    collected.complete⟩

/-- A query raises only when a name below the queried one, which was not registered at its
beginning, is registered while it runs; a new address for a known name never makes it raise. -/
theorem collect_overtaken {actions : List (Action Addr)}
    (run : Run System.step anyAction System.initial actions after) (failure : Failure)
    (raised : failure ∈ after.failures) :
    ∃ domain, (failure.inserting = some domain ∨
        domain ∈ ((after.history.take failure.upTo).drop failure.since).map Prod.fst) ∧
      rsplitGenerator failure.domain <+: rsplitGenerator domain ∧
      registered after.history failure.since (rsplitGenerator domain) = none :=
  ((run_sound run).failures failure raised).2

end Runs

section Example

/-- Both hosts get a new address while a query is between the one and the other. -/
def renewal : List (Action Nat) :=
  .insert "1.app" 1 :: List.replicate 7 .insertOn ++
    .insert "2.app" 2 :: List.replicate 6 .insertOn ++
    .collect 7 "app" :: List.replicate 8 (.collectOn 7) ++
      .insert "1.app" 3 :: List.replicate 5 .insertOn ++
    .insert "2.app" 4 :: List.replicate 5 .insertOn ++ List.replicate 9 (.collectOn 7)

def historyOf (system : System Nat) : List (List (Option Nat)) × List (String × Nat) :=
  (system.answers.map Answer.ips, system.history)

/-- The answer of that query is none that the tree would have given at any one moment. -/
theorem collected_registered_renewal :
    ∃ after : System Nat, Run System.step anyAction System.initial renewal after ∧
      ∃ answer ∈ after.answers, answer.ips = [some 1, some 4] ∧
        (∀ moment ≤ 4, (DnsTree.insertAll (after.history.take moment)).collectFrom "app" ≠ [1, 4]) ∧
        ∃ visited : List (List String × Nat), answer.ips = visited.map (fun entry => some entry.2) ∧
          (visited.map Prod.fst).Nodup ∧
          (∀ path ip, (path, ip) ∈ visited → rsplitGenerator answer.domain <+: path ∧
            ∃ moment, answer.since ≤ moment ∧ moment ≤ answer.upTo ∧
              registered after.history moment path = some ip) ∧
          ∀ path, rsplitGenerator answer.domain <+: path →
            registered after.history answer.since path ≠ none → path ∈ visited.map Prod.fst := by
  rcases run_of_replay System.step anyAction historyOf System.initial renewal
      ([[some 1, some 4]], [("1.app", 1), ("2.app", 2), ("1.app", 3), ("2.app", 4)])
          (by decide +kernel) with
    ⟨after, run, read⟩
  have answers : after.answers.map Answer.ips = [[some 1, some 4]] := congrArg Prod.fst read
  have history : after.history = [("1.app", 1), ("2.app", 2), ("1.app", 3), ("2.app", 4)] :=
    congrArg Prod.snd read
  rcases List.mem_map.mp (answers ▸ List.mem_cons_self :
      [some 1, some 4] ∈ after.answers.map Answer.ips) with
    ⟨answer, returned, same⟩
  refine ⟨after, run, answer, returned, same, ?_, collected_registered run answer returned⟩
  rw [history]
  decide +kernel

/-- The query has its iterator over the children of app when a third host comes. -/
def newcomer : List (Action Nat) :=
  .insert "1.app" 1 :: List.replicate 7 .insertOn ++ .collect 7 "app" :: List.replicate 5
    (.collectOn 7) ++ .insert "3.app" 3 :: List.replicate 4 .insertOn ++ [.collectOn 7]

def failuresOf (system : System Nat) : List (String × Option String) :=
  system.failures.map fun failure => (failure.domain, failure.inserting)

theorem collect_overtaken_newcomer :
    ∃ after : System Nat, Run System.step anyAction System.initial newcomer after ∧
      ∃ failure ∈ after.failures, failure.domain = "app" ∧
        ∃ domain, (failure.inserting = some domain ∨
            domain ∈ ((after.history.take failure.upTo).drop failure.since).map Prod.fst) ∧
          rsplitGenerator failure.domain <+: rsplitGenerator domain ∧
          registered after.history failure.since (rsplitGenerator domain) = none := by
  rcases run_of_replay System.step anyAction failuresOf System.initial newcomer
    [("app", some "3.app")]
      (by decide +kernel) with ⟨after, run, failures⟩
  rcases List.mem_map.mp (failures ▸ List.mem_cons_self :
      ("app", some "3.app") ∈ failuresOf after) with
    ⟨failure, raised, same⟩
  exact ⟨after, run, failure, raised, congrArg Prod.fst same, collect_overtaken run failure raised⟩

end Example

end Dockermock.Dns.SharedTree
