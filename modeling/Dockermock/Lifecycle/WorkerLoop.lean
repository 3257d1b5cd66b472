import Dockermock.Lifecycle.Framing

/-!
The event loop of kqueue_parent's `run` and the buffer it carries from one read
to the next. An exit event between two reads takes a turn of its own and leaves
the socket alone. What the worker does with a container is left open: it acts on
a world, and process_container may raise, which ends the loop.
-/

namespace Dockermock.Lifecycle.WorkerLoop

open Library

/-- What the loop calls; process_container gives nothing where it raises. -/
structure Actions (World : Type) where
  processContainer : World → String → World × Option (Option Int)
  trackProcess : World → Int → World
  removeContainer : World → Int → World
  cleanAllJails : World → World

/-- One event of kqueue: a process has exited, or `recv` gives a chunk. -/
inductive Event where
  | exited (pid : Int)
  | received (data : List UInt8)
  deriving DecidableEq, Repr

inductive Status where
  | running | closed | raised
  deriving DecidableEq, Repr

structure Loop (World : Type) where
  world : World
  buffer : List UInt8
  calls : List String
  status : Status

variable {World : Type} (actions : Actions World)

/-- `if cont_pid and cont_pid != -1` -/
def track (world : World) : Option Int → World
  | none => world
  | some pid => if pid ≠ 0 ∧ pid ≠ -1 then actions.trackProcess world pid else world

def processBuffer (loop : Loop World) : Loop World :=
  match _found : cut newline loop.buffer with
  | none => loop
  | some (line, rest) =>
      match decode line with
      | none => { loop with buffer := rest, status := .raised }
      | some msg =>
          let name := strip msg
          match actions.processContainer loop.world name with
          | (world, none) => ⟨world, rest, loop.calls ++ [name], .raised⟩
          | (world, some pid) =>
              processBuffer ⟨track actions world pid, rest, loop.calls ++ [name], loop.status⟩
  termination_by loop.buffer.length
  decreasing_by exact cut_length _found

def handle (loop : Loop World) : Event → Loop World
  | .exited pid => { loop with world := actions.removeContainer loop.world pid }
  | .received [] => { loop with world := actions.cleanAllJails loop.world, status := .closed }
  | .received data => processBuffer actions { loop with buffer := loop.buffer ++ data }

/-- `run` through these events, or up to the one that ends it. -/
def run (loop : Loop World) : List Event → Loop World
  | [] => loop
  | event :: rest => if loop.status = .running then run (handle actions loop event) rest else loop

def start (world : World) : Loop World := ⟨world, [], [], .running⟩

def Event.bytes : Event → List UInt8
  | .exited _ => []
  | .received data => data

def stream (events : List Event) : List UInt8 := events.flatMap Event.bytes

def nameOf (line : List UInt8) : String := ((decode line).map strip).getD ""

/-- What the loop has done with the bytes read so far: it has called for every whole line,
or an exception at one of them has ended it. -/
inductive Progress (bytes : List UInt8) (loop : Loop World) : Prop where
  | going (running : loop.status = .running)
      (calls : loop.calls = (terminated newline bytes).map nameOf)
      (buffer : loop.buffer = unterminated newline bytes)
  | undecoded (front back : List (List UInt8)) (line : List UInt8)
      (lines : terminated newline bytes = front ++ line :: back) (raised : loop.status = .raised)
      (illegal : decode line = none) (calls : loop.calls = front.map nameOf)
  | failed (front back : List (List UInt8)) (line : List UInt8)
      (lines : terminated newline bytes = front ++ line :: back) (raised : loop.status = .raised)
      (world : World) (fails : (actions.processContainer world (nameOf line)).2 = none)
      (calls : loop.calls = (front ++ [line]).map nameOf)

section Buffer

variable {actions}

theorem processBuffer_free {loop : Loop World} (free : newline ∉ loop.buffer) :
    processBuffer actions loop = loop := by
  rw [processBuffer]
  split
  · rfl
  · rename_i line rest found
    rw [cut_eq_none_iff.mpr free] at found
    cases found

theorem handle_received (loop : Loop World) (data : List UInt8) (given : data ≠ []) :
    handle actions loop (.received data) =
        processBuffer actions { loop with buffer := loop.buffer ++ data } := by
  cases data with
  | nil => exact absurd rfl given
  | cons byte data => rfl

theorem processBuffer_line (loop : Loop World) {line rest : List UInt8} (free : newline ∉ line)
    (framed : loop.buffer = line ++ newline :: rest) :
    processBuffer actions loop =
      match decode line with
      | none => { loop with buffer := rest, status := .raised }
      | some msg =>
          match actions.processContainer loop.world (strip msg) with
          | (world, none) => ⟨world, rest, loop.calls ++ [strip msg], .raised⟩
          | (world, some pid) =>
              processBuffer actions ⟨track actions world pid, rest, loop.calls ++ [strip msg],
                  loop.status⟩ := by
  have found : cut newline loop.buffer = some (line, rest) := by rw [framed, cut_framed free rest]
  rw [processBuffer]
  split
  · rename_i uncut
    cases uncut.symm.trans found
  · rename_i front back same
    cases same.symm.trans found
    rfl

theorem processBuffer_progress (done : List (List UInt8)) (bytes : List UInt8) (loop : Loop World)
    (running : loop.status = .running) (calls : loop.calls = done.map nameOf)
    (lines : terminated newline bytes = done ++ terminated newline loop.buffer)
    (rest : unterminated newline bytes = unterminated newline loop.buffer) :
    Progress actions bytes (processBuffer actions loop) := by
  -- line by line, with the lines that were called for before in `done`
  induction content : loop.buffer using framed_induction newline generalizing loop done with
  | free buffer unmarked =>
      have free : newline ∉ loop.buffer := content ▸ unmarked
      rw [processBuffer_free free]
      rw [terminated_free free, List.append_nil] at lines
      rw [unterminated_eq_self free] at rest
      exact .going running (lines ▸ calls) rest.symm
  | line line later unmarked ih =>
      rw [processBuffer_line loop unmarked content]
      rw [content, terminated_line unmarked] at lines
      rw [content, unterminated_line unmarked] at rest
      cases text : decode line with
      | none => exact .undecoded done _ line lines rfl text calls
      | some msg =>
          have name : nameOf line = strip msg := by
            rw [nameOf, text, Option.map_some, Option.getD_some]
          have longer : loop.calls ++ [strip msg] = (done ++ [line]).map nameOf := by
            rw [calls, List.map_append, List.map_singleton, name]
          rcases result : actions.processContainer loop.world (strip msg) with ⟨world, outcome⟩
          cases outcome with
          | none =>
              have fails : (actions.processContainer loop.world (nameOf line)).2 = none := by
                rw [name, result]
              simp only [result]
              exact .failed done _ line lines rfl loop.world fails longer
          | some pid =>
              rw [List.append_cons] at lines
              simp only [result]
              exact ih (done ++ [line])
                ⟨track actions world pid, later, loop.calls ++ [strip msg], loop.status⟩ running
                  longer lines rest rfl

end Buffer

section Run

variable {actions} {bytes : List UInt8} {loop : Loop World}

theorem Progress.more (progress : Progress actions bytes loop) (ended : loop.status ≠ .running)
    (data : List UInt8) : Progress actions (bytes ++ data) loop := by
  have lines := (terminated_append newline bytes data).1
  cases progress with
  | going running _ _ => exact absurd running ended
  | undecoded front back line same raised illegal calls =>
      rw [same, List.append_assoc, List.cons_append] at lines
      exact .undecoded front _ line lines raised illegal calls
  | failed front back line same raised world fails calls =>
      rw [same, List.append_assoc, List.cons_append] at lines
      exact .failed front _ line lines raised world fails calls

theorem handle_progress (progress : Progress actions bytes loop) (running : loop.status = .running)
    (event : Event) (given : event ≠ .received []) :
    Progress actions (bytes ++ event.bytes) (handle actions loop event) := by
  cases progress with
  | undecoded _ _ _ _ raised _ _ => cases running.symm.trans raised
  | failed _ _ _ _ raised _ _ _ => cases running.symm.trans raised
  | going _ calls buffer =>
      cases event with
      | exited pid =>
          rw [Event.bytes, List.append_nil]
          exact .going running calls buffer
      | received data =>
          rcases terminated_append newline bytes data with ⟨lines, rest⟩
          rw [← buffer] at lines rest
          rw [handle_received loop data fun empty => given (congrArg Event.received empty)]
          exact processBuffer_progress _ _ { loop with buffer := loop.buffer ++ data } running
            calls lines rest

theorem run_progress (events : List Event) (given : ∀ event ∈ events, event ≠ .received [])
    (progress : Progress actions bytes loop) :
    Progress actions (bytes ++ stream events) (run actions loop events) := by
  induction events generalizing bytes loop with
  | nil => simpa [stream, run] using progress
  | cons event rest ih =>
      rw [run]
      split
      · rename_i running
        have next := handle_progress progress running event (given event List.mem_cons_self)
        have all := ih (fun other member => given other (List.mem_cons_of_mem _ member)) next
        rwa [List.append_assoc] at all
      · rename_i ended
        exact progress.more ended _

theorem start_progress (world : World) : Progress actions [] (start world) :=
  .going rfl (by rw [terminated_free List.not_mem_nil]; rfl)
    (unterminated_eq_self List.not_mem_nil).symm

end Run

section Texts

/-- The lines of a text that are closed by a newline, stripped. -/
def linesOf (text : String) : List String := (splitLines text).dropLast.map strip

def restOf (text : String) : String := (splitLines text).getLastD ""

theorem terminated_encode (text : String) :
    terminated newline (encode text) = (splitLines text).dropLast.map encode := by
  have pieces := splitOn_encode text.toList
  rw [String.ofList_toList] at pieces
  rw [terminated, pieces, splitLines, ← List.map_dropLast, ← List.map_dropLast, List.map_map]
  rfl

theorem unterminated_encode (text : String) :
    unterminated newline (encode text) = encode (restOf text) := by
  have pieces := splitOn_encode text.toList
  rw [String.ofList_toList] at pieces
  simp only [unterminated, pieces, restOf, splitLines, List.getLast_map]
  rw [List.getLastD_eq_getLast?, List.getLast?_map,
    List.getLast?_eq_some_getLast (List.splitOn_ne_nil _ _)]
  rfl

theorem nameOf_encode (line : String) : nameOf (encode line) = strip line := by
  rw [nameOf, decode_encode, Option.map_some, Option.getD_some]

theorem names_of_encode (text : String) :
    (terminated newline (encode text)).map nameOf = linesOf text := by
  rw [terminated_encode, List.map_map, linesOf]
  exact List.map_congr_left fun line _ => nameOf_encode line

end Texts

/-- However a text arrives, with exit events in between: when its last byte has been read,
process_container has been called for each line that a newline closes, decoded and
stripped, in order, and the buffer holds what is behind the last newline. Only a call that
raises ends the loop before, and the calls are then the lines up to that one. -/
theorem run_lines (actions : Actions World) (world : World) (text : String) (events : List Event)
    (given : ∀ event ∈ events, event ≠ .received []) (arrives : stream events = encode text) :
    let loop := run actions (start world) events
    (loop.status = .running ∧ loop.calls = linesOf text ∧ loop.buffer = encode (restOf text)) ∨
      (loop.status = .raised ∧ ∃ front name back world, linesOf text = front ++ name :: back ∧
        loop.calls = front ++ [name] ∧ (actions.processContainer world name).2 = none) := by
  intro loop
  have progress : Progress actions (stream events) loop :=
    run_progress events given (start_progress world)
  rw [arrives] at progress
  cases progress with
  | going running calls buffer =>
      rw [names_of_encode] at calls
      rw [unterminated_encode] at buffer
      exact Or.inl ⟨running, calls, buffer⟩
  | undecoded front back line lines raised illegal calls =>
      -- The lines of a text are texts.
      have member : line ∈ terminated newline (encode text) := by
        rw [lines]
        exact List.mem_append_right _ List.mem_cons_self
      rw [terminated_encode] at member
      rcases List.mem_map.mp member with ⟨piece, _, rfl⟩
      rw [decode_encode] at illegal
      cases illegal
  | failed front back line lines raised failing fails calls =>
      refine Or.inr ⟨raised, front.map nameOf, nameOf line, back.map nameOf, failing, ?_, ?_, fails⟩
      · rw [← names_of_encode, lines, List.map_append, List.map_cons]
      · rw [calls, List.map_append, List.map_singleton]

section Routing

/-- The lines that the server's routes are reached with are those of the loop. -/
theorem processLines_eq (http : Http) {buffer : List UInt8}
    (texts : ∀ line ∈ terminated newline buffer, decode line ≠ none) :
    processLines http buffer =
      ((terminated newline buffer).map fun line => http.get (nameOf line),
          some (unterminated newline buffer)) := by
  induction buffer using framed_induction newline with
  | free buffer unmarked =>
      rw [processLines_free http unmarked, terminated_free unmarked, unterminated_eq_self unmarked]
      rfl
  | line line rest unmarked ih =>
      rw [terminated_line unmarked] at texts
      have later := ih fun other member => texts other (List.mem_cons_of_mem _ member)
      cases text : decode line with
      | none => exact absurd text (texts line List.mem_cons_self)
      | some msg =>
          have name : nameOf line = strip msg := by
            rw [nameOf, text, Option.map_some, Option.getD_some]
          rw [processLines_line http unmarked text, later, terminated_line unmarked,
            unterminated_line unmarked, List.map_cons, name]

theorem workerCalls_encode (http : Http) (chunks : List (List UInt8)) (text : String)
    (arrives : chunks.flatten = encode text) :
    workerCalls http chunks = (linesOf text).map http.get := by
  have texts : ∀ line ∈ terminated newline (encode text), decode line ≠ none := by
    intro line member
    rw [terminated_encode] at member
    rcases List.mem_map.mp member with ⟨piece, _, rfl⟩
    rw [decode_encode]
    exact Option.some_ne_none _
  rw [workerCalls_eq, arrives, processLines_eq http texts, ← names_of_encode, List.map_map]
  rfl

end Routing

section Example

def failingFor (name : String) : Actions Unit :=
  ⟨fun world other => (world, if other = name then none else some (some 4711)),
    fun world _ => world, fun world _ => world, fun world => world⟩

def cutStream : List Event :=
  [.received (encode "web\nd"), .exited 4711, .received (encode "b\ncac")]

theorem run_lines_cut :
    let loop := run (failingFor "") (start ()) cutStream
    (loop.status = .running ∧ loop.calls = linesOf "web\ndb\ncac" ∧
      loop.buffer = encode (restOf "web\ndb\ncac")) ∨
      (loop.status = .raised ∧ ∃ front name back world,
        linesOf "web\ndb\ncac" = front ++ name :: back ∧
        loop.calls = front ++ [name] ∧ ((failingFor "").processContainer world name).2 = none) :=
  run_lines (failingFor "") () "web\ndb\ncac" cutStream (by decide) (by decide)

/-- An exception in the first call: the second line of the chunk is never processed. -/
theorem failing_call_ends_run :
    ¬ ∀ (actions : Actions Unit) (world : Unit) (text : String) (events : List Event),
      (∀ event ∈ events, event ≠ .received []) → stream events = encode text →
        (run actions (start world) events).calls = linesOf text ∧
          (run actions (start world) events).buffer = encode (restOf text) := by
  intro claimed
  have whole :=
    (claimed (failingFor "web") () "web\ndb\n" [.received (encode "web\ndb\n")] (by decide)
    (by decide)).1
  have lines : linesOf "web\ndb\n" = ["web", "db"] := by decide +kernel
  have framed : encode "web\ndb\n" = encode "web" ++ newline :: encode "db\n" := by decide
  have ended : run (failingFor "web") (start ()) [.received (encode "web\ndb\n")] =
      ⟨(), encode "db\n", ["web"], .raised⟩ := by
    rw [run, if_pos (by rfl), handle_received _ _ (by decide), run]
    rw [processBuffer_line _ (by decide) framed, decode_encode]
    rfl
  rw [ended, lines] at whole
  exact absurd whole (by decide)

end Example

end Dockermock.Lifecycle.WorkerLoop
