import Dockermock.Library.Stream
import Dockermock.Lifecycle.Server

/-!
Start messages in a socket buffer of finite capacity. The handler of a start
request keeps server.lock until `worker.send` has copied the whole message, and
only the worker makes room, between the containers it works on. Of the worker's
requests, the one for a container's row, those to /api/ports and the report of
an exit need the lock; /subnet and /dns do not. The other handlers take the lock
for one step and are left out; which row a report reaches is left open.
-/

namespace Dockermock.Lifecycle

open Library Kqueue

/-- start_container inside the lock: the container, and what is not yet copied of its message. -/
structure Sending where
  name : String
  rest : List UInt8
  deriving DecidableEq

/-- Where the worker is: in kq.control, in the loop over the lines, or with one container. -/
inductive Stage where
  | control
  | scanning
  | fetch (line : List UInt8)
  | setUp
  | ports (left : Nat)
  | report (site : Site)
  | closed
  deriving DecidableEq

structure Pipeline where
  status : Dict String Status
  handler : Option Sending
  channel : List UInt8
  buffer : List UInt8
  stage : Stage
  children : Nat

inductive Move where
  | create (name : String)
  | start (name : String)
  | copies (count : Nat)
  | sent
  | sendRaises
  | recv (count : Nat)
  | exitEvent (exitCode : Nat)
  | scan
  | fetched (found : Bool)
  | fetchRaises
  | setUp (requests : Nat)
  | jailRefused
  | setUpRaises
  | posted
  | postRaises
  | forked (child : Bool)
  | reported (target : Option String)
  | reportRaises
  deriving DecidableEq

def startMessage (name : String) : List UInt8 := encode (name ++ "\n")

/-- The worker waits for the answer of a handler that needs server.lock. -/
def Stage.needsLock : Stage → Bool
  | .fetch _ | .ports (_ + 1) | .report _ => true
  | .control | .scanning | .setUp | .ports 0 | .closed => false

def reportedFrom : Site → Stage
  | .inTry | .inExcept => .scanning
  | .onExit _ => .control

def reportRaisedFrom : Site → Stage
  | .inTry => .report .inExcept
  | .inExcept => .closed
  | .onExit _ => .control

namespace Pipeline

def initial : Pipeline := ⟨.empty, none, [], [], .control, 0⟩

/-- start_jail goes on to `worker.send`. -/
def startable (pipeline : Pipeline) (name : String) : Bool :=
  match pipeline.status.get name with
  | none => false
  | some status => status ≠ .running

def setStage (pipeline : Pipeline) (stage : Stage) : Pipeline := { pipeline with stage := stage }

def setStatus (pipeline : Pipeline) (name : String) (status : Status) : Pipeline :=
  { pipeline with status := pipeline.status.set name status }

def record (pipeline : Pipeline) : Option String → Pipeline
  | none => pipeline
  | some target =>
      match pipeline.status.get target with
      | none => pipeline
      | some _ => pipeline.setStatus target .exited

def copy (pipeline : Pipeline) (sending : Sending) (count : Nat) : Pipeline :=
  { pipeline with
    handler := some { sending with rest := sending.rest.drop count }
    channel := pipeline.channel ++ sending.rest.take count }

def step (capacity : Nat) (pipeline : Pipeline) : Move → Option Pipeline
  | .create name =>
      if pipeline.handler = none then
        -- create_container holds the lock for the row alone
        match pipeline.status.get name with
        | some _ => some pipeline
        | none => some (pipeline.setStatus name .created)
      else none
  | .start name =>
      if pipeline.handler = none then
        some (if pipeline.startable name
          then { pipeline with handler := some ⟨name, startMessage name⟩ } else pipeline)
      else none
  -- `socket.send` copies what there is room for, and blocks for the rest
  | .copies count =>
      pipeline.handler.bind fun sending =>
        if pipeline.stage ≠ .closed ∧ 0 < count ∧ count ≤ sending.rest.length ∧
            pipeline.channel.length + count ≤ capacity then
          some (pipeline.copy sending count)
        else none
  | .sent =>
      pipeline.handler.bind fun sending =>
        if sending.rest = [] then
          some { pipeline.setStatus sending.name .running with handler := none } else none
  | .sendRaises =>
      pipeline.handler.bind fun sending =>
        if pipeline.stage = .closed ∧ sending.rest ≠ [] then
          some { pipeline with handler := none }
        else none
  | .recv count =>
      if pipeline.stage = .control ∧ 0 < count ∧ count ≤ 4096 ∧ count ≤ pipeline.channel.length then
        some { pipeline with
          channel := pipeline.channel.drop count
          buffer := pipeline.buffer ++ pipeline.channel.take count
          stage := .scanning }
      else none
  | .exitEvent exitCode =>
      if pipeline.stage = .control ∧ 0 < pipeline.children then
        some
          { pipeline with children := pipeline.children - 1, stage := .report (.onExit exitCode) }
      else none
  | .scan =>
      if pipeline.stage = .scanning then
        match cut newline pipeline.buffer with
        | none => some (pipeline.setStage .control)
        | some (line, rest) => some { pipeline with buffer := rest, stage := .fetch line }
      else none
  -- a request is served when the lock is free
  | .fetched found =>
      match pipeline.stage with
      | .fetch _ =>
          if pipeline.handler = none then
            some (pipeline.setStage (if found then .setUp else .scanning))
          else none
      | _ => none
  | .fetchRaises =>
      match pipeline.stage with
      | .fetch _ => some (pipeline.setStage .closed)
      | _ => none
  | .setUp requests =>
      if pipeline.stage = .setUp then some (pipeline.setStage (.ports requests)) else none
  | .jailRefused =>
      if pipeline.stage = .setUp then some (pipeline.setStage (.report .inTry)) else none
  | .setUpRaises =>
      if pipeline.stage = .setUp then some (pipeline.setStage (.report .inExcept)) else none
  | .posted =>
      match pipeline.stage with
      | .ports (left + 1) =>
          if pipeline.handler = none then some (pipeline.setStage (.ports left)) else none
      | _ => none
  | .postRaises =>
      match pipeline.stage with
      | .ports (left + 1) => some (pipeline.setStage (.ports left))
      | _ => none
  | .forked child =>
      if pipeline.stage = .ports 0 then
        some { pipeline with children := pipeline.children + child.toNat, stage := .scanning }
      else none
  | .reported target =>
      match pipeline.stage with
      | .report site =>
          if pipeline.handler = none then
            some ((pipeline.record target).setStage (reportedFrom site))
          else none
      | _ => none
  | .reportRaises =>
      match pipeline.stage with
      | .report site => some (pipeline.setStage (reportRaisedFrom site))
      | _ => none

end Pipeline

section Property

/-- The handler waits for room that the worker does not make, and the worker for the handler's lock.
-/
def Deadlock (capacity : Nat) (pipeline : Pipeline) : Prop :=
  ∃ sending, pipeline.handler = some sending ∧ sending.rest ≠ [] ∧
    capacity ≤ pipeline.channel.length ∧ pipeline.stage.needsLock = true

/-- Whatever is being sent still has room. -/
def Roomy (capacity : Nat) (pipeline : Pipeline) : Prop :=
  ∀ sending ∈ pipeline.handler, pipeline.channel.length + sending.rest.length ≤ capacity

instance (capacity : Nat) (pipeline : Pipeline) : Decidable (Roomy capacity pipeline) :=
  inferInstanceAs (Decidable (∀ _ ∈ _, _))

/-- No message is begun that has no room while the worker waits for the lock, and the worker makes
no request for the lock while a message is being sent that has no room. -/
def unblocked (capacity : Nat) (pipeline : Pipeline) : Move → Prop
  | .start name => pipeline.stage.needsLock = true → pipeline.startable name = true →
      pipeline.channel.length + (startMessage name).length ≤ capacity
  | .scan => newline ∈ pipeline.buffer → Roomy capacity pipeline
  | .setUp requests => 0 < requests → Roomy capacity pipeline
  | .exitEvent _ | .jailRefused | .setUpRaises => Roomy capacity pipeline
  | _ => True

instance (capacity : Nat) (pipeline : Pipeline) :
    (move : Move) → Decidable (unblocked capacity pipeline move)
  | .start _ => inferInstanceAs (Decidable (_ → _ → _))
  | .scan | .setUp _ => inferInstanceAs (Decidable (_ → Roomy _ _))
  | .exitEvent _ | .jailRefused | .setUpRaises => inferInstanceAs (Decidable (Roomy _ _))
  | .create _ | .copies _ | .sent | .sendRaises | .recv _ | .fetched _ | .fetchRaises |
      .posted | .postRaises
  | .forked _ | .reported _ | .reportRaises => inferInstanceAs (Decidable True)

end Property

section Invariant

variable {capacity : Nat} {pipeline : Pipeline}

/-- The channel is within its capacity, and a worker that waits for the lock keeps no message out.
-/
structure Flowing (capacity : Nat) (pipeline : Pipeline) : Prop where
  bounded : pipeline.channel.length ≤ capacity
  roomy : pipeline.stage.needsLock = true → Roomy capacity pipeline

theorem Flowing.not_stuck (flowing : Flowing capacity pipeline) : ¬ Deadlock capacity pipeline := by
  -- What is not yet sent has at least one byte, and would have room for it.
  rintro ⟨sending, held, unsent, full, waits⟩
  have room := flowing.roomy waits sending held
  have some' := List.length_pos_iff.mpr unsent
  omega

theorem Flowing.setStage (flowing : Flowing capacity pipeline) (stage : Stage)
    (roomy : stage.needsLock = true → Roomy capacity pipeline) :
    Flowing capacity (pipeline.setStage stage) :=
  ⟨flowing.bounded, roomy⟩

theorem roomy_of_free (free : pipeline.handler = none) : Roomy capacity pipeline := by
  intro sending held
  rw [free] at held
  cases held

theorem Flowing.idle (flowing : Flowing capacity pipeline) (free : pipeline.handler = none)
    (stage : Stage) : Flowing capacity (pipeline.setStage stage) :=
  flowing.setStage stage fun _ => roomy_of_free free

theorem Flowing.lockless (flowing : Flowing capacity pipeline) (stage : Stage)
    (needless : stage.needsLock = false) : Flowing capacity (pipeline.setStage stage) := by
  refine flowing.setStage stage fun waits => ?_
  rw [needless] at waits
  cases waits

theorem Flowing.copy (flowing : Flowing capacity pipeline) {sending : Sending} {count : Nat}
    (held : pipeline.handler = some sending) (within : count ≤ sending.rest.length)
    (room : pipeline.channel.length + count ≤ capacity) :
    Flowing capacity (pipeline.copy sending count) := by
  have moved : (pipeline.channel ++ sending.rest.take count).length =
      pipeline.channel.length + count := by
    rw [List.length_append, List.length_take, Nat.min_eq_left within]
  constructor
  · rw [Pipeline.copy, moved]
    exact room
  · intro waits now same
    cases same
    have before := flowing.roomy waits sending held
    simp only [Pipeline.copy, moved, List.length_drop]
    omega

theorem Flowing.recv (flowing : Flowing capacity pipeline) (count : Nat) :
    Flowing capacity { pipeline with
      channel := pipeline.channel.drop count
      buffer := pipeline.buffer ++ pipeline.channel.take count
      stage := .scanning } := by
  refine ⟨?_, nofun⟩
  rw [List.length_drop]
  exact Nat.le_trans (Nat.sub_le _ _) flowing.bounded

theorem record_same (pipeline : Pipeline) (target : Option String) :
    (pipeline.record target).handler = pipeline.handler ∧
      (pipeline.record target).channel = pipeline.channel := by
  cases target with
  | none => exact ⟨rfl, rfl⟩
  | some target =>
      rw [Pipeline.record]
      split <;> exact ⟨rfl, rfl⟩

theorem step_flowing (capacity : Nat) (pipeline : Pipeline) (move : Move) (after : Pipeline)
    (flowing : Flowing capacity pipeline) (condition : unblocked capacity pipeline move)
    (taken : Pipeline.step capacity pipeline move = some after) : Flowing capacity after := by
  cases move with
  | create name =>
      simp only [Pipeline.step, Option.ite_none_right_eq_some] at taken
      rcases taken with ⟨_, made⟩
      split at made <;> cases made
      · exact flowing
      · exact ⟨flowing.bounded, flowing.roomy⟩
  | start name =>
      simp only [Pipeline.step, Option.ite_none_right_eq_some, Option.some.injEq] at taken
      rcases taken with ⟨_, rfl⟩
      split
      -- the condition says that the new message has room or the worker does not wait
      · rename_i startable
        refine ⟨flowing.bounded, fun waits sending held => ?_⟩
        cases held
        exact condition waits startable
      · exact flowing
  | copies count =>
      rcases Option.bind_eq_some_iff.mp taken with ⟨sending, held, copied⟩
      simp only [Option.ite_none_right_eq_some, Option.some.injEq] at copied
      rcases copied with ⟨⟨_, _, within, room⟩, rfl⟩
      exact flowing.copy held within room
  | sent =>
      rcases Option.bind_eq_some_iff.mp taken with ⟨sending, _, finished⟩
      simp only [Option.ite_none_right_eq_some, Option.some.injEq] at finished
      exact finished.2 ▸ ⟨flowing.bounded, fun _ => roomy_of_free rfl⟩
  | sendRaises =>
      rcases Option.bind_eq_some_iff.mp taken with ⟨sending, _, raised⟩
      simp only [Option.ite_none_right_eq_some, Option.some.injEq] at raised
      exact raised.2 ▸ ⟨flowing.bounded, fun _ => roomy_of_free rfl⟩
  | recv count =>
      simp only [Pipeline.step, Option.ite_none_right_eq_some, Option.some.injEq] at taken
      exact taken.2 ▸ flowing.recv count
  | exitEvent exitCode =>
      simp only [Pipeline.step, Option.ite_none_right_eq_some, Option.some.injEq] at taken
      exact taken.2 ▸ ⟨flowing.bounded, fun _ => condition⟩
  | scan =>
      simp only [Pipeline.step, Option.ite_none_right_eq_some] at taken
      rcases taken with ⟨_, scanned⟩
      split at scanned <;> cases scanned
      · exact flowing.lockless .control rfl
      · rename_i line rest found
        -- a line has arrived, so that the worker is about to ask for its row
        have arrived : newline ∈ pipeline.buffer := by
          rw [(cut_eq_some_iff.mp found).2]
          simp
        exact ⟨flowing.bounded, fun _ => condition arrived⟩
  | fetched found =>
      simp only [Pipeline.step] at taken
      split at taken
      · rw [Option.ite_none_right_eq_some] at taken
        rcases taken with ⟨free, rest⟩
        cases rest
        exact flowing.idle free _
      · cases taken
  | fetchRaises =>
      simp only [Pipeline.step] at taken
      split at taken <;> cases taken
      exact flowing.lockless .closed rfl
  | setUp requests =>
      simp only [Pipeline.step, Option.ite_none_right_eq_some, Option.some.injEq] at taken
      refine taken.2 ▸ flowing.setStage (.ports requests) fun waits => condition ?_
      cases requests with
      | zero => cases waits
      | succ left => exact Nat.succ_pos left
  | jailRefused =>
      simp only [Pipeline.step, Option.ite_none_right_eq_some, Option.some.injEq] at taken
      exact taken.2 ▸ flowing.setStage _ fun _ => condition
  | setUpRaises =>
      simp only [Pipeline.step, Option.ite_none_right_eq_some, Option.some.injEq] at taken
      exact taken.2 ▸ flowing.setStage _ fun _ => condition
  | posted =>
      simp only [Pipeline.step] at taken
      split at taken
      · rw [Option.ite_none_right_eq_some] at taken
        rcases taken with ⟨free, rest⟩
        cases rest
        exact flowing.idle free _
      · cases taken
  | postRaises =>
      simp only [Pipeline.step] at taken
      split at taken <;> cases taken
      rename_i left stage
      exact flowing.setStage _ fun _ => flowing.roomy (by rw [stage]; rfl)
  | forked child =>
      simp only [Pipeline.step, Option.ite_none_right_eq_some, Option.some.injEq] at taken
      exact taken.2 ▸ ⟨flowing.bounded, (flowing.lockless .scanning rfl).roomy⟩
  | reported target =>
      simp only [Pipeline.step] at taken
      split at taken
      · rw [Option.ite_none_right_eq_some] at taken
        rcases taken with ⟨free, rest⟩
        cases rest
        rcases record_same pipeline target with ⟨handler, channel⟩
        -- the report itself was served with the lock free
        have recorded : Flowing capacity (pipeline.record target) := by
          refine ⟨channel ▸ flowing.bounded, fun _ sending held => ?_⟩
          rw [handler, free] at held
          cases held
        exact recorded.idle (handler.trans free) _
      · cases taken
  | reportRaises =>
      simp only [Pipeline.step] at taken
      split at taken <;> cases taken
      rename_i site stage
      exact flowing.setStage _ fun _ => flowing.roomy (by rw [stage]; rfl)

end Invariant

/-- For every capacity of the buffer and every interleaving in which each message that meets a
worker waiting for the lock has room, the handler and the worker never block each other. -/
theorem no_deadlock (capacity : Nat) (moves : List Move) (after : Pipeline)
    (run : Run (Pipeline.step capacity) (unblocked capacity) .initial moves after) :
    ¬ Deadlock capacity after := by
  have start : Flowing capacity .initial := ⟨Nat.zero_le _, nofun⟩
  exact (run_invariant (Flowing capacity) (step_flowing capacity) run start).not_stuck

section Exactness

variable {capacity : Nat} {pipeline : Pipeline}

theorem deadlock_of_overflow (bounded : pipeline.channel.length ≤ capacity) {sending : Sending}
    (held : pipeline.handler = some sending)
    (overflow : capacity < pipeline.channel.length + sending.rest.length)
    (waits : pipeline.stage.needsLock = true) :
    ∃ later final, Run (Pipeline.step capacity) anyAction pipeline later final ∧
        Deadlock capacity final := by
  -- either the channel is full already, or the handler fills it with one more copy
  by_cases full : pipeline.channel.length = capacity
  · have unsent : sending.rest ≠ [] := by
      rintro empty
      rw [empty, List.length_nil] at overflow
      omega
    exact ⟨[], pipeline, .refl _, sending, held, unsent, Nat.le_of_eq full.symm, waits⟩
  · let room := capacity - pipeline.channel.length
    have working : pipeline.stage ≠ .closed := by
      intro closed
      rw [closed] at waits
      cases waits
    have within : room ≤ sending.rest.length := by omega
    have taken : Pipeline.step capacity pipeline (.copies room) =
        some (pipeline.copy sending room) := by
      have enabled : pipeline.stage ≠ .closed ∧ 0 < room ∧ room ≤ sending.rest.length ∧
          pipeline.channel.length + room ≤ capacity := ⟨working, by omega, within, by omega⟩
      rw [Pipeline.step, held, Option.bind_some, if_pos enabled]
    refine ⟨[.copies room], _, .next trivial taken (.refl _),
      { sending with rest := sending.rest.drop room }, rfl, ?_, ?_, waits⟩
    · rw [← List.length_pos_iff, List.length_drop]
      omega
    · simp only [Pipeline.copy, List.length_append, List.length_take, Nat.min_eq_left within]
      omega

theorem overflow_of_not_roomy (crowded : ¬ Roomy capacity pipeline) :
    ∃ sending, pipeline.handler = some sending ∧
        capacity < pipeline.channel.length + sending.rest.length := by
  simpa [Roomy] using crowded

/-- The first step that does not meet the condition can be followed by a deadlock. -/
theorem deadlock_follows (capacity : Nat) (moves : List Move) (before after : Pipeline)
    (move : Move) (run : Run (Pipeline.step capacity) (unblocked capacity) .initial moves before)
    (taken : Pipeline.step capacity before move = some after)
    (blocked : ¬ unblocked capacity before move) :
    ∃ later final, Run (Pipeline.step capacity) anyAction after later final ∧
        Deadlock capacity final := by
  -- up to this step the invariant bounds the channel; after it there is no more to show
  have start : Flowing capacity .initial := ⟨Nat.zero_le _, nofun⟩
  have bounded := (run_invariant (Flowing capacity) (step_flowing capacity) run start).bounded
  cases move with
  | start name =>
      simp only [unblocked, Classical.not_imp, Nat.not_le] at blocked
      rcases blocked with ⟨waits, startable, overflow⟩
      simp only [Pipeline.step, startable, if_true, Option.ite_none_right_eq_some,
        Option.some.injEq] at taken
      exact taken.2 ▸ deadlock_of_overflow bounded rfl overflow waits
  | exitEvent exitCode =>
      rcases overflow_of_not_roomy blocked with ⟨sending, held, overflow⟩
      simp only [Pipeline.step, Option.ite_none_right_eq_some, Option.some.injEq] at taken
      exact taken.2 ▸ deadlock_of_overflow bounded held overflow rfl
  | scan =>
      simp only [unblocked, Classical.not_imp] at blocked
      rcases overflow_of_not_roomy blocked.2 with ⟨sending, held, overflow⟩
      simp only [Pipeline.step, Option.ite_none_right_eq_some] at taken
      rcases taken with ⟨_, scanned⟩
      split at scanned <;> cases scanned
      · rename_i uncut
        exact absurd blocked.1 (cut_eq_none_iff.mp uncut)
      · exact deadlock_of_overflow bounded held overflow rfl
  | setUp requests =>
      simp only [unblocked, Classical.not_imp] at blocked
      rcases overflow_of_not_roomy blocked.2 with ⟨sending, held, overflow⟩
      simp only [Pipeline.step, Option.ite_none_right_eq_some, Option.some.injEq] at taken
      refine taken.2 ▸ deadlock_of_overflow bounded held overflow ?_
      cases requests with
      | zero => exact absurd blocked.1 (Nat.lt_irrefl 0)
      | succ left => rfl
  | jailRefused =>
      rcases overflow_of_not_roomy blocked with ⟨sending, held, overflow⟩
      simp only [Pipeline.step, Option.ite_none_right_eq_some, Option.some.injEq] at taken
      exact taken.2 ▸ deadlock_of_overflow bounded held overflow rfl
  | setUpRaises =>
      rcases overflow_of_not_roomy blocked with ⟨sending, held, overflow⟩
      simp only [Pipeline.step, Option.ite_none_right_eq_some, Option.some.injEq] at taken
      exact taken.2 ▸ deadlock_of_overflow bounded held overflow rfl
  | _ => exact absurd trivial blocked

end Exactness

section Example

def roomyStarts : List Move :=
  [.create "web", .create "db", .start "web", .copies 4, .sent, .recv 4, .scan, .start "db",
    .copies 3, .sent, .fetched true, .setUp 1, .posted, .forked true, .scan, .exitEvent 0,
      .reported (some "web"), .recv 3]

theorem no_deadlock_roomy :
    ∃ after, Run (Pipeline.step 4) (unblocked 4) .initial roomyStarts after ∧
    after.buffer = encode "db\n" ∧ ¬ Deadlock 4 after :=
  (run_of_replay (Pipeline.step 4) (unblocked 4) Pipeline.buffer .initial roomyStarts
    _ (by decide)).imp
    fun after reached => ⟨reached.1, reached.2, no_deadlock 4 roomyStarts after reached.1⟩

def pilingStarts : List Move :=
  [.create "web", .create "db", .create "log", .start "web", .copies 4, .sent, .recv 4, .scan,
    .start "db", .copies 3, .sent, .start "log", .copies 1]

theorem starts_deadlock :
    ¬ ∀ capacity moves after, Run (Pipeline.step capacity) anyAction .initial moves after →
      ¬ Deadlock capacity after := by
  intro claimed
  rcases run_of_replay (Pipeline.step 4) anyAction
    (fun pipeline => (pipeline.handler, pipeline.channel.length, pipeline.stage.needsLock))
      .initial pilingStarts
    (some ⟨"log", encode "og\n"⟩, 4, true) (by decide) with ⟨after, run, read⟩
  rw [Prod.mk.injEq, Prod.mk.injEq] at read
  rcases read with ⟨held, length, waits⟩
  exact claimed _ _ _ run ⟨_, held, by decide, Nat.le_of_eq length.symm, waits⟩

end Example

end Dockermock.Lifecycle
