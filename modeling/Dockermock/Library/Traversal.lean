import Mathlib.Data.List.Infix
import Mathlib.Data.List.Nodup

/-!
A walk through a tree that grows meanwhile. New children come behind the old ones,
and none goes away. The walk holds a frame for each node it is in the middle of: how
many children there were when it came, and which of them is the next.
-/

namespace Dockermock.Library.Traversal

variable {Label : Type}

/-- The children of the node at each path, in the order in which they came. -/
abbrev Children (Label : Type) := List Label → List Label

structure Frame (Label : Type) where
  path : List Label
  size : Nat
  next : Nat
  deriving DecidableEq

/-- The children that the walk still comes to. -/
def Frame.pending (children : Children Label) (frame : Frame Label) : List Label :=
  ((children frame.path).take frame.size).drop frame.next

/-- In front of a node, between the node itself and its children, or between two children. -/
inductive Position (Label : Type) where
  | node (path : List Label) (frames : List (Frame Label))
  | below (path : List Label) (frames : List (Frame Label))
  | between (frames : List (Frame Label))

def Position.frames : Position Label → List (Frame Label)
  | .node _ frames => frames
  | .below _ frames => frames
  | .between frames => frames

/-- A path below one of the children to come. -/
def Waiting (children : Children Label) (frames : List (Frame Label)) (path : List Label) : Prop :=
  ∃ frame ∈ frames, ∃ label ∈ frame.pending children, frame.path ++ [label] <+: path

def Ahead (children : Children Label) : Position Label → List Label → Prop
  | .node top frames, path => top <+: path ∨ Waiting children frames path
  | .below top frames, path => (top <+: path ∧ path ≠ top) ∨ Waiting children frames path
  | .between frames, path => Waiting children frames path

/-- What waits in a frame is not below the node of a later one. -/
def Apart (children : Children Label) : List (Frame Label) → Prop
  | [] => True
  | frame :: rest => (∀ path, Waiting children rest path → ¬ frame.path <+: path) ∧
      Apart children rest

def Position.Clear (children : Children Label) : Position Label → Prop
  | .node top frames => (∀ path, Waiting children frames path → ¬ top <+: path) ∧
      Apart children frames
  | .below top frames => (∀ path, Waiting children frames path → ¬ top <+: path) ∧
      Apart children frames
  | .between frames => Apart children frames

/-- Nothing of the walk is outside of the tree below a path. -/
def Position.Within (front : List Label) : Position Label → Prop
  | .node top frames => front <+: top ∧ ∀ frame ∈ frames, front <+: frame.path
  | .below top frames => front <+: top ∧ ∀ frame ∈ frames, front <+: frame.path
  | .between frames => ∀ frame ∈ frames, front <+: frame.path

/-- No frame counts children that are not there. -/
def Sized (children : Children Label) (frames : List (Frame Label)) : Prop :=
  ∀ frame ∈ frames, frame.size ≤ (children frame.path).length

def Grows (before after : Children Label) : Prop := ∀ path, before path <+: after path

theorem Position.Within.frames {position : Position Label} {front : List Label}
    (within : position.Within front) : ∀ frame ∈ position.frames, front <+: frame.path := by
  cases position with
  | node top frames => exact within.2
  | below top frames => exact within.2
  | between frames => exact within

section Growth
variable {before after : Children Label}

theorem Frame.pending_grows (grows : Grows before after) (frame : Frame Label)
    (sized : frame.size ≤ (before frame.path).length) :
    frame.pending after = frame.pending before := by
  rcases grows frame.path with ⟨more, same⟩
  rw [pending, pending, ← same, List.take_append_of_le_length sized]

theorem waiting_grows (grows : Grows before after) {frames : List (Frame Label)}
    (sized : Sized before frames) (path : List Label) :
    Waiting after frames path ↔ Waiting before frames path := by
  constructor
  · rintro ⟨frame, member, label, waits, leads⟩
    rw [frame.pending_grows grows (sized frame member)] at waits
    exact ⟨frame, member, label, waits, leads⟩
  · rintro ⟨frame, member, label, waits, leads⟩
    rw [← frame.pending_grows grows (sized frame member)] at waits
    exact ⟨frame, member, label, waits, leads⟩

theorem Sized.grows (grows : Grows before after) {frames : List (Frame Label)}
    (sized : Sized before frames) : Sized after frames := fun frame member =>
  Nat.le_trans (sized frame member) (grows frame.path).length_le

theorem ahead_grows (grows : Grows before after) {position : Position Label}
    (sized : Sized before position.frames) (path : List Label) :
    Ahead after position path ↔ Ahead before position path := by
  cases position with
  | node top frames => exact or_congr_right (waiting_grows grows sized path)
  | below top frames => exact or_congr_right (waiting_grows grows sized path)
  | between frames => exact waiting_grows grows sized path

theorem Apart.grows (grows : Grows before after) {frames : List (Frame Label)}
    (sized : Sized before frames) (apart : Apart before frames) : Apart after frames := by
  induction frames with
  | nil => trivial
  | cons frame rest ih =>
      have tail : Sized before rest :=
        fun other member => sized other (List.mem_cons_of_mem _ member)
      exact ⟨fun path waits => apart.1 path ((waiting_grows grows tail path).mp waits),
        ih tail apart.2⟩

theorem Position.Clear.grows (grows : Grows before after) {position : Position Label}
    (sized : Sized before position.frames) (clear : position.Clear before) :
    position.Clear after := by
  cases position with
  | node top frames =>
      exact ⟨fun path waits => clear.1 path ((waiting_grows grows sized path).mp waits),
        clear.2.grows grows sized⟩
  | below top frames =>
      exact ⟨fun path waits => clear.1 path ((waiting_grows grows sized path).mp waits),
        clear.2.grows grows sized⟩
  | between frames => exact Apart.grows grows sized clear

end Growth

section Moves
variable {children : Children Label} {frames : List (Frame Label)}

theorem ahead_below (top : List Label) (clear : (Position.node top frames).Clear children)
    (path : List Label) : Ahead children (.below top frames) path ↔
        Ahead children (.node top frames) path ∧ path ≠ top := by
  constructor
  · rintro (⟨leads, other⟩ | waits)
    · exact ⟨Or.inl leads, other⟩
    · exact ⟨Or.inr waits, fun same => clear.1 path waits (same ▸ List.prefix_rfl)⟩
  · rintro ⟨leads | waits, other⟩
    · exact Or.inl ⟨leads, other⟩
    · exact Or.inr waits

theorem Frame.pending_fresh (top : List Label) :
    Frame.pending children ⟨top, (children top).length, 0⟩ = children top := by
  rw [pending, List.take_length, List.drop_zero]

theorem waiting_cons (frame : Frame Label) (path : List Label) :
    Waiting children (frame :: frames) path ↔
      (∃ label ∈ frame.pending children, frame.path ++ [label] <+: path) ∨
          Waiting children frames path := by
  simp only [Waiting, List.mem_cons, exists_eq_or_imp]

theorem ahead_opened (top path : List Label)
    (ahead : Ahead children (.between (⟨top, (children top).length, 0⟩ :: frames)) path) :
    Ahead children (.below top frames) path := by
  rcases (waiting_cons _ path).mp ahead with ⟨label, _, leads⟩ | waits
  · refine Or.inl ⟨(List.prefix_append top [label]).trans leads, ?_⟩
    rintro rfl
    have shorter : (path ++ [label]).length ≤ path.length := leads.length_le
    rw [List.length_append] at shorter
    exact Nat.not_succ_le_self _ shorter
  · exact Or.inr waits

/-- What is below one of the children there are does not get lost when the walk comes to them. -/
theorem ahead_open (top path : List Label)
    (known : ∀ label, top ++ [label] <+: path → label ∈ children top)
    (ahead : Ahead children (.below top frames) path) :
    Ahead children (.between (⟨top, (children top).length, 0⟩ :: frames)) path := by
  refine (waiting_cons _ path).mpr ?_
  rcases ahead with ⟨⟨rest, rfl⟩, other⟩ | waits
  · cases rest with
    | nil => exact absurd (List.append_nil top) other
    | cons label more =>
        have leads : top ++ [label] <+: top ++ label :: more := ⟨more, by simp⟩
        refine Or.inl ⟨label, ?_, leads⟩
        rw [Frame.pending_fresh]
        exact known label leads
  · exact Or.inr waits

section Turn
variable {frame : Frame Label} (unchanged : (children frame.path).length = frame.size)
include unchanged

theorem Frame.pending_next {label : Label}
    (here : (children frame.path)[frame.next]? = some label) : frame.pending children =
        label :: Frame.pending children { frame with next := frame.next + 1 } := by
  rcases List.getElem?_eq_some_iff.mp here with ⟨inside, rfl⟩
  rw [pending, pending, ← unchanged, List.take_length]
  exact List.drop_eq_getElem_cons inside

theorem Frame.pending_done (none : (children frame.path)[frame.next]? = none) :
    frame.pending children = [] := by
  rw [pending, ← unchanged, List.take_length]
  exact List.drop_eq_nil_of_le (List.getElem?_eq_none_iff.mp none)

theorem ahead_next {label : Label} (here : (children frame.path)[frame.next]? = some label)
    (path : List Label) : Ahead children
      (.node (frame.path ++ [label]) ({ frame with next := frame.next + 1 } :: frames)) path ↔
      Ahead children (.between (frame :: frames)) path := by
  change _ ∨ Waiting children _ path ↔ Waiting children _ path
  rw [waiting_cons, waiting_cons, frame.pending_next unchanged here]
  simp only [List.mem_cons, exists_eq_or_imp, or_assoc]

theorem ahead_done (none : (children frame.path)[frame.next]? = none) (path : List Label) :
    Ahead children (.between frames) path ↔ Ahead children (.between (frame :: frames)) path := by
  change Waiting children _ path ↔ Waiting children _ path
  rw [waiting_cons, frame.pending_done unchanged none]
  simp

theorem clear_next (distinct : (children frame.path).Nodup) {label : Label}
    (here : (children frame.path)[frame.next]? = some label)
    (apart : Apart children (frame :: frames)) :
    (Position.node (frame.path ++ [label]) ({ frame with next := frame.next + 1 } :: frames)).Clear
        children := by
  refine ⟨?_, apart.1, apart.2⟩
  intro path waits leads
  rcases (waiting_cons _ path).mp waits with ⟨other, later, below⟩ | lower
  · have sameLength : (frame.path ++ [other]).length = (frame.path ++ [label]).length := by simp
    have same := (List.prefix_of_prefix_length_le below leads sameLength.le).eq_of_length sameLength
    obtain rfl : other = label := by simpa using same
    have listed : (frame.pending children).Nodup :=
      (distinct.sublist (List.take_sublist _ _)).sublist (List.drop_sublist _ _)
    rw [frame.pending_next unchanged here] at listed
    exact (List.nodup_cons.mp listed).1 later
  · exact apart.1 path lower ((List.prefix_append frame.path [label]).trans leads)

end Turn

end Moves

end Dockermock.Library.Traversal
