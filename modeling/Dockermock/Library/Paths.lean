import Mathlib.Data.List.Induction
import Mathlib.Data.List.TakeWhile

/-!
Paths as `os.path.join` makes them and as a file system without symbolic links
reads them: segment by segment, from directory to directory. A directory is the
list of the names that lead to it.
-/

namespace Dockermock.Library

section Walking

variable {Name : Type}

inductive Segment (Name : Type) where
  | up
  | down (name : Name)
  deriving DecidableEq, Repr

def Segment.enter (dir : List Name) : Segment Name → List Name
  | .up => dir.dropLast
  | .down name => dir ++ [name]

def walk (dir : List Name) (segments : List (Segment Name)) : List Name :=
  segments.foldl Segment.enter dir

def visited : List Name → List (Segment Name) → List (List Name)
  | _, [] => []
  | dir, segment :: rest => segment.enter dir :: visited (segment.enter dir) rest

theorem walk_append (dir : List Name) (front rest : List (Segment Name)) :
    walk dir (front ++ rest) = walk (walk dir front) rest := List.foldl_append

theorem visited_append (dir : List Name) (front rest : List (Segment Name)) :
    visited dir (front ++ rest) = visited dir front ++ visited (walk dir front) rest := by
  induction front generalizing dir with
  | nil => rfl
  | cons segment others ih => exact congrArg (segment.enter dir :: ·) (ih (segment.enter dir))

theorem walk_mem (dir : List Name) (segments : List (Segment Name)) :
    walk dir segments ∈ dir :: visited dir segments := by
  induction segments generalizing dir with
  | nil => exact List.mem_cons_self
  | cons segment rest ih => exact List.mem_cons_of_mem _ (ih (segment.enter dir))

/-- The segments that name only what a directory can be called; a call that meets another one
raises there. -/
def legalPart (legal : Name → Bool) (segments : List (Segment Name)) : List (Segment Name) :=
  segments.takeWhile fun segment =>
    match segment with
    | .up => true
    | .down name => legal name

theorem legalPart_up (legal : Name → Bool) (rest : List (Segment Name)) :
    legalPart legal (.up :: rest) = .up :: legalPart legal rest := rfl

theorem legalPart_named {legal : Name → Bool} {segments : List (Segment Name)} {name : Name}
    (member : .down name ∈ legalPart legal segments) : legal name = true := by
  have all := List.all_takeWhile (l := segments) (p := fun segment : Segment Name =>
    match segment with
    | .up => true
    | .down name => legal name)
  exact List.all_eq_true.mp all _ member

theorem legalPart_down (legal : Name → Bool) (name : Name) (rest : List (Segment Name)) :
    legalPart legal (.down name :: rest) =
      if legal name then .down name :: legalPart legal rest else [] := by
  cases good : legal name <;> simp [legalPart, good]

theorem visited_present_legal (legal : Name → Bool) (dirs : List (List Name)) (dir : List Name)
    (segments : List (Segment Name)) (named : ∀ dir name, dir ++ [name] ∈ dirs → legal name = true)
    (present : ∀ reached ∈ visited dir segments, reached ∈ dirs) :
    legalPart legal segments = segments := by
  induction segments generalizing dir with
  | nil => rfl
  | cons segment rest ih =>
      rw [visited, List.forall_mem_cons] at present
      have others := ih _ present.2
      cases segment with
      | up => rw [legalPart_up, others]
      | down name => rw [legalPart_down, if_pos (named dir name present.1), others]

/-- The directory above a directory is there as well. -/
def Rooted (dirs : List (List Name)) : Prop := [] ∈ dirs ∧ ∀ dir ∈ dirs, dir.dropLast ∈ dirs

theorem Rooted.congr {dirs others : List (List Name)} (rooted : Rooted dirs)
    (same : ∀ dir, dir ∈ dirs ↔ dir ∈ others) : Rooted others :=
  ⟨(same []).mp rooted.1, fun dir member => (same _).mp (rooted.2 dir ((same dir).mpr member))⟩

theorem Rooted.cons {dirs : List (List Name)} (rooted : Rooted dirs) {dir : List Name}
    (here : dir ∈ dirs) (name : Name) : Rooted ((dir ++ [name]) :: dirs) := by
  refine ⟨List.mem_cons_of_mem _ rooted.1, fun known member => ?_⟩
  rcases List.mem_cons.mp member with rfl | before
  · rw [List.dropLast_concat]
    exact List.mem_cons_of_mem _ here
  · exact List.mem_cons_of_mem _ (rooted.2 known before)

theorem Rooted.enter {dirs : List (List Name)} (rooted : Rooted dirs) {dir : List Name}
    (here : dir ∈ dirs) (segment : Segment Name) : Rooted (segment.enter dir :: dirs) := by
  cases segment with
  | down name => exact rooted.cons here name
  | up =>
      refine rooted.congr fun other => ⟨List.mem_cons_of_mem _, fun member => ?_⟩
      exact (List.mem_cons.mp member).elim (fun same => same ▸ rooted.2 dir here) id

theorem Rooted.visited {dirs : List (List Name)} (rooted : Rooted dirs) {dir : List Name}
    (here : dir ∈ dirs) (segments : List (Segment Name)) :
    Rooted (visited dir segments ++ dirs) := by
  induction segments generalizing dirs dir with
  | nil => exact rooted
  | cons segment rest ih =>
      refine (ih (rooted.enter here segment) List.mem_cons_self).congr fun other => ?_
      simp [Library.visited, or_left_comm]

theorem visited_named (good : Name → Prop) (dir : List Name) (segments : List (Segment Name))
    (start : ∀ name ∈ dir, good name) (path : ∀ name, .down name ∈ segments → good name) :
    ∀ reached ∈ visited dir segments, ∀ name ∈ reached, good name := by
  induction segments generalizing dir with
  | nil => exact fun _ member => absurd member List.not_mem_nil
  | cons segment rest ih =>
      have entered : ∀ name ∈ segment.enter dir, good name := by
        cases segment with
        | up => exact fun name member => start name ((List.dropLast_sublist dir).subset member)
        | down last =>
            intro name member
            rcases List.mem_append.mp member with before | here
            · exact start name before
            · rw [List.mem_singleton.mp here]
              exact path last List.mem_cons_self
      rw [visited, List.forall_mem_cons]
      exact ⟨entered, ih _ entered fun name member => path name (List.mem_cons_of_mem _ member)⟩

end Walking

section Text

/-- `os.path.join` of two parts -/
def joinPath (left right : String) : String :=
  if right.toList.head? = some '/' then right
  else if left = "" ∨ left.toList.getLast? = some '/' then left ++ right
  else left ++ "/" ++ right

def segments (path : String) : List (Segment String) :=
  (path.toList.splitOn '/').filterMap fun name =>
    if name = [] ∨ name = ['.'] then none
    else if name = ['.', '.'] then some .up
    else some (.down (String.ofList name))

/-- The directory that an absolute path names. -/
def resolve (path : String) : List String := walk [] (segments path)

/-- No name of a file or directory has a null character. -/
def legalName (name : String) : Bool := '\x00' ∉ name.toList

/-- A call can follow the path to its end. -/
def Legal (path : String) : Prop := legalPart legalName (segments path) = segments path

instance (path : String) : Decidable (Legal path) := inferInstanceAs (Decidable (_ = _))

/-- Every directory on the way that a call can get to. -/
def entered (path : String) : List (List String) := visited [] (legalPart legalName (segments path))

end Text

section Ends

def basename (path : String) : String :=
  String.ofList (path.toList.reverse.takeWhile (· ≠ '/')).reverse

/-- `os.path.dirname`: what is in front of the last slash, without the slashes at its end if it
has anything else. -/
def dirname (path : String) : String :=
  let head := (path.toList.reverse.dropWhile (· ≠ '/')).reverse
  let bare := (head.reverse.dropWhile (· = '/')).reverse
  String.ofList (if bare = [] then head else bare)

/-- A path that ends like this leads to a directory or nowhere. -/
def NamesDirectory (path : String) : Prop := basename path ∈ ["", ".", ".."]

instance (path : String) : Decidable (NamesDirectory path) := inferInstanceAs (Decidable (_ ∈ _))

theorem segments_slash (left right : List Char) : segments (String.ofList (left ++ '/' :: right)) =
    segments (String.ofList left) ++ segments (String.ofList right) := by
  simp [segments, List.splitOn_append_cons_self]

theorem toList_joinPath {left right : String} (some' : left ≠ "")
    (relative : right.toList.head? ≠ some '/') :
    ∃ front, segments (String.ofList front) = segments left ∧
      (joinPath left right).toList = front ++ '/' :: right.toList := by
  rw [joinPath, if_neg relative]
  by_cases ended : left.toList.getLast? = some '/'
  · obtain ⟨front, whole⟩ := List.getLast?_eq_some_iff.mp ended
    rw [if_pos (.inr ended)]
    refine ⟨front, ?_, by simp [whole]⟩
    have same := segments_slash front []
    rw [← whole, String.ofList_toList] at same
    rw [same]
    exact (List.append_nil _).symm
  · rw [if_neg (not_or.mpr ⟨some', ended⟩)]
    exact ⟨left.toList, by rw [String.ofList_toList], by simp⟩

theorem segments_joinPath {left right : String} (some' : left ≠ "")
    (relative : right.toList.head? ≠ some '/') :
    segments (joinPath left right) = segments left ++ segments right := by
  obtain ⟨front, same, whole⟩ := toList_joinPath some' relative
  have cut := segments_slash front right.toList
  rwa [← whole, String.ofList_toList, String.ofList_toList, same] at cut

theorem basename_free (path : String) : '/' ∉ (basename path).toList := by
  rw [basename, String.toList_ofList, List.mem_reverse]
  intro slash
  have other := List.mem_takeWhile_imp slash
  simp at other

theorem basename_joinPath {left right : String} (some' : left ≠ "") (free : '/' ∉ right.toList) :
    basename (joinPath left right) = right := by
  have relative : right.toList.head? ≠ some '/' := fun first => free (List.mem_of_mem_head? first)
  obtain ⟨front, _, whole⟩ := toList_joinPath some' relative
  have last : (right.toList.reverse ++ '/' :: front.reverse).takeWhile (· ≠ '/') =
      right.toList.reverse := by
    rw [List.takeWhile_append_of_pos]
    · simp
    · intro char member
      have other : char ≠ '/' := fun slash => free (slash ▸ List.mem_reverse.mp member)
      simpa using other
  rw [basename, whole, List.reverse_append, List.reverse_cons, List.append_assoc,
    List.singleton_append, last, List.reverse_reverse, String.ofList_toList]

theorem segments_free {name : String} (free : '/' ∉ name.toList) :
    segments name = [] ∨ ∃ segment, segments name = [segment] := by
  rw [segments, List.splitOn_eq_singleton free, List.filterMap_cons]
  split
  · exact .inl rfl
  · exact .inr ⟨_, rfl⟩

theorem segments_rstrip (chars : List Char) :
    segments (String.ofList (chars.reverse.dropWhile (· = '/')).reverse) =
        segments (String.ofList chars) := by
  induction chars using List.reverseRecOn with
  | nil => rfl
  | append_singleton chars char ih =>
      rw [List.reverse_append, List.reverse_singleton, List.singleton_append]
      by_cases slash : char = '/'
      · rw [List.dropWhile_cons_of_pos (by simpa using slash), ih, slash]
        exact ((segments_slash chars []).trans (List.append_nil _)).symm
      · rw [List.dropWhile_cons_of_neg (by simpa using slash), List.reverse_cons,
          List.reverse_reverse]

theorem segments_dirname (path : String) :
    segments path = segments (dirname path) ++ segments (basename path) := by
  have whole : path.toList.reverse.takeWhile (· ≠ '/') ++ path.toList.reverse.dropWhile (· ≠ '/') =
      path.toList.reverse := List.takeWhile_append_dropWhile
  have stop := List.head?_dropWhile_not (· ≠ '/') path.toList.reverse
  rw [dirname, basename]
  generalize path.toList.reverse.takeWhile (· ≠ '/') = last at whole ⊢
  generalize path.toList.reverse.dropWhile (· ≠ '/') = rest at whole stop ⊢
  have text : path = String.ofList (rest.reverse ++ last.reverse) := by
    rw [← List.reverse_append, whole, List.reverse_reverse, String.ofList_toList]
  have bare := segments_rstrip rest.reverse
  have head :
      segments (String.ofList
        (if (rest.reverse.reverse.dropWhile (· = '/')).reverse = [] then rest.reverse
          else (rest.reverse.reverse.dropWhile (· = '/')).reverse)) =
        segments (String.ofList rest.reverse) := by
    split
    · rfl
    · exact bare
  rw [head, text]
  cases rest with
  | nil => rfl
  | cons slash front =>
      have here : slash = '/' := by simpa using stop
      rw [here, List.reverse_cons, List.append_assoc, List.singleton_append, segments_slash]
      exact congrArg (· ++ _) ((segments_slash front.reverse []).trans (List.append_nil _)).symm

end Ends

end Dockermock.Library
