import Mathlib.Data.List.DropRight
import Mathlib.Data.List.Basic
import Dockermock.Library.Text

/-!
How the image builder reads a Dockerfile: line by line, without a syntax beyond the
first word of a line. A line means the same in every layout.
-/

namespace Dockermock.Builder

open Library

section Code

/-- Text files are read with universal newlines. -/
def universal : List Char → List Char
  | '\r' :: '\n' :: rest => '\n' :: universal rest
  | '\r' :: rest => '\n' :: universal rest
  | char :: rest => char :: universal rest
  | [] => []

/-- `for line in f`, without the ends of the lines -/
def fileLines (text : String) : List String :=
  ((universal text.toList).splitOn '\n').map String.ofList

-- `str.upper`, which is up to the Unicode tables of the interpreter
variable (upper : String → String)

/-- The body of the loop up to the call of `execute`: the instruction and what is behind it. -/
def parseLine (line : String) : Option (String × String) :=
  let stripped := (strip line).toList
  match stripped with
  | [] => none
  | '#' :: _ => none
  | _ =>
      let behind := (stripped.dropWhile fun char => !isSpace char).dropWhile isSpace
      some (upper (String.ofList (stripped.takeWhile fun char => !isSpace char)),
        String.ofList behind)

def instructions (text : String) : List (String × String) :=
  (fileLines text).filterMap (parseLine upper)

end Code

section Layout

variable (upper : String → String)

def Spaces (chars : List Char) : Prop := ∀ char ∈ chars, isSpace char = true

inductive Written : String → Option (String × String) → Prop where
  | blank (line : String) (spaces : Spaces line.toList) : Written line none
  | comment (line : String) (indent text : List Char) (spaces : Spaces indent)
      (whole : line.toList = indent ++ '#' :: text) : Written line none
  | bare (line : String) (indent name trail : List Char) (before : Spaces indent)
      (after : Spaces trail) (word : ∀ char ∈ name, isSpace char = false) (some' : name ≠ [])
        (plain : name.head? ≠ some '#')
      (whole : line.toList = indent ++ (name ++ trail)) :
        Written line (some (upper (String.ofList name), ""))
  | full (line : String) (indent name gap args trail : List Char) (before : Spaces indent)
      (between : Spaces gap)
      (after : Spaces trail) (word : ∀ char ∈ name, isSpace char = false) (some' : name ≠ [])
      (plain : name.head? ≠ some '#') (apart : gap ≠ []) (given : args ≠ [])
      (first : ∀ char ∈ args.head?, isSpace char = false) (last : ∀ char ∈ args.getLast?,
        isSpace char = false)
      (whole : line.toList = indent ++ (name ++ (gap ++ (args ++ trail)))) :
      Written line (some (upper (String.ofList name), String.ofList args))

variable {upper}

theorem strip_toList (text : String) :
    (strip text).toList = (text.toList.dropWhile isSpace).rdropWhile isSpace :=
  String.toList_ofList

theorem dropWhile_spaces {front back : List Char} (spaces : Spaces front)
    (stops : ∀ char ∈ back.head?, isSpace char = false) :
    (front ++ back).dropWhile isSpace = back := by
  rw [List.dropWhile_append_of_pos spaces]
  cases back with
  | nil => rfl
  | cons char rest => exact List.dropWhile_cons_of_neg (by simp [stops char rfl])

theorem rdropWhile_spaces {front back : List Char} (spaces : Spaces back)
    (stops : ∀ char ∈ front.getLast?, isSpace char = false) :
    (front ++ back).rdropWhile isSpace = front := by
  rw [List.rdropWhile, List.reverse_append, dropWhile_spaces, List.reverse_reverse]
  · exact fun char member => spaces char (List.mem_reverse.mp member)
  · rwa [List.head?_reverse]

theorem takeWhile_word {name rest : List Char} (word : ∀ char ∈ name, isSpace char = false)
    (stops : ∀ char ∈ rest.head?, isSpace char = true) :
    (name ++ rest).takeWhile (fun char => !isSpace char) = name ∧
      (name ++ rest).dropWhile (fun char => !isSpace char) = rest := by
  have all : ∀ char ∈ name, (!isSpace char) = true := fun char member => by
    rw [word char member]; rfl
  rw [List.takeWhile_append_of_pos all, List.dropWhile_append_of_pos all]
  cases rest with
  | nil => simp
  | cons char rest => simp [stops char rfl]

theorem parseLine_word {line : String} {name rest : List Char}
    (stripped : (strip line).toList = name ++ rest) (word : ∀ char ∈ name, isSpace char = false)
    (some' : name ≠ []) (plain : name.head? ≠ some '#')
    (stops : ∀ char ∈ rest.head?, isSpace char = true) :
    parseLine upper line = some
        (upper (String.ofList name), String.ofList (rest.dropWhile isSpace)) := by
  have parts := takeWhile_word word stops
  unfold parseLine
  simp only [stripped]
  split
  · rename_i empty
    exact absurd (List.append_eq_nil_iff.mp empty).1 some'
  · rename_i text marked
    rcases List.exists_cons_of_ne_nil some' with ⟨first, others, rfl⟩
    cases marked
    exact absurd rfl plain
  · rw [parts.1, parts.2]

theorem parseLine_written {line : String} {step : Option (String × String)}
    (written : Written upper line step) : parseLine upper line = step := by
  cases written with
  | blank spaces =>
      have stripped : (strip line).toList = [] := by
        rw [strip_toList, List.dropWhile_eq_nil_iff.mpr spaces, List.rdropWhile_nil]
      rw [parseLine, stripped]
  | comment indent text spaces whole =>
      have stripped : ∃ rest, (strip line).toList = '#' :: rest := by
        rw [strip_toList, whole, dropWhile_spaces spaces fun char marked => by cases marked; decide]
        -- stripping at the end cannot take the mark away, which is no white space
        have kept := List.rdropWhile_prefix isSpace ('#' :: text)
        cases shown : ('#' :: text).rdropWhile isSpace with
        | nil =>
            exact absurd (List.rdropWhile_eq_nil_iff.mp shown '#' List.mem_cons_self) (by decide)
        | cons char rest =>
            rw [shown, List.cons_prefix_cons] at kept
            exact ⟨rest, by rw [kept.1]⟩
      rcases stripped with ⟨rest, stripped⟩
      rw [parseLine, stripped]
      rfl
  | bare indent name trail before after word some' plain whole =>
      have stripped : (strip line).toList = name ++ [] := by
        rw [strip_toList, whole, dropWhile_spaces before, List.append_nil, rdropWhile_spaces after]
        · exact fun char member => word char (List.mem_of_mem_getLast? member)
        · rw [List.head?_append_of_ne_nil _ some']
          exact fun char member => word char (List.mem_of_mem_head? member)
      exact parseLine_word stripped word some' plain nofun
  | full indent name gap args trail before between after word some' plain apart given first last
      whole =>
      have stripped : (strip line).toList = name ++ (gap ++ args) := by
        rw [strip_toList, whole, dropWhile_spaces before, ← List.append_assoc gap,
          ← List.append_assoc name, rdropWhile_spaces after]
        · rw [List.getLast?_append_of_ne_nil _ (List.append_ne_nil_of_right_ne_nil gap given),
            List.getLast?_append_of_ne_nil _ given]
          exact last
        · rw [List.head?_append_of_ne_nil _ some']
          exact fun char member => word char (List.mem_of_mem_head? member)
      rw [parseLine_word stripped word some' plain, dropWhile_spaces between first]
      rw [List.head?_append_of_ne_nil _ apart]
      exact fun char member => between char (List.mem_of_mem_head? member)

theorem strip_parts (line : String) :
    ∃ indent trail, Spaces indent ∧ Spaces trail ∧
      line.toList = indent ++ ((strip line).toList ++ trail) ∧
      ∀ char ∈ (strip line).toList.getLast?, isSpace char = false := by
  refine ⟨line.toList.takeWhile isSpace, (line.toList.dropWhile isSpace).rtakeWhile isSpace,
    fun _ member => List.mem_takeWhile_imp member,
      fun _ member => List.mem_rtakeWhile_imp member, ?_, ?_⟩
  · rw [strip_toList, List.rdropWhile_append_rtakeWhile, List.takeWhile_append_dropWhile]
  · intro char shown
    rw [strip_toList] at shown
    rcases List.mem_getLast?_eq_getLast shown with ⟨some', rfl⟩
    simpa using List.rdropWhile_last_not isSpace _ some'

theorem strip_head (line : String) : ∀ char ∈ (strip line).toList.head?, isSpace char = false := by
  intro char shown
  rw [strip_toList] at shown
  have whole : (line.toList.dropWhile isSpace).head? = some char :=
    List.singleton_prefix_iff_head?_eq_some.mp
      ((List.singleton_prefix_iff_head?_eq_some.mpr shown).trans (List.rdropWhile_prefix isSpace _))
  simpa [whole] using List.head?_dropWhile_not isSpace line.toList

theorem written_parseLine (line : String) : Written upper line (parseLine upper line) := by
  rcases strip_parts line with ⟨indent, trail, before, after, whole, last⟩
  have head := strip_head line
  unfold parseLine
  generalize (strip line).toList = core at whole last head
  dsimp only
  split
  · refine .blank line ?_
    rw [whole]
    exact List.forall_mem_append.mpr ⟨before, after⟩
  · rename_i text
    exact .comment line indent (text ++ trail) before whole
  · rename_i some' unmarked
    -- What is left is the first word, and behind it nothing or a gap and the arguments.
    rcases List.exists_cons_of_ne_nil some' with ⟨first, others, rfl⟩
    have inner : isSpace first = false := head first rfl
    generalize parted : (first :: others).takeWhile (fun char => !isSpace char) = name
    generalize left : (first :: others).dropWhile (fun char => !isSpace char) = rest
    have joined : name ++ rest = first :: others := by
      rw [← parted, ← left, List.takeWhile_append_dropWhile]
    have word : ∀ char ∈ name, isSpace char = false := by
      intro char member
      rw [← parted] at member
      have free := List.mem_takeWhile_imp member
      simpa using free
    have begun : name.head? = some first := by simp [← parted, inner]
    have some' : name ≠ [] := by
      rintro rfl
      cases begun
    have plain : name.head? ≠ some '#' := fun marked => by
      rw [begun, Option.some.injEq] at marked
      exact unmarked others (by rw [marked])
    rw [← joined] at whole last
    cases rest with
    | nil =>
        refine .bare line indent name trail before after word some' plain ?_
        rw [whole, List.append_nil]
    | cons next more =>
        have blank : isSpace next = true := by
          have stop := List.head?_dropWhile_not (fun char => !isSpace char) (first :: others)
          simpa [left] using stop
        rw [List.getLast?_append_of_ne_nil _ (List.cons_ne_nil next more)] at last
        have parts : (next :: more).takeWhile isSpace ++ (next :: more).dropWhile isSpace =
            next :: more :=
          List.takeWhile_append_dropWhile
        have given : (next :: more).dropWhile isSpace ≠ [] := by
          intro nothing
          have spaces := List.dropWhile_eq_nil_iff.mp nothing
          have ended := last _ (List.getLast?_eq_some_getLast (List.cons_ne_nil next more))
          rw [spaces _ (List.getLast_mem _)] at ended
          cases ended
        refine .full line indent name ((next :: more).takeWhile isSpace)
          ((next :: more).dropWhile isSpace) trail before
          (fun _ member => List.mem_takeWhile_imp member) after word some' plain ?_ given ?_ ?_ ?_
        · simp [blank]
        · intro char shown
          have stop := List.head?_dropWhile_not isSpace (next :: more)
          rw [Option.mem_def.mp shown] at stop
          simpa using stop
        · intro char shown
          apply last
          rw [← parts, List.getLast?_append_of_ne_nil _ given]
          exact shown
        · rw [whole, ← List.append_assoc (List.takeWhile _ _), parts, List.append_assoc]

theorem parseLine_iff (line : String) (step : Option (String × String)) :
    parseLine upper line = step ↔ Written upper line step :=
  ⟨fun same => same ▸ written_parseLine line, parseLine_written⟩

end Layout

section File

/-- A line of a file, with `\r` in front of its end or not. -/
structure Line where
  text : String
  crlf : Bool

def Line.Plain (line : Line) : Prop := '\n' ∉ line.text.toList ∧ '\r' ∉ line.text.toList

instance (line : Line) : Decidable line.Plain := inferInstanceAs (Decidable (_ ∧ _))

def Line.chars (line : Line) : List Char :=
  line.text.toList ++ if line.crlf then ['\r', '\n'] else ['\n']

/-- The lines of a file and what is behind the last end of a line. -/
def fileText (lines : List Line) (last : String) : String :=
  String.ofList (lines.flatMap Line.chars ++ last.toList)

theorem universal_plain {chars : List Char} (plain : '\r' ∉ chars) (rest : List Char) :
    universal (chars ++ rest) = chars ++ universal rest := by
  induction chars with
  | nil => rfl
  | cons char more ih =>
      rw [List.mem_cons, not_or] at plain
      rw [List.cons_append, universal, ih plain.2, List.cons_append]
      · rintro _ rfl
        exact absurd rfl plain.1
      · rintro rfl
        exact absurd rfl plain.1

theorem fileLines_fileText {lines : List Line} (plain : ∀ line ∈ lines, line.Plain) {last : String}
    (lastPlain : '\n' ∉ last.toList ∧ '\r' ∉ last.toList) :
    fileLines (fileText lines last) = lines.map Line.text ++ [last] := by
  have split : ∀ lines : List Line, (∀ line ∈ lines, line.Plain) →
      (universal (lines.flatMap Line.chars ++ last.toList)).splitOn '\n' =
        lines.map (fun line => line.text.toList) ++ [last.toList] := by
    intro lines plain
    induction lines with
    | nil =>
        have same := universal_plain lastPlain.2 []
        rw [List.append_nil, universal, List.append_nil] at same
        rw [List.flatMap_nil, List.nil_append, same, List.splitOn_eq_singleton lastPlain.1]
        rfl
    | cons line rest ih =>
        rw [List.forall_mem_cons] at plain
        have ended : universal ((line :: rest).flatMap Line.chars ++ last.toList) =
            line.text.toList ++ '\n' :: universal (rest.flatMap Line.chars ++ last.toList) := by
          rw [List.flatMap_cons, Line.chars, List.append_assoc, List.append_assoc,
            universal_plain plain.1.2]
          cases line.crlf <;> rfl
        rw [ended, List.splitOn_append_cons_self_of_not_mem plain.1.1, ih plain.2]
        rfl
  rw [fileLines, fileText, String.toList_ofList, split lines plain, List.map_append, List.map_map]
  simp [Function.comp_def]

/-- However a Dockerfile is laid out, it is read as the instructions written in it, and a line
is read as one only if it is written so. -/
theorem instructions_written (upper : String → String) {lines : List Line} {last : Line}
    (plain : ∀ line ∈ lines ++ [last], line.Plain) :
    (∀ steps, List.Forall₂ (fun line step => Written upper line.text step) (lines ++ [last]) steps →
      instructions upper (fileText lines last.text) = steps.filterMap id) ∧
      ∀ line step, parseLine upper line = step ↔ Written upper line step := by
  refine ⟨fun steps written => ?_, parseLine_iff⟩
  have each : (lines ++ [last]).map (parseLine upper ∘ Line.text) = steps := by
    generalize lines ++ [last] = all at written
    induction written with
    | nil => rfl
    | cons first _ ih => rw [List.map_cons, Function.comp_apply, parseLine_written first, ih]
  rw [List.forall_mem_append, List.forall_mem_singleton] at plain
  have texts : lines.map Line.text ++ [last.text] = (lines ++ [last]).map Line.text := by
    rw [List.map_append, List.map_singleton]
  rw [instructions, fileLines_fileText plain.1 plain.2, texts, ← each, List.filterMap_map,
    List.filterMap_map, Function.id_comp]

end File

section Example

def sampleLines : List Line :=
  [⟨"FROM freebsd:15.0", false⟩, ⟨"", true⟩, ⟨"  # packages", true⟩,
    ⟨"run\tpkg  bootstrap -f ", false⟩]

theorem instructions_written_sample :
    instructions asciiUpper (fileText sampleLines "Cmd tail -f /dev/null") =
      [("FROM", "freebsd:15.0"), ("RUN", "pkg  bootstrap -f"), ("CMD", "tail -f /dev/null")] := by
  refine (@instructions_written asciiUpper sampleLines ⟨"Cmd tail -f /dev/null", false⟩
    (by decide +kernel)).1
    [some ("FROM", "freebsd:15.0"), none, none, some ("RUN", "pkg  bootstrap -f"),
      some ("CMD", "tail -f /dev/null")] ?_
  simp only [← parseLine_iff]
  decide +kernel

end Example

end Dockermock.Builder
