import Mathlib.Data.List.Basic

/-!
Messages on a byte stream, each closed by a mark. The reader cuts its buffer at
the first mark, as often as there is one; in UTF-8 a newline is a byte that no
other character has.
-/

namespace Dockermock.Library

section Cut

variable {Byte : Type} [DecidableEq Byte]

/-- `buffer.split(mark, 1)` where the mark is in the buffer. -/
def cut (mark : Byte) : List Byte → Option (List Byte × List Byte)
  | [] => none
  | byte :: rest =>
      if byte = mark then some ([], rest)
      else (cut mark rest).map fun parts => (byte :: parts.1, parts.2)

theorem cut_framed {mark : Byte} {line : List Byte} (free : mark ∉ line) (rest : List Byte) :
    cut mark (line ++ mark :: rest) = some (line, rest) := by
  induction line with
  | nil => simp [cut]
  | cons byte line ih =>
      rw [List.mem_cons, not_or] at free
      rw [List.cons_append, cut, if_neg (Ne.symm free.1), ih free.2]
      rfl

theorem cut_eq_none_iff {mark : Byte} {buffer : List Byte} :
    cut mark buffer = none ↔ mark ∉ buffer := by
  constructor
  · intro uncut member
    rcases List.eq_append_cons_of_mem member with ⟨line, rest, rfl, free⟩
    rw [cut_framed free rest] at uncut
    cases uncut
  · intro free
    induction buffer with
    | nil => rfl
    | cons byte rest ih =>
        rw [List.mem_cons, not_or] at free
        rw [cut, if_neg (Ne.symm free.1), ih free.2]
        rfl

theorem cut_eq_some_iff {mark : Byte} {buffer line rest : List Byte} :
    cut mark buffer = some (line, rest) ↔ mark ∉ line ∧ buffer = line ++ mark :: rest := by
  constructor
  · intro found
    induction buffer generalizing line with
    | nil => cases found
    | cons byte tail ih =>
        rw [cut] at found
        split at found
        · rename_i same
          cases found
          exact ⟨List.not_mem_nil, by rw [same, List.nil_append]⟩
        · rename_i different
          rcases Option.map_eq_some_iff.mp found with ⟨⟨front, back⟩, inner, joined⟩
          cases joined
          rcases ih inner with ⟨free, same⟩
          refine ⟨?_, by rw [same, List.cons_append]⟩
          rw [List.mem_cons, not_or]
          exact ⟨Ne.symm different, free⟩
  · rintro ⟨free, rfl⟩
    exact cut_framed free rest

theorem cut_length {mark : Byte} {buffer line rest : List Byte}
    (found : cut mark buffer = some (line, rest)) : rest.length < buffer.length := by
  rw [(cut_eq_some_iff.mp found).2, List.length_append, List.length_cons]
  omega

/-- Line by line: from the rest of a buffer to the buffer, and for what has no mark any more. -/
@[elab_as_elim]
theorem framed_induction (mark : Byte) {motive : List Byte → Prop}
    (free : ∀ buffer, mark ∉ buffer → motive buffer)
    (line : ∀ line rest, mark ∉ line → motive rest → motive (line ++ mark :: rest))
    (buffer : List Byte) :
    motive buffer := by
  induction size : buffer.length using Nat.strongRecOn generalizing buffer with
  | _ count ih =>
      by_cases framed : mark ∈ buffer
      · rcases List.eq_append_cons_of_mem framed with ⟨front, rest, rfl, unmarked⟩
        have shorter : rest.length < count := size ▸ cut_length (cut_framed unmarked rest)
        exact line front rest unmarked (ih rest.length shorter rest rfl)
      · exact free buffer framed

/-- The lines that are closed by a mark, without it. -/
def terminated (mark : Byte) (stream : List Byte) : List (List Byte) :=
  (stream.splitOn mark).dropLast

/-- What comes behind the last mark. -/
def unterminated (mark : Byte) (stream : List Byte) : List Byte :=
  (stream.splitOn mark).getLast (List.splitOn_ne_nil _ _)

theorem terminated_free {mark : Byte} {stream : List Byte} (free : mark ∉ stream) :
    terminated mark stream = [] := by
  rw [terminated, List.splitOn_eq_singleton free]
  rfl

theorem unterminated_eq_self {mark : Byte} {stream : List Byte} (free : mark ∉ stream) :
    unterminated mark stream = stream := by
  simp [unterminated, List.splitOn_eq_singleton free]

theorem terminated_line {mark : Byte} {line : List Byte} (free : mark ∉ line) (rest : List Byte) :
    terminated mark (line ++ mark :: rest) = line :: terminated mark rest := by
  rw [terminated, List.splitOn_append_cons_self_of_not_mem free,
    List.dropLast_cons_of_ne_nil (List.splitOn_ne_nil _ _)]
  rfl

theorem unterminated_line {mark : Byte} {line : List Byte} (free : mark ∉ line) (rest : List Byte) :
    unterminated mark (line ++ mark :: rest) = unterminated mark rest := by
  simp [unterminated, List.splitOn_append_cons_self_of_not_mem free,
    List.getLast_cons (List.splitOn_ne_nil _ _)]

theorem terminated_append (mark : Byte) (front back : List Byte) :
    terminated mark (front ++ back) = terminated mark front ++
      terminated mark (unterminated mark front ++ back) ∧
      unterminated mark (front ++ back) = unterminated mark (unterminated mark front ++ back) := by
  induction front using framed_induction mark with
  | free front unmarked => simp [terminated_free unmarked, unterminated_eq_self unmarked]
  | line line rest unmarked ih =>
      rw [List.append_assoc, List.cons_append, terminated_line unmarked, terminated_line unmarked,
        unterminated_line unmarked, unterminated_line unmarked, ih.1, ih.2]
      exact ⟨rfl, rfl⟩

end Cut

section Utf8

def encode (text : String) : List UInt8 := text.toList.flatMap String.utf8EncodeChar

def decode (data : List UInt8) : Option String :=
  data.toByteArray.utf8Decode?.map fun chars => String.ofList chars.toList

def newline : UInt8 := 10

theorem decode_encode (text : String) : decode (encode text) = some text := by
  have bytes : (encode text).toByteArray = text.toList.utf8Encode := rfl
  rw [decode, bytes, List.utf8Decode?_utf8Encode]
  simp

theorem encode_append (left right : String) :
    encode (left ++ right) = encode left ++ encode right := by
  simp [encode]

theorem newline_mem_utf8EncodeChar (char : Char) :
    newline ∈ String.utf8EncodeChar char ↔ char = '\n' := by
  constructor
  · fun_cases String.utf8EncodeChar char
    -- Only the one-byte form can be 10; the bytes of the longer forms are at least 128.
    · intro member
      simp only [newline, List.mem_singleton, ← UInt8.toNat_inj, UInt8.toNat_ofNat'] at member
      have value : char.val.toNat = 10 := by
        simp only [UInt8.toNat_ofNat] at member
        omega
      exact Char.toNat_inj.mp value
    all_goals
      intro member
      simp [newline, ← UInt8.toNat_inj] at member
      omega
  · rintro rfl
    decide

theorem newline_mem_encode (text : String) : newline ∈ encode text ↔ '\n' ∈ text.toList := by
  simp [encode, newline_mem_utf8EncodeChar]

theorem splitOn_encode (chars : List Char) :
    (encode (String.ofList chars)).splitOn newline = (chars.splitOn '\n').map fun line =>
        encode (String.ofList line) := by
  have mark : encode "\n" = [newline] := by decide
  induction chars using framed_induction '\n' with
  | free chars unmarked =>
      rw [List.splitOn_eq_singleton unmarked, List.splitOn_eq_singleton]
      · rfl
      · rwa [newline_mem_encode, String.toList_ofList]
  | line line rest unmarked ih =>
      have bytes : encode (String.ofList (line ++ '\n' :: rest)) =
          encode (String.ofList line) ++ newline :: encode (String.ofList rest) := by
        simp only [encode, String.toList_ofList, List.flatMap_append, List.flatMap_cons]
        exact congrArg _ (congrArg (· ++ _) mark)
      have lineFree : newline ∉ encode (String.ofList line) := by
        rwa [newline_mem_encode, String.toList_ofList]
      rw [bytes, List.splitOn_append_cons_self_of_not_mem lineFree, ih,
        List.splitOn_append_cons_self_of_not_mem unmarked, List.map_cons]

end Utf8

end Dockermock.Library
