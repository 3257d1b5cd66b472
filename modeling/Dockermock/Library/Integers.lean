import Mathlib.Data.List.Basic
import Dockermock.Library.Text

/-!
`int` of a text, as Python reads it: white space around, a sign, and digits with
one underscore at most between two of them. What counts as a digit is a
parameter. The text that `str` gives for a number is read as that number.
-/

namespace Dockermock.Library

section Code
variable (digit : Char → Option Nat) (maxDigits : Nat)

/-- The digits to the end of a text; `owed` if it cannot end or go on with an underscore here. -/
def digitsFrom (owed : Bool) : List Char → Option (List Nat)
  | [] => if owed then none else some []
  | char :: rest =>
      if char = '_' ∧ owed = false then digitsFrom true rest
      else (digit char).bind fun value => (digitsFrom false rest).map fun digits => value :: digits

/-- A natural number. There may be a limit on its digits, `sys.get_int_max_str_digits()`; zero
stands for none. -/
def natural (chars : List Char) : Option Nat :=
  (digitsFrom digit true chars).bind fun digits =>
    if maxDigits ≠ 0 ∧ maxDigits < digits.length then none
    else some (digits.foldl (fun number value => 10 * number + value) 0)

def signed : List Char → Option Int
  | '-' :: chars => (natural digit maxDigits chars).map fun (number : Nat) => -(number : Int)
  | '+' :: chars => (natural digit maxDigits chars).map fun (number : Nat) => (number : Int)
  | chars => (natural digit maxDigits chars).map fun (number : Nat) => (number : Int)

/-- `int(text)`; nothing where it raises ValueError -/
def int (text : String) : Option Int := signed digit maxDigits (strip text).toList

end Code

section Printed

/-- A digit of ASCII is read as its value. -/
def ReadsAscii (digit : Char → Option Nat) : Prop :=
  ∀ char, char.isDigit = true → digit char = some (char.toNat - '0'.toNat)

theorem decimal_toDigits (number : Nat) :
    ∀ char ∈ Nat.toDigits 10 number, char.isDigit = true := fun _ member =>
  Nat.isDigit_of_mem_toDigits (by decide) (by decide) member

theorem isSpace_of_isDigit {char : Char} (decimal : char.isDigit = true) :
    isSpace char = false := by
  have bounds : 48 ≤ char.toNat ∧ char.toNat ≤ 57 := by
    simpa [Char.isDigit, UInt32.le_iff_toNat_le] using decimal
  simp only [isSpace, Bool.or_eq_false_iff, Bool.and_eq_false_imp, beq_eq_false_iff_ne,
    decide_eq_true_eq, decide_eq_false_iff_not]
  omega

theorem strip_eq {text : String} (first : ∀ char ∈ text.toList.head?, isSpace char = false)
    (last : ∀ char ∈ text.toList.getLast?, isSpace char = false) : strip text = text := by
  have front : text.toList.dropWhile isSpace = text.toList := by
    cases chars : text.toList with
    | nil => rfl
    | cons char rest =>
        rw [chars] at first
        rw [List.dropWhile_cons_of_neg (by simp [first char rfl])]
  have back : text.toList.reverse.dropWhile isSpace = text.toList.reverse := by
    cases chars : text.toList.reverse with
    | nil => rfl
    | cons char rest =>
        have ending : text.toList.getLast? = some char := by
          rw [← List.head?_reverse, chars, List.head?_cons]
        rw [List.dropWhile_cons_of_neg (by simp [last char ending])]
  rw [strip, front, back, List.reverse_reverse, String.ofList_toList]

variable {digit : Char → Option Nat} {maxDigits : Nat}

theorem digitsFrom_decimal (ascii : ReadsAscii digit) {chars : List Char}
    (decimal : ∀ char ∈ chars, char.isDigit = true) (owed : Bool)
    (more : owed = true → chars ≠ []) :
    digitsFrom digit owed chars = some (chars.map fun char => char.toNat - '0'.toNat) := by
  induction chars generalizing owed with
  | nil =>
      have idle : owed = false := by
        cases owed with
        | false => rfl
        | true => exact absurd rfl (more rfl)
      simp [digitsFrom, idle]
  | cons char rest ih =>
      rw [List.forall_mem_cons] at decimal
      have plain : char ≠ '_' := by
        rintro rfl
        exact absurd decimal.1 (by decide)
      rw [digitsFrom, if_neg fun both => plain both.1, ascii char decimal.1, Option.bind_some,
        ih decimal.2 false (fun none => by cases none)]
      rfl

theorem natural_toDigits (ascii : ReadsAscii digit) (number : Nat) :
    natural digit maxDigits (Nat.toDigits 10 number) =
      if maxDigits ≠ 0 ∧ maxDigits < (Nat.toDigits 10 number).length then none
          else some number := by
  rw [natural, digitsFrom_decimal ascii (decimal_toDigits number) true fun _ => Nat.toDigits_ne_nil,
    Option.bind_some, List.length_map, List.foldl_map]
  have value : (Nat.toDigits 10 number).foldl (fun sum char => 10 * sum + (char.toNat - '0'.toNat))
      0 = number := by
    rw [← Nat.ofDigitChars_eq_foldl, Nat.ofDigitChars_ten_toDigits]
  rw [value]

/-- How many digits a number is written with. -/
def digitCount (number : Int) : Nat := (Nat.toDigits 10 number.natAbs).length

theorem signed_decimal {chars : List Char} (decimal : ∀ char ∈ chars, char.isDigit = true) :
    signed digit maxDigits chars = (natural digit maxDigits chars).map fun (number : Nat) =>
        (number : Int) := by
  unfold signed
  split
  · exact absurd (decimal '-' List.mem_cons_self) (by decide)
  · exact absurd (decimal '+' List.mem_cons_self) (by decide)
  · rfl

theorem toList_negSucc (number : Nat) :
    (toString (Int.negSucc number)).toList = '-' :: Nat.toDigits 10 (number + 1) := by
  change ("-" ++ (number + 1).repr).toList = _
  rw [String.toList_append, Nat.toList_repr]
  rfl

theorem not_mem_toString {char : Char} (other : char.isDigit = false) (sign : char ≠ '-')
    (number : Int) : char ∉ (toString number).toList := by
  have free : ∀ natural, char ∉ Nat.toDigits 10 natural := fun natural member => by
    rw [decimal_toDigits natural char member] at other
    cases other
  cases number with
  | ofNat number =>
      have chars : (toString (Int.ofNat number)).toList = Nat.toDigits 10 number := Nat.toList_repr
      rw [chars]
      exact free number
  | negSucc number =>
      rw [toList_negSucc, List.mem_cons, not_or]
      exact ⟨sign, free (number + 1)⟩

theorem strip_toString (number : Int) : strip (toString number) = toString number := by
  have digits : ∀ char ∈ Nat.toDigits 10 number.natAbs, isSpace char = false := fun char member =>
    isSpace_of_isDigit (decimal_toDigits _ char member)
  cases number with
  | ofNat number =>
      have chars : (toString (Int.ofNat number)).toList = Nat.toDigits 10 number := Nat.toList_repr
      apply strip_eq
      · exact fun char first => digits char (List.mem_of_mem_head? (chars ▸ first))
      · exact fun char last => digits char (List.mem_of_mem_getLast? (chars ▸ last))
  | negSucc number =>
      apply strip_eq
      · rw [toList_negSucc, List.head?_cons]
        rintro char ⟨⟩
        decide
      · rw [toList_negSucc, List.getLast?_cons_of_ne_nil Nat.toDigits_ne_nil]
        exact fun char last => digits char (List.mem_of_mem_getLast? last)

theorem int_toString (ascii : ReadsAscii digit) (number : Int) :
    int digit maxDigits (toString number) =
      if maxDigits ≠ 0 ∧ maxDigits < digitCount number then none else some number := by
  rw [int, strip_toString, digitCount]
  cases number with
  | ofNat number =>
      have chars : (toString (Int.ofNat number)).toList = Nat.toDigits 10 number := Nat.toList_repr
      rw [chars, signed_decimal (decimal_toDigits number), natural_toDigits ascii,
        apply_ite (Option.map _)]
      rfl
  | negSucc number =>
      rw [toList_negSucc, signed, natural_toDigits ascii, apply_ite (Option.map _)]
      rfl

end Printed

end Dockermock.Library
