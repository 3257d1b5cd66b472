import Dockermock.Jail.Limits

/-!
What convert_to_bytes makes of the text of a limit. The regular expression is
matched at the front only, so whatever stands behind a number and its unit is
dropped: a unit that is not known, a fraction, a second number.
-/

namespace Dockermock.Jail.Sizes

open Library Limits

section Grammar

def units : List (String × Nat) :=
  [("", 1), ("B", 1), ("K", 1024), ("KB", 1024), ("M", 1024 ^ 2), ("MB", 1024 ^ 2), ("G", 1024 ^ 3),
    ("GB", 1024 ^ 3)]

variable (unicode : Unicode) (maxDigits : Nat)

/-- A text, in upper case, is the size `number`. -/
def Written (text : String) (number : Nat) : Prop :=
  ∃ digits unit factor, digits ≠ [] ∧ (∀ char ∈ digits, isDigit unicode char = true) ∧
    (unit, factor) ∈ units ∧
    text.toList = digits ++ unit.toList ∧ number = numeral unicode digits * factor

structure Faithful (value : String) : Prop where
  converted : ∀ number, Written unicode (unicode.upper (strip value)) number →
    convertToBytes unicode maxDigits value = some (.bytes number)
  kept : (¬ ∃ number, Written unicode (unicode.upper (strip value)) number) →
    convertToBytes unicode maxDigits value = some (.text (unicode.upper (strip value)))
  installed : ∀ subject limit rule, limit.max = some (.text value) →
    ruleOf unicode maxDigits subject limit = some (some rule) →
    (∃ number, Written unicode (unicode.upper (strip value)) number ∧
        ∃ front, rule = front ++ "=" ++ toString number) ∨
      (¬ ∃ number, Written unicode (unicode.upper (strip value)) number) ∧
        ∃ front, rule = front ++ "=" ++ unicode.upper (strip value)

def Whole (text : String) : Prop :=
  text.toList.dropWhile (isDigit unicode) ∈ units.map (fun entry => entry.1.toList) ∧
    (maxDigits = 0 ∨ (text.toList.takeWhile (isDigit unicode)).length ≤ maxDigits)

variable {unicode maxDigits}

theorem formatted_natCast {number : Nat} {shown : String}
    (written : formatted maxDigits number = some shown) : shown = toString number := by
  rw [formatted] at written
  split_ifs at written
  exact (Option.some.inj written).symm

theorem ruleOf_text {subject value rule : String} {limit : Limit}
    (given : limit.max = some (.text value))
    (made : ruleOf unicode maxDigits subject limit = some (some rule)) :
    ∃ amount shown front, convertToBytes unicode maxDigits value = some amount ∧
      amount.shown maxDigits = some shown ∧ rule = front ++ "=" ++ shown := by
  obtain ⟨_, shown, _, _, given', read, rfl⟩ := ruleOf_amount made
  obtain rfl := Option.some.inj (given.symm.trans given')
  obtain ⟨amount, converted, written⟩ := Option.bind_eq_some_iff.mp read
  exact ⟨amount, shown, _, converted, written, rfl⟩

theorem unit_of_mem {unit : String} {factor : Nat} (member : (unit, factor) ∈ units) :
    Limits.factor unit.toList = factor := by
  have all : ∀ entry ∈ units, Limits.factor entry.1.toList = entry.2 := by
    decide +kernel
  exact all (unit, factor) member

theorem drop_digits (text : List Char) :
    text.drop (text.takeWhile (isDigit unicode)).length = text.dropWhile (isDigit unicode) := by
  have whole := List.takeWhile_append_dropWhile (p := isDigit unicode) (l := text)
  have cut :=
    @List.drop_left _ (text.takeWhile (isDigit unicode)) (text.dropWhile (isDigit unicode))
  rwa [whole] at cut

theorem written_of_whole {text : String} (front : text.toList.takeWhile (isDigit unicode) ≠ [])
    (whole : Whole unicode maxDigits text) : ∃ number, Written unicode text number := by
  obtain ⟨⟨unit, factor⟩, member, rest⟩ := List.mem_map.mp whole.1
  refine ⟨_, text.toList.takeWhile (isDigit unicode), unit, factor, front, fun char among => ?_,
    member, ?_, rfl⟩
  · exact List.mem_takeWhile_imp among
  · exact rest ▸ List.takeWhile_append_dropWhile.symm

section Letters

-- no letter of a unit is a digit
variable (letters : ∀ char ∈ ['K', 'M', 'G', 'B'], unicode.digit char = none)

include letters

theorem unit_front {unit : String} {factor : Nat} (member : (unit, factor) ∈ units) :
    unit.toList.takeWhile (isDigit unicode) = [] := by
  have all : ∀ entry ∈ units, ∀ char ∈ entry.1.toList,
    char ∈ ['K', 'M', 'G', 'B'] := by simp [units]
  cases shape : unit.toList with
  | nil => rfl
  | cons char rest =>
      have letter := letters char (all _ member char (shape ▸ List.mem_cons_self))
      rw [List.takeWhile_cons_of_neg]
      rw [isDigit, letter]
      decide

theorem cut_digits {digits : List Char} {unit : String} {factor : Nat}
    (all : ∀ char ∈ digits, isDigit unicode char = true) (member : (unit, factor) ∈ units) :
    (digits ++ unit.toList).takeWhile (isDigit unicode) = digits ∧
      (digits ++ unit.toList).dropWhile (isDigit unicode) = unit.toList := by
  have front := unit_front letters member
  have rest := List.takeWhile_append_dropWhile (p := isDigit unicode) (l := unit.toList)
  rw [front, List.nil_append] at rest
  rw [List.takeWhile_append_of_pos all, front, List.append_nil,
    List.dropWhile_append_of_pos all, rest]
  exact ⟨rfl, rfl⟩

theorem Written.whole {text : String} {number : Nat} (written : Written unicode text number) :
    text.toList.takeWhile (isDigit unicode) ≠ [] ∧
      text.toList.dropWhile (isDigit unicode) ∈ units.map fun entry => entry.1.toList := by
  obtain ⟨digits, unit, factor, some, all, member, shape, _⟩ := written
  obtain ⟨front, rest⟩ := cut_digits letters all member
  rw [shape, front, rest]
  exact ⟨some, List.mem_map_of_mem member⟩

/-- A size is converted if int takes its digits. -/
theorem convertToBytes_written {value : String} {number : Nat}
    (written : Written unicode (unicode.upper (strip value)) number) :
    convertToBytes unicode maxDigits value = some (.bytes number) ↔
      Whole unicode maxDigits (unicode.upper (strip value)) := by
  have unitary := (Written.whole letters written).2
  rw [Whole, and_iff_right unitary]
  obtain ⟨digits, unit, factor, some, all, member, shape, rfl⟩ := written
  obtain ⟨front, rest⟩ := cut_digits letters all member
  rw [convertToBytes, drop_digits, shape, front, rest, if_neg some, unit_of_mem member, int]
  by_cases long : maxDigits ≠ 0 ∧ maxDigits < digits.length
  · rw [if_pos long]
    simp [long.1, long.2]
  · rw [if_neg long]
    simp only [Option.map_some, true_iff]
    omega

end Letters

/-- A text is converted to the size it is, or kept if it is none, exactly when it does not begin
with a digit, or its digits, no more than int takes, and a unit are all of it. -/
theorem convertToBytes_faithful_iff (unicode : Unicode) (maxDigits : Nat)
    (letters : ∀ char ∈ ['K', 'M', 'G', 'B'], unicode.digit char = none) (value : String) :
    Faithful unicode maxDigits value ↔
      (unicode.upper (strip value)).toList.takeWhile (isDigit unicode) = [] ∨
        Whole unicode maxDigits (unicode.upper (strip value)) := by
  constructor
  · intro faithful
    refine or_iff_not_imp_left.mpr fun front => ?_
    by_cases written : ∃ number, Written unicode (unicode.upper (strip value)) number
    · obtain ⟨number, written⟩ := written
      exact (convertToBytes_written letters written).mp (faithful.converted number written)
    · -- what begins with a digit is never kept
      have kept := faithful.kept written
      rw [convertToBytes, if_neg front] at kept
      simp at kept
  · intro condition
    have converted : ∀ number, Written unicode (unicode.upper (strip value)) number →
        convertToBytes unicode maxDigits value = some (.bytes number) := by
      intro number written
      exact (convertToBytes_written letters written).mpr
        (condition.resolve_left (Written.whole letters written).1)
    have kept : (¬ ∃ number, Written unicode (unicode.upper (strip value)) number) →
        convertToBytes unicode maxDigits value = some (.text (unicode.upper (strip value))) := by
      intro other
      by_cases front : (unicode.upper (strip value)).toList.takeWhile (isDigit unicode) = []
      · rw [convertToBytes, if_pos front]
      · exact absurd (written_of_whole front (condition.resolve_left front)) other
    refine ⟨converted, kept, fun subject limit rule given made => ?_⟩
    obtain ⟨amount, shown, front, read, written, rfl⟩ := ruleOf_text given made
    by_cases sized : ∃ number, Written unicode (unicode.upper (strip value)) number
    · obtain ⟨number, sized⟩ := sized
      obtain rfl := Option.some.inj ((converted number sized).symm.trans read)
      exact .inl ⟨number, sized, front, by rw [formatted_natCast written]⟩
    · obtain rfl := Option.some.inj ((kept sized).symm.trans read)
      exact .inr ⟨sized, front, by rw [Option.some.inj written]⟩

theorem ascii_letters : ∀ char ∈ ['K', 'M', 'G', 'B'], ascii.digit char = none := by
  simp [ascii, Char.isDigit]

theorem convertToBytes_faithful_gigabytes : Faithful ascii 4300 " 2gb" :=
  (convertToBytes_faithful_iff ascii 4300 ascii_letters " 2gb").mpr
    (.inr ⟨by decide +kernel, .inr (by decide +kernel)⟩)

/-- One and a half gigabytes become one byte. -/
theorem fraction_dropped : convertToBytes ascii 4300 "1.5G" = some (.bytes 1) ∧
    ¬ ∀ value, Faithful ascii 4300 value := by
  refine ⟨by decide +kernel, fun claimed => ?_⟩
  have nothing : ¬ ∃ number, Written ascii (ascii.upper (strip "1.5G")) number :=
    fun ⟨number, written⟩ => absurd (Written.whole ascii_letters written).2 (by decide +kernel)
  exact absurd ((claimed "1.5G").kept nothing) (by decide +kernel)

end Grammar

end Dockermock.Jail.Sizes
