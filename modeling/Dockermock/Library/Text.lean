import Mathlib.Data.List.Basic

/-!
The few operations of Python's `str` that the models use, on Lean strings.
-/

namespace Dockermock.Library

def isSpace (char : Char) : Bool :=
  let code := char.toNat
  (9 ≤ code && code ≤ 13) || (28 ≤ code && code ≤ 32) || code == 0x85 || code == 0xA0 ||
    code == 0x1680 ||
    (0x2000 ≤ code && code ≤ 0x200A) || code == 0x2028 || code == 0x2029 || code == 0x202F ||
    code == 0x205F || code == 0x3000

def strip (text : String) : String :=
  String.ofList ((text.toList.dropWhile isSpace).reverse.dropWhile isSpace).reverse

/-- `str.upper()` on ASCII text -/
def asciiUpper (text : String) : String := String.ofList (text.toList.map Char.toUpper)

def lower (text : String) : String := String.ofList (text.toList.map Char.toLower)

/-- The rest of a text in which a pattern is replaced, with what is still to be skipped of the
last occurrence. -/
def replaceFrom (old new : List Char) : Nat → List Char → List Char
  | _, [] => []
  | skip + 1, _ :: rest => replaceFrom old new skip rest
  | 0, char :: rest =>
      if old.isPrefixOf (char :: rest) then new ++ replaceFrom old new (old.length - 1) rest
      else char :: replaceFrom old new 0 rest

/-- `text.replace(old, new)` for a pattern that is not empty -/
def replace (text old new : String) : String :=
  String.ofList (replaceFrom old.toList new.toList 0 text.toList)

section Repr

-- `str.isprintable` of a character, which is up to the Unicode tables of the interpreter
variable (printable : Char → Bool)

def singleQuote : Char := Char.ofNat 39

def doubleQuote : Char := Char.ofNat 34

/-- `repr` puts a text between single quotes, unless only double ones leave it as it is. -/
def reprQuote (text : String) : Char :=
  if singleQuote ∈ text.toList ∧ doubleQuote ∉ text.toList then doubleQuote else singleQuote

/-- The escape of a character by its code, in lower-case hexadecimal digits. -/
def reprCode (char : Char) : List Char :=
  let code := char.toNat
  let digits := Nat.toDigits 16 code
  if code < 0x100 then '\\' :: 'x' :: digits.leftpad 2 '0'
  else if code < 0x10000 then '\\' :: 'u' :: digits.leftpad 4 '0'
  else '\\' :: 'U' :: digits.leftpad 8 '0'

def reprChar (quote char : Char) : List Char :=
  if char = quote ∨ char = '\\' then ['\\', char]
  else if char = '\t' then ['\\', 't']
  else if char = '\n' then ['\\', 'n']
  else if char = '\r' then ['\\', 'r']
  else if printable char then [char]
  else reprCode char

/-- `repr(text)` -/
def pyRepr (text : String) : String :=
  let quote := reprQuote text
  String.ofList (quote :: text.toList.flatMap (reprChar printable quote) ++ [quote])

/-- `str.isprintable` of an ASCII character -/
def asciiPrintable (char : Char) : Bool := 32 ≤ char.toNat && char.toNat < 127

example :
    pyRepr asciiPrintable "web" = String.ofList [singleQuote, 'w', 'e', 'b', singleQuote] := by
      decide +kernel

end Repr

def splitLines (text : String) : List String := (text.toList.splitOn '\n').map String.ofList

theorem splitLines_single (text : String) (absent : '\n' ∉ text.toList) :
    splitLines text = [text] := by
  have whole : text.toList.splitOn '\n' = [text.toList] := by
    apply List.splitOn_eq_singleton
    exact absent
  simp [splitLines, whole]

end Dockermock.Library
