import CipherCalc.Decimal.Numeral
import CipherCalc.Text.Blank

/-!
# What a typed line means

Each question of the menu reads a line in its own way: as a choice, as the source
of a text, as a yes or no, or as a shift.  Blank characters around an answer do
not matter.
-/

namespace CipherCalc.Session

/-- An entry of the menu. -/
inductive Choice where
  | encipher
  | decipher
  | evaluate
  | leave
  deriving DecidableEq

/-- The entry that a line names by its number. -/
def Choice.ofLine? (line : String) : Option Choice :=
  let answer := Text.trim line
  if answer = "1" then some .encipher
  else if answer = "2" then some .decipher
  else if answer = "3" then some .evaluate
  else if answer = "4" then some .leave
  else none

/-- Where a text is taken from. -/
inductive Source where
  | typed
  | file
  deriving DecidableEq

/-- The source that a line names. -/
def Source.ofLine? (line : String) : Option Source :=
  let answer := Text.trim line
  if answer = "console" then some .typed
  else if answer = "file" then some .file
  else none

/-- An answer to a yes-or-no question. -/
inductive Consent where
  | yes
  | no
  | unclear
  deriving DecidableEq

/-- Only the first character of an answer counts. -/
def Consent.ofLine (line : String) : Consent :=
  match line.toList.dropWhile Text.isBlank with
  | 'y' :: _ | 'Y' :: _ => .yes
  | 'n' :: _ | 'N' :: _ => .no
  | _ => .unclear

/-- The shift that a line gives: a whole number of 32 bits in decimal digits,
with or without a sign. -/
def shiftOfLine? (line : String) : Option Int64 :=
  let (negative, digits) := Numeral.splitSign (Text.trim line).toList
  let size : Int := Decimal.ofDigits digits
  let value := if negative then -size else size
  if digits ≠ [] ∧ digits.all Char.isDigit ∧
      Int32.minValue.toInt ≤ value ∧ value ≤ Int32.maxValue.toInt then
    some (Int64.ofInt value)
  else none

end CipherCalc.Session
