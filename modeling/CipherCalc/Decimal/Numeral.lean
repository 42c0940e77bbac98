import CipherCalc.Decimal.Binary64

/-!
# Numerals and their values

A numeral is an optional sign followed by a word for infinity or for "not a
number", in any letter case, or by decimal digits with an optional point and an
optional exponent.  At least one digit is needed, on either side of the point,
and one in an exponent.  Nothing else may stand in it, blanks included.

`Numeral.ofString?` reads a numeral and `Numeral.toFloat` gives the binary64
number nearest to it, however long its digits and its exponent are.
-/

namespace CipherCalc

/-- A non-negative decimal number, `digits * 10 ^ exponent`. -/
structure Decimal where
  digits : Nat
  exponent : Int
  deriving DecidableEq

namespace Decimal

/-- The number that a list of decimal digits spells. -/
def ofDigits (digits : List Char) : Nat :=
  digits.foldl (fun value digit => 10 * value + (digit.toNat - '0'.toNat)) 0

/-- The code of the binary64 magnitude nearest to a decimal, by its exact ratio. -/
def roundExact (decimal : Decimal) : Nat :=
  Binary64.nearest (decimal.digits * Nat.pow 10 decimal.exponent.toNat)
    (Nat.pow 10 (-decimal.exponent).toNat)

/-- The code of the binary64 magnitude nearest to a decimal.

A decimal with a digit and `309` zeros behind it is too large for a finite
magnitude, and a decimal below `10 ^ -324` is less than half the smallest, so
neither needs its power of ten.  Digits below `2 ^ (n + 1)` are below
`10 ^ (n + 1)` too. -/
def round (decimal : Decimal) : Nat :=
  if decimal.digits = 0 ∨ decimal.digits.log2 + decimal.exponent < -324 then 0
  else if 309 ≤ decimal.exponent then Binary64.infinity
  else decimal.roundExact

end Decimal

/-- What a numeral says. -/
inductive Numeral where
  | finite (negative : Bool) (magnitude : Decimal)
  | infinite (negative : Bool)
  | notANumber
  deriving DecidableEq

namespace Numeral

/-- Splits an optional sign off; the first part tells whether it is a minus. -/
def splitSign : List Char → Bool × List Char
  | '-' :: rest => (true, rest)
  | '+' :: rest => (false, rest)
  | text => (false, text)

/-- An exponent part up to the end of the text; an absent one is zero. -/
def exponent? : List Char → Option Int
  | [] => some 0
  | mark :: rest =>
      let (negative, digits) := splitSign rest
      if mark.toLower = 'e' ∧ digits ≠ [] ∧ digits.all Char.isDigit then
        let size : Int := Decimal.ofDigits digits
        some (if negative then -size else size)
      else none

/-- Digits with an optional point, and the text that follows them. -/
def splitDigits (text : List Char) : List Char × List Char × List Char :=
  let whole := text.takeWhile Char.isDigit
  match text.dropWhile Char.isDigit with
  | '.' :: rest => (whole, rest.takeWhile Char.isDigit, rest.dropWhile Char.isDigit)
  | rest => (whole, [], rest)

/-- The magnitude of a numeral without a sign. -/
def decimal? (text : List Char) : Option Decimal :=
  let (whole, fraction, rest) := splitDigits text
  if whole = [] ∧ fraction = [] then none
  else (exponent? rest).map fun exponent =>
    { digits := Decimal.ofDigits (whole ++ fraction), exponent := exponent - fraction.length }

/-- Reads a numeral. -/
def ofString? (text : String) : Option Numeral :=
  let (negative, rest) := splitSign text.toList
  let word := rest.map Char.toLower
  if word = "inf".toList ∨ word = "infinity".toList then some (.infinite negative)
  else if word = "nan".toList then some .notANumber
  else (decimal? rest).map (.finite negative)

/-- The binary64 number nearest to a numeral; a half goes to the even one. -/
def toFloat : Numeral → Float
  | .finite negative magnitude => Binary64.toFloat negative magnitude.round
  | .infinite negative => Binary64.toFloat negative Binary64.infinity
  | .notANumber => Binary64.toFloat false (Binary64.infinity + 1)

end Numeral

end CipherCalc
