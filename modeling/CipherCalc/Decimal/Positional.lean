import CipherCalc.Decimal.Shortest
import CipherCalc.Text.Blank

/-!
# Numbers in positional notation

A number is written with the fewest digits that read back as the same number,
always positionally: no exponent, a point only before a fraction, and a fraction
without final zeros.
-/

namespace CipherCalc

/-- The digits of a whole number. -/
def digitsOf (number : Nat) : List Char :=
  Nat.toDigits 10 number

namespace Decimal

/-- The digits of a decimal with a point where its exponent puts it. -/
def positional (decimal : Decimal) : List Char :=
  let digits := digitsOf decimal.digits ++ List.replicate decimal.exponent.toNat '0'
  let places := (-decimal.exponent).toNat
  -- zeros in front leave a digit before the point
  let padded := List.replicate (places + 1 - digits.length) '0' ++ digits
  let whole := padded.take (padded.length - places)
  let fraction := Text.dropEndWhile (· == '0') (padded.drop (padded.length - places))
  if fraction = [] then whole else whole ++ '.' :: fraction

end Decimal

/-- How results are written: zero without a sign, and words for what is not
finite.  What counts as zero is assumed beside the arithmetic of evaluation. -/
def resultText (value : Float) : String :=
  let code := Binary64.code value
  if code = 0 then "0"
  else if Binary64.infinity < code then "NaN"
  else
    let magnitude :=
      if code = Binary64.infinity then "inf".toList else (Decimal.shortest code).positional
    String.ofList (if Binary64.isNegative value then '-' :: magnitude else magnitude)

end CipherCalc
