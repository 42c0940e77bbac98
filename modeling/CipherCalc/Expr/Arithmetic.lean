import CipherCalc.Decimal.Numeral

/-!
# The numbers of an evaluation

Evaluation needs five things of its numbers: to read one from its text, the four
operations, and to tell zero.  `Arithmetic` names them and promises no law, so
whatever is shown of evaluation holds of every kind of number.  Programs compute
with binary64 numbers.
-/

namespace CipherCalc.Expr

/-- What evaluation needs of a kind of number. -/
class Arithmetic (α : Type) where
  /-- The number that a text denotes. -/
  read? : String → Option α
  add : α → α → α
  sub : α → α → α
  mul : α → α → α
  div : α → α → α
  isZero : α → Bool

/-- Texts are read to the nearest number.  The test for zero stands for one of an
outside package: it is assumed that this holds of the zeros of both signs and of
nothing else.  `resultText` assumes the same where it writes zero without a sign. -/
instance : Arithmetic Float where
  read? text := (Numeral.ofString? text).map Numeral.toFloat
  add := Float.add
  sub := Float.sub
  mul := Float.mul
  div := Float.div
  isZero := Binary64.isZero

end CipherCalc.Expr
