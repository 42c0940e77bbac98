import CipherCalc.Decimal.Numeral

/-!
# The shortest decimal that reads back

Among the decimals that read back as a given magnitude, `shortest` picks one
with the fewest digits, and of those the one nearest to the magnitude.

For each number of digits only the two decimals on either side of the magnitude
can be the nearest, so the search walks through these neighbours with one digit,
two digits and so on, and asks of each whether it reads back.  Seventeen digits
always suffice.  The exact expansion, which every magnitude has, closes the
list.
-/

namespace CipherCalc.Decimal

/-- The exact decimal expansion of a magnitude: a unit is
`5 ^ 1074 * 10 ^ -1074`. -/
def exact (code : Nat) : Decimal :=
  { digits := Binary64.units code * Nat.pow 5 1074, exponent := -1074 }

/-- The number of decimal digits of a number below `2 ^ 40000`.

Counted in binary digits it is known up to one: `1233 / 4096` is a little less
than the logarithm of two. -/
def digitCount (number : Nat) : Nat :=
  let known := number.log2 * 1233 / 4096 + 1
  if number < Nat.pow 10 known then known else known + 1

/-- The two decimals with `count` digits on either side of a decimal that has
`length` digits, the nearer one first and the larger one on a tie. -/
def neighbours (decimal : Decimal) (length count : Nat) : List Decimal :=
  let dropped := length - count
  let spacing := Nat.pow 10 dropped
  -- on the grid of this spacing `below` is next to the decimal, and so is its successor
  let below := decimal.digits / spacing
  let exponent := decimal.exponent + dropped
  if 2 * (decimal.digits % spacing) < spacing then
    [⟨below, exponent⟩, ⟨below + 1, exponent⟩]
  else [⟨below + 1, exponent⟩, ⟨below, exponent⟩]

/-- The decimal with the fewest digits that reads back as a magnitude; of
several, the nearest. -/
def shortest (code : Nat) : Decimal :=
  let expansion := exact code
  let length := digitCount expansion.digits
  let found := (List.range' 1 17).findSome? fun count =>
    (neighbours expansion length count).find? fun candidate => candidate.round == code
  found.getD expansion

end CipherCalc.Decimal
