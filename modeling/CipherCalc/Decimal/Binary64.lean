/-!
# Binary64 numbers as whole numbers of units

The magnitude of a finite binary64 number is a whole number of units of
`2 ^ -1074`, the smallest one.  The lower 63 bits of a word, its *code*, list
the magnitudes in ascending order, so both directions need natural numbers only:

* `units code` is the magnitude that a code stands for;
* `nearest numerator denominator` is the code of the magnitude nearest to a
  ratio, a half going to the even code.

In a code the bits above the lower 52 count the doublings of the grid: codes
below `2 ^ 53` are one unit apart, those of the next binade two units, and so
on.
-/

namespace CipherCalc.Binary64

/-- The number of codes in one binade. -/
def binade : Nat := Nat.pow 2 52

/-- The code of infinity: the first one that is no finite magnitude. -/
def infinity : Nat := 2047 * binade

/-- How many times the spacing of the magnitudes has doubled at a code. -/
def doublings (code : Nat) : Nat :=
  code / binade - 1

/-- The magnitude of a finite code, in units of `2 ^ -1074`. -/
def units (code : Nat) : Nat :=
  (code - doublings code * binade) * Nat.pow 2 (doublings code)

/-- The whole number nearest to a ratio; a half goes to the even neighbour. -/
def roundHalfEven (numerator denominator : Nat) : Nat :=
  let quotient := numerator / denominator
  let twice := 2 * (numerator % denominator)
  if twice < denominator ∨ (twice = denominator ∧ quotient % 2 = 0) then quotient else quotient + 1

/-- The code of the magnitude nearest to a ratio, infinity when the ratio is too
large.

The ratio in units has `53 + doublings` binary digits before the point, or fewer
when nothing is doubled.  Rounding may carry into the next binade, where the sum
is right as well. -/
def nearest (numerator denominator : Nat) : Nat :=
  -- the ratio in units is `scaled / denominator`
  let scaled := numerator * Nat.pow 2 1074
  let doublings := Nat.log2 (scaled / denominator) - 52
  -- the significand is counted on top of the binades below; a carry adds one more
  let code := doublings * binade + roundHalfEven scaled (denominator * Nat.pow 2 doublings)
  min code infinity

/-- The number with a given sign and code. -/
def toFloat (negative : Bool) (code : Nat) : Float :=
  Float.ofBits (UInt64.ofNat ((if negative then Nat.pow 2 63 else 0) + code))

/-- The code of a number's magnitude. -/
def code (value : Float) : Nat :=
  value.toBits.toNat % Nat.pow 2 63

/-- Whether the sign bit of a number is set. -/
def isNegative (value : Float) : Bool :=
  Nat.pow 2 63 ≤ value.toBits.toNat

/-- Whether a number is zero, of either sign. -/
def isZero (value : Float) : Bool :=
  code value == 0

end CipherCalc.Binary64
