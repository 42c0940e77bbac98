import CipherCalc.Settings.Table

/-!
# Values in settings documents

A value is a switch, `true` or `false`, or a whole number that fits into a signed
word of 64 bits.  Whole numbers are written in decimal digits, or in hexadecimal,
octal or binary ones after `0x`, `0o` or `0b`.  Single underscores may stand
between digits.  No setting takes a value of another kind, and none is read.
-/

namespace CipherCalc.Settings

/-- The value of a digit in a base up to sixteen. -/
def digit? (base : Nat) (char : Char) : Option Nat :=
  let value :=
    if char.isDigit then char.toNat - '0'.toNat
    else if 'a' ≤ char ∧ char ≤ 'f' then char.toNat - 'a'.toNat + 10
    else if 'A' ≤ char ∧ char ≤ 'F' then char.toNat - 'A'.toNat + 10
    else base
  if value < base then some value else none

/-- A switch. -/
def switch? (text : List Char) : Option Bool :=
  if text = "true".toList then some true
  else if text = "false".toList then some false
  else none

/-- The number spelled by digits, with single underscores between digits. -/
def digits? (base : Nat) (value : Nat) : List Char → Option Nat
  | [] => some value
  | '_' :: char :: rest => do digits? base (base * value + (← digit? base char)) rest
  | char :: rest => do digits? base (base * value + (← digit? base char)) rest

/-- The number spelled by at least one digit, the first of which is no
underscore. -/
def unsigned? (base : Nat) : List Char → Option Nat
  | [] => none
  | '_' :: _ => none
  | text => digits? base 0 text

/-- The magnitude of a decimal number, which has no needless zero in front. -/
def decimal? (text : List Char) : Option Nat :=
  match text with
  | '0' :: _ :: _ => none
  | _ => unsigned? 10 text

/-- A whole number, whatever its size. -/
def integer? : List Char → Option Int
  | '0' :: 'x' :: digits => (unsigned? 16 digits).map Int.ofNat
  | '0' :: 'o' :: digits => (unsigned? 8 digits).map Int.ofNat
  | '0' :: 'b' :: digits => (unsigned? 2 digits).map Int.ofNat
  | '+' :: digits => (decimal? digits).map Int.ofNat
  | '-' :: digits => (decimal? digits).map fun magnitude => -Int.ofNat magnitude
  | digits => (decimal? digits).map Int.ofNat

/-- The numbers of a signed word: the first one, and the first one beyond. -/
def wordRange : Int × Int :=
  (-Int.ofNat (Nat.pow 2 63), Int.ofNat (Nat.pow 2 63))

/-- A value. -/
def value? (text : List Char) : Option Value :=
  match switch? text with
  | some value => some (.switch value)
  | none =>
      ((integer? text).filter fun value => wordRange.1 ≤ value && value < wordRange.2).map .whole

end CipherCalc.Settings
