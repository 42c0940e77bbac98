import CipherCalc.Cipher.Alphabet

/-!
# The cipher in words

How a rotation is carried out in words.  Shifts and the sizes of alphabets are signed
words of 64 bits, the places of a table are words that can index it, and a Latin letter
is moved as a byte, without a table.

Every step that may go wrong is checked: it traps when its exact result is no word of
its kind, or when a table has no such place.  Nothing here wraps around.
-/

namespace CipherCalc.Cipher

/-- What stops a computation in words. -/
inductive Trap where
  /-- The exact result is no word. -/
  | overflow
  /-- A table has no such place. -/
  | outOfRange
  deriving DecidableEq

namespace Words

/-! ## Single steps -/

/-- The signed word of 64 bits with a value. -/
def signed (value : Int) : Except Trap Int64 :=
  if Int64.minValue.toInt ≤ value ∧ value ≤ Int64.maxValue.toInt then .ok (Int64.ofInt value)
  else .error .overflow

/-- The index with a value. -/
def index (value : Int) : Except Trap USize :=
  if 0 ≤ value ∧ value < USize.size then .ok (USize.ofNat value.toNat) else .error .overflow

/-- The byte with a value. -/
def byte (value : Int) : Except Trap UInt8 :=
  if 0 ≤ value ∧ value < UInt8.size then .ok (UInt8.ofNat value.toNat) else .error .overflow

/-- The remainder that is not negative.  There is none by zero, nor when the quotient
is no word. -/
def remainder (value size : Int64) : Except Trap Int64 :=
  if size = 0 ∨ value = Int64.minValue ∧ size = -1 then .error .overflow
  else signed (value.toInt % size.toInt)

/-- The character at a place of a table. -/
def entry (table : List Char) (place : USize) : Except Trap Char :=
  match table[place.toNat]? with
  | some char => .ok char
  | none => .error .outOfRange

/-! ## Letters -/

/-- The place `shift` places further on, round the end of an alphabet. -/
def rotation (place : USize) (shift size : Int64) : Except Trap USize := do
  let start ← signed place.toNat
  let steps ← remainder shift size
  let sum ← signed (start.toInt + steps.toInt)
  index (← remainder sum size).toInt

/-- The size of an alphabet, as a word. -/
def sizeOf (alphabet : Alphabet) : Int64 :=
  Int64.ofNat alphabet.size

/-- The letter to which one at a place of a Russian table is moved. -/
def moveInTable (letterCase : LetterCase) (place : Nat) (shift : Int64) : Except Trap Char := do
  let target ← rotation (← index place) shift (sizeOf .russian)
  entry (Alphabet.russian.letters letterCase) target

/-- The byte of the first Latin letter of a case. -/
def firstByte : LetterCase → UInt8
  | .upper => 'A'.toUInt8
  | .lower => 'a'.toUInt8

/-- The letter to which a Latin one of a case is moved. -/
def moveByte (letterCase : LetterCase) (char : Char) (shift : Int64) : Except Trap Char := do
  let first := firstByte letterCase
  let code ← byte char.toNat
  let place ← byte (code.toNat - first.toNat)
  let target ← rotation (← index place.toNat) shift (sizeOf .latin)
  let steps ← byte target.toNat
  return Char.ofUInt8 (← byte (first.toNat + steps.toNat))

/-- The letter to which a character is moved, and its alphabet, if it is a letter. -/
def moveLetter (shift : Int64) (char : Char) : Except Trap (Option (Char × Alphabet)) := do
  match (Alphabet.russian.letters .upper).idxOf? char with
  | some place => return some (← moveInTable .upper place shift, .russian)
  | none =>
      match (Alphabet.russian.letters .lower).idxOf? char with
      | some place => return some (← moveInTable .lower place shift, .russian)
      | none =>
          if char.isUpper then return some (← moveByte .upper char shift, .latin)
          else if char.isLower then return some (← moveByte .lower char shift, .latin)
          else return none

/-! ## Texts -/

/-- The character that stands for another one after a rotation. -/
def rotateChar (shift : Int64) (only : Option Alphabet) (char : Char) : Except Trap Char := do
  match ← moveLetter shift char with
  | none => return char
  | some (letter, alphabet) => return if only.any (· != alphabet) then '-' else letter

/-- A text with every letter moved `shift` places on. -/
def rotate (shift : Int64) (only : Option Alphabet) (text : String) : Except Trap String := do
  return String.ofList (← text.toList.mapM (rotateChar shift only))

end Words

end CipherCalc.Cipher
