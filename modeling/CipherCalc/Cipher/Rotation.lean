import CipherCalc.Cipher.Alphabet

/-!
# The Caesar cipher

A text is enciphered by moving every letter a number of places on in its own
alphabet, past the end to the start again, and in its own case.  Everything else
stays as it is.  Deciphering moves the letters back.

A rotation may be confined to one alphabet; the letters of the other are then
hidden behind dashes.

A shift is a word of 64 bits.  It is reduced to less than one turn before a
letter is moved, so no shift is too large.
-/

namespace CipherCalc.Cipher

/-- The letter `shift` places further on, round the end of the alphabet. -/
def Letter.rotate (shift : Int64) (letter : Letter) : Letter :=
  let size := letter.alphabet.size
  let steps := (shift.toInt % size).toNat
  { letter with index := ⟨(letter.index + steps) % size, Nat.mod_lt _ letter.alphabet.size_pos⟩ }

/-- The character that stands for another one after a rotation.  With `only` an
alphabet, letters of the other one become dashes. -/
def rotateChar (shift : Int64) (only : Option Alphabet) (char : Char) : Char :=
  match Letter.ofChar? char with
  | none => char
  | some letter =>
      if only.any (· != letter.alphabet) then '-' else (letter.rotate shift).toChar

/-- A text with every letter moved `shift` places on. -/
def rotate (shift : Int64) (only : Option Alphabet) (text : String) : String :=
  String.ofList (text.toList.map (rotateChar shift only))

@[simp] theorem toList_rotate (shift : Int64) (only : Option Alphabet) (text : String) :
    (rotate shift only text).toList = text.toList.map (rotateChar shift only) := by
  simp [rotate]

/-- The text that hides another one under a shift. -/
def encipher (shift : Int64) (text : String) : String :=
  rotate shift none text

/-- The text that was hidden under a shift. -/
def decipher (shift : Int64) (text : String) : String :=
  rotate (-shift) none text

end CipherCalc.Cipher
