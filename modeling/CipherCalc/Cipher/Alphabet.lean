/-!
# The two alphabets

The cipher knows the Latin alphabet of 26 letters and the Russian one of 33, in
which Ё follows Е.  Each is written in two cases.  A `Letter` is a place in one
of the four resulting tables, and `Letter.ofChar?` and `Letter.toChar` go from
characters to places and back.
-/

namespace CipherCalc.Cipher

/-- An alphabet that the cipher can rotate. -/
inductive Alphabet where
  | latin
  | russian
  deriving DecidableEq

/-- The case of a letter, which the cipher keeps. -/
inductive LetterCase where
  | upper
  | lower
  deriving DecidableEq

namespace Alphabet

/-- The number of letters of an alphabet. -/
def size : Alphabet → Nat
  | .latin => 26
  | .russian => 33

/-- The letters of an alphabet in order. -/
def letters : Alphabet → LetterCase → List Char
  | .latin, .upper => "ABCDEFGHIJKLMNOPQRSTUVWXYZ".toList
  | .latin, .lower => "abcdefghijklmnopqrstuvwxyz".toList
  | .russian, .upper => "АБВГДЕЁЖЗИЙКЛМНОПРСТУФХЦЧШЩЪЫЬЭЮЯ".toList
  | .russian, .lower => "абвгдеёжзийклмнопрстуфхцчшщъыьэюя".toList

theorem size_pos (alphabet : Alphabet) : 0 < alphabet.size := by
  cases alphabet <;> decide

@[simp] theorem length_letters (alphabet : Alphabet) (letterCase : LetterCase) :
    (alphabet.letters letterCase).length = alphabet.size := by
  cases alphabet <;> cases letterCase <;> decide

end Alphabet

/-- A letter: its alphabet, its case and its place in the alphabet. -/
structure Letter where
  alphabet : Alphabet
  letterCase : LetterCase
  index : Fin alphabet.size
  deriving DecidableEq

namespace Letter

/-- The character that a letter is written as. -/
def toChar (letter : Letter) : Char :=
  (letter.alphabet.letters letter.letterCase).get
    (letter.index.cast (Alphabet.length_letters _ _).symm)

/-- The letter of one table that is written as a character. -/
def inTable? (char : Char) (alphabet : Alphabet) (letterCase : LetterCase) : Option Letter :=
  ((alphabet.letters letterCase).finIdxOf? char).map fun index =>
    ⟨alphabet, letterCase, index.cast (Alphabet.length_letters _ _)⟩

/-- The letter that a character is, if it is one. -/
def ofChar? (char : Char) : Option Letter :=
  inTable? char .latin .upper <|> inTable? char .latin .lower <|>
    inTable? char .russian .upper <|> inTable? char .russian .lower

end Letter

end CipherCalc.Cipher
