import CipherCalc.Cipher.Rotation
import CipherCalc.Text.Blank

/-!
# All decipherings of a text

Without the shift, a text is deciphered with every shift that changes anything.
The candidates come in one block for each alphabet that the text has letters of,
the Russian block first; in a block the letters of the other alphabet are hidden.
A text without letters is shown as it is, with a remark.
-/

namespace CipherCalc.Cipher

/-- Whether a text has a letter of an alphabet. -/
def hasLetterOf (alphabet : Alphabet) (text : String) : Bool :=
  text.toList.any fun char => (Letter.ofChar? char).any (·.alphabet == alphabet)

/-- The language that a block is headed with. -/
def Alphabet.language : Alphabet → String
  | .latin => "English"
  | .russian => "Russian"

/-- The shifts that change letters, each with the text it gives. -/
def candidates (alphabet : Alphabet) (text : String) : List (Nat × String) :=
  (List.range' 1 (alphabet.size - 1)).map fun shift =>
    (shift, rotate (-Int64.ofNat shift) (some alphabet) text)

/-- The line of one candidate. -/
def candidateLine (candidate : Nat × String) : String :=
  "Shift " ++ toString candidate.1 ++ ": " ++ candidate.2 ++ "\n"

/-- The line above a block, which counts its candidates. -/
def heading (alphabet : Alphabet) : String :=
  "\n=== Possible " ++ alphabet.language ++ " Decryptions (" ++ toString (alphabet.size - 1) ++
    " shifts) ===\n"

/-- The block of an alphabet, empty when the text has no letter of it. -/
def block (alphabet : Alphabet) (text : String) : String :=
  if hasLetterOf alphabet text then
    heading alphabet ++ String.join ((candidates alphabet text).map candidateLine)
  else ""

/-- The candidates for a text, without the blank characters around it. -/
def listing (text : String) : String :=
  let trimmed := Text.trim text
  if hasLetterOf .russian trimmed || hasLetterOf .latin trimmed then
    block .russian trimmed ++ block .latin trimmed
  else trimmed ++ "\n(No Russian or English letters detected)\n"

/-- What is known of the shift of a hidden text. -/
inductive Key where
  | known (shift : Int64)
  | unknown
  deriving DecidableEq

/-- The hidden text, or all the candidates for it when the shift is unknown. -/
def reveal : Key → String → String
  | .known shift => decipher shift
  | .unknown => listing

end CipherCalc.Cipher
