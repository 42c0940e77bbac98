/-!
# Blank characters and trimming

A character is blank when it has the Unicode property `White_Space`.  Typed
lines and texts are trimmed of blank characters, and a text that has nothing
else is blank itself.

The functions work on lists of characters; `trim` and its companions carry them
over to strings.
-/

namespace CipherCalc.Text

/-- The code points with the property `White_Space`, as inclusive ranges in
ascending order. -/
def blankRanges : List (Nat × Nat) :=
  [(0x0009, 0x000D), (0x0020, 0x0020), (0x0085, 0x0085), (0x00A0, 0x00A0), (0x1680, 0x1680),
    (0x2000, 0x200A), (0x2028, 0x2029), (0x202F, 0x202F), (0x205F, 0x205F), (0x3000, 0x3000)]

/-- Whether a character is Unicode white space. -/
def isBlank (char : Char) : Bool :=
  blankRanges.any fun range => range.1 ≤ char.toNat && char.toNat ≤ range.2

/-! ## Dropping from either end -/

/-- Drops the longest ending whose members all satisfy `p`. -/
def dropEndWhile {α : Type} (p : α → Bool) (items : List α) : List α :=
  (items.reverse.dropWhile p).reverse

@[simp] theorem dropEndWhile_nil {α : Type} (p : α → Bool) : dropEndWhile p [] = [] := rfl

/-- The text without the blank characters at its ends. -/
def trim (text : String) : String :=
  String.ofList (dropEndWhile isBlank (text.toList.dropWhile isBlank))

@[simp] theorem toList_trim (text : String) :
    (trim text).toList = dropEndWhile isBlank (text.toList.dropWhile isBlank) := by
  simp [trim]

/-- The text without the line feeds at its end. -/
def dropFinalNewlines (text : String) : String :=
  String.ofList (dropEndWhile (· == '\n') text.toList)

@[simp] theorem toList_dropFinalNewlines (text : String) :
    (dropFinalNewlines text).toList = dropEndWhile (· == '\n') text.toList := by
  simp [dropFinalNewlines]

/-- Whether a text has blank characters only. -/
def isBlankText (text : String) : Bool :=
  text.toList.all isBlank

end CipherCalc.Text
