/-!
# Texts as bytes

Output that stops in the middle of a character is shown with the replacement
character in its place, and input comes as bytes that are decoded.
-/

namespace CipherCalc.Text

/-! ## Output that was cut -/

/-- Shows the bytes from `position` on, which begin a text in UTF-8: its whole
characters, and one replacement character for a character that was cut. -/
def shownFrom (bytes : ByteArray) (position : Nat) : List Char :=
  if position < bytes.size then
    match bytes.utf8DecodeChar? position with
    | some char => char :: shownFrom bytes (position + char.utf8Size)
    | none => ['\uFFFD']
  else []
termination_by bytes.size - position
decreasing_by
  have := char.utf8Size_pos
  omega

/-- The text that the beginning of an encoded text shows. -/
def shown (bytes : ByteArray) : String :=
  String.ofList (shownFrom bytes 0)

/-! ## Input -/

/-- The text that bytes encode, if they are UTF-8. -/
def decode? (bytes : List UInt8) : Option String :=
  String.fromUTF8? (ByteArray.mk bytes.toArray)

end CipherCalc.Text
