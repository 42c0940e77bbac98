import CipherCalc.CommandLine.Program
import CipherCalc.Readers.Backspace

/-!
# Lines of the standard input

On an input that is not a terminal a line editor shows no prompt and edits
nothing: it takes line after line as it comes, but for the backspaces.  The input
is split into lines before they are decoded, and a line that is no text makes its
read fail.
-/

namespace CipherCalc

/-- The lines of a byte sequence without their line feeds, and without a carriage
return right before one.  Bytes after the last line feed are a line too. -/
def Text.byteLines : List UInt8 → List (List UInt8)
  | [] => []
  | 10 :: rest => [] :: byteLines rest
  | 13 :: 10 :: rest => [] :: byteLines rest
  | [byte] => [[byte]]
  | byte :: next :: rest =>
      match byteLines (next :: rest) with
      | [] => [[byte]]
      | line :: others => (byte :: line) :: others

namespace CommandLine

/-- What a line of bytes is to the reader of a line. -/
def eventOf (line : List UInt8) : Session.Event :=
  match Text.decode? line with
  | some text => .line (Text.applyBackspaces text)
  | none => .failure notTextMessage

/-- The line editor on an input that is not a terminal. -/
def LineReader.piped : LineReader where
  shown _ := ""
  events stdin := (Text.byteLines stdin).map eventOf

end CommandLine

end CipherCalc
