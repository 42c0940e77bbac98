import CipherCalc.CommandLine.Program
import CipherCalc.Proofs.Text.Bytes
import CipherCalc.Proofs.Text.Lines

/-!
# Line editors on piped input

The program leaves it to a line editor to take its input apart.  `TakesLines` is what it
relies on when the input is not a terminal: what one read gives, and that the next one goes
on behind the line.  On a whole text the reads therefore give its lines
(`TakesLines.events_eq`).
-/

namespace CipherCalc.CommandLine

open Text (encode)

/-- What a line editor does on an input that is not a terminal.  It shows no prompt, and it
takes a line up to its line feed, without a carriage return right before that; what is left
at the end of the input is a line too.  Lines with backspaces, which may be edited, and lines
that are no text are left open. -/
structure LineReader.TakesLines (reader : LineReader) : Prop where
  shown_eq (prompt : String) : reader.shown prompt = ""
  nil : reader.events [] = []
  line {line : List Char} (rest : List UInt8) (hfeed : '\n' ∉ line) (hbackspace : '\x08' ∉ line) :
    reader.events (encode line ++ 10 :: rest) =
      .line (String.ofList (Text.withoutLast '\r' line)) :: reader.events rest
  last {line : List Char} (hne : line ≠ []) (hfeed : '\n' ∉ line) (hbackspace : '\x08' ∉ line) :
    reader.events (encode line) = [.line (String.ofList line)]

variable {reader : LineReader} {stdin : List UInt8} {text : String}

theorem LineReader.TakesLines.events_encode (hreader : reader.TakesLines) {chars : List Char}
    (hbackspace : '\x08' ∉ chars) :
    reader.events (encode chars) =
      (Text.lineChars chars).map fun line => .line (String.ofList line) := by
  induction chars using Text.line_induction '\n' with
  | single line hfeed =>
      rw [Text.lineChars_of_not_mem hfeed]
      by_cases hempty : line = []
      · rw [hempty, Text.encode_nil, hreader.nil]
        rfl
      · rw [if_neg hempty, hreader.last hempty hfeed hbackspace]
        rfl
  | more line rest hfeed ih =>
      rw [List.mem_append, List.mem_cons, not_or, not_or] at hbackspace
      have hencode : encode ('\n' :: rest) = 10 :: encode rest := rfl
      rw [Text.encode_append, hencode, hreader.line _ hfeed hbackspace.1,
        Text.lineChars_append hfeed, ih hbackspace.2.2, List.map_cons]

/-- The reads of a text give its lines. -/
theorem LineReader.TakesLines.events_eq (hreader : reader.TakesLines)
    (hdecode : Text.decode? stdin = some text) (hbackspace : '\x08' ∉ text.toList) :
    reader.events stdin = (Text.lines text).map .line := by
  rw [Text.decode?_eq_some_iff] at hdecode
  rw [hdecode, hreader.events_encode hbackspace, Text.lines, List.map_map]
  rfl

end CipherCalc.CommandLine
