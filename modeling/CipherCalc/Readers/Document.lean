import CipherCalc.Readers.Key
import CipherCalc.Readers.Value

/-!
# Settings documents

A settings document is written in TOML.  It gives each setting at most once, on a
line `key = value`; blank lines, comments and gaps around keys and values are
free.

The values that settings take contain neither a gap nor a comment sign, so a
document is read line by line.  Sections, dotted keys and values of other kinds
can only name settings that do not exist or give them a wrong type, so a line of
any other form is refused.
-/

namespace CipherCalc.Settings

/-! ## Lines -/

/-- The characters that may stand around keys and values. -/
def isGap (char : Char) : Bool :=
  char == ' ' || char == '\t'

/-- Whether only gaps and a comment are left of a line. -/
def isLineEnd (text : List Char) : Bool :=
  match text.dropWhile isGap with
  | [] => true
  | '#' :: comment => comment.all isPlain
  | _ => false

/-- Whether a character belongs to a value. -/
def isValueChar (char : Char) : Bool :=
  !isGap char && char != '#'

/-- The key and the value that a line assigns, when it is neither blank nor a
comment. -/
def assignment? (line : List Char) : Option (List Char × Value) := do
  let (key, rest) ← key? (line.dropWhile isGap)
  match rest.dropWhile isGap with
  | '=' :: rest =>
      let (text, rest) := (rest.dropWhile isGap).span isValueChar
      if isLineEnd rest then (value? text).map (key, ·) else none
  | _ => none

/-- The lines of a text.  A carriage return before a line feed belongs to the
line end; one before the end of the text does not. -/
def lines : List Char → List (List Char)
  | [] => [[]]
  | '\n' :: rest => [] :: lines rest
  | '\r' :: '\n' :: rest => [] :: lines rest
  | char :: rest =>
      match lines rest with
      | [] => [[char]]
      | line :: others => (char :: line) :: others

/-- A text without the byte order mark in front. -/
def withoutMark : List Char → List Char
  | '\uFEFF' :: rest => rest
  | text => text

/-! ## Documents -/

/-- The table that lines make up. -/
def tableOfLines? : List (List Char) → Option Table
  | [] => some []
  | line :: rest =>
      if isLineEnd line then tableOfLines? rest
      else do
        let (key, value) ← assignment? line
        Table.add? key value (← tableOfLines? rest)

/-- The table that a text is. -/
def table? (text : List Char) : Option Table :=
  tableOfLines? (lines (withoutMark text))

/-- The field with a key. -/
def Field.ofKey? (key : List Char) : Option Field :=
  [Field.askContinue, .showSteps, .historySize].find? (·.key = key)

/-- The settings that a table gives: its own, and defaults for the rest. -/
def ofTable? : Table → Option Settings
  | [] => some {}
  | (key, value) :: rest => do (← Field.ofKey? key).put? value (← ofTable? rest)

/-- The settings that a document gives, when it is well formed. -/
def ofDocument? (document : String) : Option Settings :=
  (table? document.toList).bind ofTable?

end CipherCalc.Settings
