/-!
# Terminal control sequences

Messages about arguments are written for a terminal, and when there is none they
lose what would control it: control characters, and the control sequences that
an escape character starts.  `withoutControls` is what is left of a text.

White space controls are kept, but not the vertical tab.  One in the middle of a
control sequence ends it, unless the sequence holds a string.
-/

namespace CipherCalc.Text.ControlSequence

/-- The place of a character in a text with control sequences. -/
inductive State where
  /-- Outside of any sequence. -/
  | text
  /-- After an escape character. -/
  | escape
  /-- In an escape sequence of more than two characters. -/
  | intermediate
  /-- In the parameters of a control sequence. -/
  | parameters
  /-- At the start of a device control string. -/
  | device
  /-- In the parameters of a device control string. -/
  | deviceParameters
  /-- Between the parameters and the final character of a device control. -/
  | deviceIntermediate
  /-- In a string that a string terminator ends. -/
  | string
  /-- In an operating system command, which a bell ends too. -/
  | command
  deriving DecidableEq

/-- Whether a control character is white space that is kept. -/
def isSpaceControl (char : Char) : Bool :=
  char = '\t' || char = '\n' || char = '\x0c' || char = '\r'

/-- Whether a character is a control character of ASCII. -/
def isControl (char : Char) : Bool :=
  char.toNat < 0x20 || char.toNat = 0x7F

/-- Whether the byte that terminates strings is among the bytes of a character. -/
def holdsTerminator (char : Char) : Bool :=
  (String.utf8EncodeChar char).contains 0x9C

namespace State

/-- Whether a character is kept. -/
def keeps (state : State) (char : Char) : Bool :=
  match state with
  | text => isSpaceControl char || !isControl char
  | escape | intermediate | parameters => isSpaceControl char
  | _ => false

/-- The state after a character that follows an escape character. -/
def opened (char : Char) : State :=
  if char = '[' then parameters
  else if char = ']' then command
  else if char = 'P' then device
  else if char = 'X' ∨ char = '^' ∨ char = '_' then string
  else if char.toNat < 0x30 then intermediate
  else if char.toNat < 0x7F then text
  else escape

/-- The state after a character that is neither kept nor a control character. -/
def advance (state : State) (char : Char) : State :=
  let code := char.toNat
  match state with
  | text => text
  | escape => opened char
  | intermediate => if 0x30 ≤ code ∧ code < 0x7F then text else intermediate
  | parameters => if 0x40 ≤ code ∧ code < 0x7F then text else parameters
  | device =>
      if 0x7F < code then device
      else if code < 0x30 then deviceIntermediate
      else if code < 0x40 then deviceParameters
      else string
  | deviceParameters =>
      if 0x7F < code then deviceParameters
      else if code < 0x30 then deviceIntermediate
      else if code < 0x3C then deviceParameters
      else string
  | deviceIntermediate => if 0x30 ≤ code ∧ code < 0x7F then string else deviceIntermediate
  | string => if holdsTerminator char then text else string
  | command => command

/-- The state after a character.  The cancel and substitute characters end any
sequence, and an escape character starts a new one. -/
def next (state : State) (char : Char) : State :=
  if char = '\x1b' then escape
  else if char = '\x18' ∨ char = '\x1a' then text
  else if state.keeps char then text
  else if isControl char then if state = command ∧ char = '\x07' then text else state
  else state.advance char

end State

/-- The characters that are kept of a text, from a state on. -/
def kept (state : State) : List Char → List Char
  | [] => []
  | char :: rest =>
      let later := kept (state.next char) rest
      if state.keeps char then char :: later else later

end ControlSequence

/-- A text without its terminal controls. -/
def withoutControls (text : String) : String :=
  String.ofList (ControlSequence.kept .text text.toList)

end CipherCalc.Text
