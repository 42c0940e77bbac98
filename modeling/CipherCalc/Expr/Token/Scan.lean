import CipherCalc.Expr.Error
import CipherCalc.Expr.Token

/-!
# Reading the tokens of an expression

`Token.scan` splits a text into tokens, skipping spaces.  A number is the longest
run of digits and points, with at most one point and at least one digit.  A
minus sign belongs to the number after it exactly where no operand has just
ended: at the start, after an operator and after `(`.  That is all the scanner
remembers of the tokens it has passed.
-/

namespace CipherCalc.Expr.Token

/-- The characters that may stand between tokens. -/
def isSpace (char : Char) : Bool :=
  char == ' ' || char == '\t' || char == '\n' || char == '\r' || char == '\x0B' || char == '\x0C'

/-- The characters of which an unsigned number is made. -/
def isNumeric (char : Char) : Bool :=
  char.isDigit || char == '.'

/-- The arithmetic operators. -/
def isArithmetic (char : Char) : Bool :=
  char == '+' || char == '-' || char == '*' || char == '/'

/-- Whether a literal has at most one point and at least one digit. -/
def isWellFormed (literal : List Char) : Bool :=
  literal.count '.' ≤ 1 && literal.any Char.isDigit

/-- Whether a minus sign right after a token belongs to a number. -/
def admitsSign : Token → Bool
  | .number _ => false
  | .operator _ => true
  | .paren symbol => symbol == '('

/-- Whether a character starts a number, where a sign is admitted or not. -/
def startsNumber (signed : Bool) (char : Char) : Bool :=
  isNumeric char || (char == '-' && signed)

/-- The token that a single character makes, at its position in the text. -/
def ofChar (char : Char) (position : Nat) : Except Error Token :=
  if char = '(' ∨ char = ')' then .ok (.paren char)
  else if isArithmetic char then .ok (.operator char)
  else .error (.invalidCharacter char position)

/-- Scans the characters from `position` on; `signed` tells whether a number may
have a sign there. -/
def scanFrom (signed : Bool) (position : Nat) : List Char → Except Error (List Token)
  | [] => .ok []
  | char :: rest =>
      if isSpace char then scanFrom signed (position + 1) rest
      else if startsNumber signed char then
        -- the first character may be a sign; all that follows is the longest numeric run
        let literal := char :: rest.takeWhile isNumeric
        if isWellFormed literal then
          (scanFrom false (position + literal.length) (rest.dropWhile isNumeric)).map
            (.number (String.ofList literal) :: ·)
        else .error (.malformedNumber (String.ofList literal))
      else
        match ofChar char position with
        | .error error => .error error
        | .ok token => (scanFrom token.admitsSign (position + 1) rest).map (token :: ·)
termination_by text => text.length
decreasing_by
  all_goals simp only [List.length_cons]
  · omega
  · have := (List.dropWhile_suffix isNumeric (l := rest)).length_le
    omega
  · omega

/-- The tokens of an expression. -/
def scan (text : String) : Except Error (List Token) :=
  scanFrom true 0 text.toList

end CipherCalc.Expr.Token
