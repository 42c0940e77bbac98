/-!
# Tokens of an expression

A token is a number, an operator or a parenthesis, and keeps the text it was
written as.  Token lists made by hand may hold operators and parentheses with
any character: an operator that is none of `+ - * /` binds least, and a
parenthesis that is not `(` closes a group.
-/

namespace CipherCalc.Expr

/-- A lexical unit of an expression. -/
inductive Token where
  | number (text : String)
  | operator (symbol : Char)
  | paren (symbol : Char)
  deriving DecidableEq

/-- How tightly an operator binds. -/
def precedence (symbol : Char) : Nat :=
  if symbol = '+' ∨ symbol = '-' then 1
  else if symbol = '*' ∨ symbol = '/' then 2
  else 0

namespace Token

/-- The text of a token. -/
def text : Token → String
  | .number text => text
  | .operator symbol => symbol.toString
  | .paren symbol => symbol.toString

/-- Whether a token opens a group. -/
def isOpen : Token → Bool
  | .paren symbol => symbol == '('
  | _ => false

/-- Whether a token closes a group: every parenthesis but `(` does. -/
def isClose : Token → Bool
  | .paren symbol => symbol != '('
  | _ => false

@[simp] theorem isOpen_number (text : String) : (number text).isOpen = false := rfl

@[simp] theorem isOpen_operator (symbol : Char) : (operator symbol).isOpen = false := rfl

@[simp] theorem isOpen_paren (symbol : Char) : (paren symbol).isOpen = (symbol == '(') := rfl

/-- The texts of the tokens with one space between neighbours. -/
def listing (tokens : List Token) : String :=
  String.ofList (List.intercalate [' '] (tokens.map fun token => token.text.toList))

/-- The texts of the tokens with nothing between them. -/
def concatenation (tokens : List Token) : String :=
  String.ofList (tokens.flatMap fun token => token.text.toList)

/-- The indices of the tokens that open a group, in ascending order. -/
def openPositions (tokens : List Token) : List Nat :=
  (tokens.zipIdx.filter fun entry => entry.1.isOpen).map Prod.snd

end Token

end CipherCalc.Expr
