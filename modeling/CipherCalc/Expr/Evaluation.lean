import CipherCalc.Decimal.Positional
import CipherCalc.Expr.Postfix
import CipherCalc.Expr.Token.Scan
import CipherCalc.Expr.Value

/-!
# Evaluating an expression

An expression is scanned, put into postfix order and evaluated, in that order,
and the first error of the three ends it.  `Evaluation` keeps the value together
with the two token lists it came from, and `report` is what a reader is shown.
-/

namespace CipherCalc.Expr

/-- A value and the steps that led to it. -/
structure Evaluation (α : Type) where
  value : α
  /-- The tokens as they were written. -/
  infixOrder : List Token
  /-- The tokens in postfix order. -/
  postfixOrder : List Token

namespace Evaluation

/-- Evaluates an expression. -/
def ofText {α : Type} [Arithmetic α] (text : String) : Except Error (Evaluation α) := do
  let infixOrder ← Token.scan text
  let postfixOrder ← Postfix.ofInfix infixOrder
  let value ← Postfix.value postfixOrder
  return { value, infixOrder, postfixOrder }

/-- The two lines that show the steps, without a final line feed. -/
def stepLines {α : Type} (evaluation : Evaluation α) : String :=
  "Tokens:  " ++ Token.listing evaluation.infixOrder ++ "\n" ++
    "Postfix: " ++ Token.listing evaluation.postfixOrder

/-- The result as it is shown, after its steps when they are wanted. -/
def shown (showSteps : Bool) (evaluation : Evaluation Float) : String :=
  if showSteps then evaluation.stepLines ++ "\n" ++ resultText evaluation.value
  else resultText evaluation.value

end Evaluation

/-- The value of an expression. -/
def value {α : Type} [Arithmetic α] (text : String) : Except Error α :=
  (Evaluation.ofText text).map Evaluation.value

/-- The text that answers an expression. -/
def report (showSteps : Bool) (text : String) : Except Error String :=
  (Evaluation.ofText text).map (Evaluation.shown showSteps)

/-! ## Reading a postfix listing again -/

/-- The postfix order of an expression and what scanning its listing gives. -/
structure Rescan where
  postfixOrder : List Token
  again : Except Error (List Token)

/-- Puts an expression into postfix order and scans the listing of that. -/
def rescan (text : String) : Except Error Rescan := do
  let postfixOrder ← Postfix.ofInfix (← Token.scan text)
  return { postfixOrder, again := Token.scan (Token.listing postfixOrder) }

/-- Whether scanning the listing gave the postfix order back. -/
def Rescan.isStable (result : Rescan) : Bool :=
  match result.again with
  | .ok tokens => tokens == result.postfixOrder
  | .error _ => false

end CipherCalc.Expr
