/-!
# What can be wrong with an expression

The causes for which an arithmetic expression has no value.  Evaluation stops at
the first one, and `Error.message` is the sentence that reports it.
-/

namespace CipherCalc.Expr

/-- Why an expression has no value. -/
inductive Error where
  /-- A character that no token contains, at an index counted in characters. -/
  | invalidCharacter (char : Char) (position : Nat)
  /-- A number without a digit or with a second point. -/
  | malformedNumber (literal : String)
  /-- A parenthesis without its partner. -/
  | mismatchedParentheses
  /-- A division whose right operand is zero. -/
  | divisionByZero
  /-- An operand or an operator that is missing or out of place. -/
  | malformedExpression
  deriving DecidableEq

/-- The sentence that reports an error. -/
def Error.message : Error → String
  | .invalidCharacter char position =>
      "Invalid character '" ++ char.toString ++ "' at position " ++ toString position ++ "."
  | .malformedNumber literal => "Malformed number: '" ++ literal ++ "'."
  | .mismatchedParentheses => "Mismatched parentheses."
  | .divisionByZero => "Division by zero."
  | .malformedExpression => "Malformed expression (missing operand or operator)."

end CipherCalc.Expr
