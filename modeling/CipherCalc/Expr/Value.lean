import CipherCalc.Expr.Arithmetic
import CipherCalc.Expr.Error
import CipherCalc.Expr.Token

/-!
# The value of a postfix expression

`Postfix.value` reads a postfix token list from left to right over a stack of
values: a number is put on the stack and an operator replaces the two topmost
values by its result.  One value has to be left at the end.
-/

namespace CipherCalc.Expr

variable {α : Type} [Arithmetic α]

/-- The result of an operator.  A zero divisor is refused, and so is a symbol
that names no operation. -/
def apply (symbol : Char) (left right : α) : Except Error α :=
  match symbol with
  | '+' => .ok (Arithmetic.add left right)
  | '-' => .ok (Arithmetic.sub left right)
  | '*' => .ok (Arithmetic.mul left right)
  | '/' =>
      if Arithmetic.isZero right then .error .divisionByZero
      else .ok (Arithmetic.div left right)
  | _ => .error .malformedExpression

namespace Postfix

/-- Reads one token over a stack of values.  The right operand is on top, since
it was read last. -/
def push (stack : List α) : Token → Except Error (List α)
  | .number text =>
      match Arithmetic.read? text with
      | some value => .ok (value :: stack)
      | none => .error (.malformedNumber text)
  | .operator symbol =>
      match stack with
      | right :: left :: below => (apply symbol left right).map (· :: below)
      | _ => .error .malformedExpression
  | .paren _ => .error .malformedExpression

/-- Reads tokens over a stack of values, up to the first error. -/
def stack (initial : List α) : List Token → Except Error (List α)
  | [] => .ok initial
  | token :: rest =>
      match push initial token with
      | .error error => .error error
      | .ok next => stack next rest

/-- Reading two lists one after the other is reading their concatenation. -/
theorem stack_append (initial : List α) (first second : List Token) :
    stack initial (first ++ second) = (stack initial first).bind (stack · second) := by
  induction first generalizing initial with
  | nil => rfl
  | cons token rest ih =>
      simp only [List.cons_append, stack]
      cases push initial token with
      | error error => rfl
      | ok next => exact ih next

/-- The value of a postfix expression. -/
def value (tokens : List Token) : Except Error α :=
  match stack [] tokens with
  | .error error => .error error
  | .ok [result] => .ok result
  | .ok _ => .error .malformedExpression

end Postfix

end CipherCalc.Expr
