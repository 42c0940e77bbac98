import CipherCalc.Expr.Error
import CipherCalc.Expr.Token

/-!
# Infix to postfix

`Postfix.ofInfix` reorders the tokens of an expression so that every operator
follows its operands and no parenthesis is left.

The conversion reads the tokens from left to right.  Numbers go to the output at
once; operators wait, each in the group of parentheses it stands in.  An
operator releases those of its group that wait and bind at least as tightly, so
that equal operators apply from left to right, and the end of a group releases
all of it.  Whether operands are missing is not looked at here.
-/

namespace CipherCalc.Expr

/-- A conversion under way. -/
structure Converter where
  /-- The tokens written so far. -/
  output : Array Token
  /-- The operators that wait in the innermost open group, the latest first. -/
  waiting : List Char
  /-- The operators that wait in each enclosing group, the innermost first. -/
  enclosing : List (List Char)
  deriving DecidableEq

namespace Converter

/-- Before the first token. -/
def start : Converter :=
  { output := #[], waiting := [], enclosing := [] }

/-- Whether an operator that waits is to be applied before a new one. -/
def yieldsTo (symbol earlier : Char) : Bool :=
  precedence symbol ≤ precedence earlier

/-- Reads one token; a group can only be closed when one is open. -/
def step (state : Converter) : Token → Except Error Converter
  | .number text => .ok { state with output := state.output.push (.number text) }
  | .operator symbol =>
      -- the operators that wait bind more tightly the later they came, so those that
      -- yield are the latest ones
      let released := state.waiting.takeWhile (yieldsTo symbol)
      let kept := state.waiting.dropWhile (yieldsTo symbol)
      .ok { state with
        output := state.output ++ released.map Token.operator
        waiting := symbol :: kept }
  | .paren symbol =>
      if symbol = '(' then
        .ok { state with waiting := [], enclosing := state.waiting :: state.enclosing }
      else
        match state.enclosing with
        | [] => .error .mismatchedParentheses
        | outer :: enclosing =>
            .ok {
              output := state.output ++ state.waiting.map Token.operator
              waiting := outer
              enclosing := enclosing }

/-- Reads tokens up to the first that cannot be placed. -/
def run (state : Converter) : List Token → Except Error Converter
  | [] => .ok state
  | token :: rest =>
      match state.step token with
      | .error error => .error error
      | .ok next => next.run rest

/-- Reading two lists one after the other is reading their concatenation. -/
theorem run_append (state : Converter) (first second : List Token) :
    state.run (first ++ second) = (state.run first).bind (·.run second) := by
  induction first generalizing state with
  | nil => rfl
  | cons token rest ih =>
      simp only [List.cons_append, run]
      cases state.step token with
      | error error => rfl
      | ok next => exact ih next

/-- Releases what waits at the end; no group may be open there. -/
def finish (state : Converter) : Except Error (List Token) :=
  match state.enclosing with
  | [] => .ok (state.output ++ state.waiting.map Token.operator).toList
  | _ :: _ => .error .mismatchedParentheses

end Converter

/-- The tokens of an infix expression in postfix order. -/
def Postfix.ofInfix (tokens : List Token) : Except Error (List Token) :=
  match Converter.start.run tokens with
  | .error error => .error error
  | .ok state => state.finish

end CipherCalc.Expr
