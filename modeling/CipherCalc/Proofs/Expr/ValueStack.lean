import CipherCalc.Expr.Value
import CipherCalc.Proofs.Fallible

/-!
# What an evaluation does to its stack

A postfix list that has a value on its own puts that value on any stack
(`stack_of_value`), so it can be replaced by any other list of the same value
(`value_congr`).
-/

namespace CipherCalc.Expr.Postfix

variable {α : Type} [Arithmetic α]

theorem stack_cons_eq_ok_iff {initial final : List α} {token : Token} {rest : List Token} :
    stack initial (token :: rest) = .ok final ↔
      ∃ next, push initial token = .ok next ∧ stack next rest = .ok final := by
  rw [stack]
  cases push initial token <;> simp

/-! ## Frame -/

/-- A token that is read without error puts a number on the stack or replaces two
values by their result. -/
theorem push_eq_ok {initial next : List α} {token : Token} (hpush : push initial token = .ok next) :
    (∃ text value, token = .number text ∧ Arithmetic.read? text = some value ∧
      next = value :: initial) ∨
    ∃ symbol left right below result, token = .operator symbol ∧
      initial = right :: left :: below ∧ apply symbol left right = .ok result ∧
        next = result :: below := by
  cases token with
  | number text =>
      cases hread : (Arithmetic.read? text : Option α) with
      | none => simp [push, hread] at hpush
      | some value =>
          simp only [push, hread, Except.ok.injEq] at hpush
          exact Or.inl ⟨text, value, rfl, hread, hpush.symm⟩
  | operator symbol =>
      cases initial with
      | nil => simp [push] at hpush
      | cons right rest =>
          cases rest with
          | nil => simp [push] at hpush
          | cons left below =>
              obtain ⟨result, happly, rfl⟩ := Fallible.map_eq_ok_iff.mp hpush
              exact Or.inr ⟨symbol, left, right, below, result, rfl, rfl, happly, rfl⟩
  | paren symbol => simp [push] at hpush

theorem push_append {initial next : List α} {token : Token} (hpush : push initial token = .ok next)
    (below : List α) : push (initial ++ below) token = .ok (next ++ below) := by
  rcases push_eq_ok hpush with
    ⟨text, value, rfl, hread, rfl⟩ | ⟨symbol, left, right, rest, result, rfl, rfl, happly, rfl⟩
  · simp only [push, hread, List.cons_append]
  · simp only [push, happly, List.cons_append, Except.map]

theorem stack_frame {initial final : List α} {tokens : List Token}
    (hstack : stack initial tokens = .ok final) (below : List α) :
    stack (initial ++ below) tokens = .ok (final ++ below) := by
  induction tokens generalizing initial with
  | nil =>
      obtain rfl := Except.ok.inj hstack
      rfl
  | cons token rest ih =>
      obtain ⟨next, hpush, hstack⟩ := stack_cons_eq_ok_iff.mp hstack
      exact stack_cons_eq_ok_iff.mpr ⟨_, push_append hpush below, ih hstack⟩

theorem value_eq_ok_iff {tokens : List Token} {result : α} :
    value tokens = .ok result ↔ stack [] tokens = .ok [result] := by
  rw [value]
  split <;> simp_all

theorem stack_of_value {tokens : List Token} {result : α} (hvalue : value tokens = .ok result)
    (below : List α) : stack below tokens = .ok (result :: below) :=
  stack_frame (value_eq_ok_iff.mp hvalue) below

/-- Lists of the same value can be exchanged inside any list. -/
theorem value_congr {first second : List Token} {result : α} (hfirst : value first = .ok result)
    (hsecond : value second = .ok result) (before after : List Token) :
    (value (before ++ first ++ after) : Except Error α) = value (before ++ second ++ after) := by
  have hstack : (stack [] (before ++ first ++ after) : Except Error (List α)) =
      stack [] (before ++ second ++ after) := by
    rw [stack_append, stack_append, stack_append, stack_append]
    cases (stack [] before : Except Error (List α)) with
    | error error => rfl
    | ok below =>
        simp only [Except.bind, stack_of_value hfirst below, stack_of_value hsecond below]
  rw [value, value, hstack]

/-! ## Errors and sizes -/

theorem push_ne_invalidCharacter (initial : List α) (token : Token) (char : Char)
    (position : Nat) : push initial token ≠ .error (.invalidCharacter char position) := by
  intro hpush
  cases token with
  | number text =>
      cases hread : (Arithmetic.read? text : Option α) <;> simp [push, hread] at hpush
  | operator symbol =>
      match initial, hpush with
      | [], hpush => simp [push] at hpush
      | [_], hpush => simp [push] at hpush
      | right :: left :: rest, hpush =>
          simp only [push, apply] at hpush
          split at hpush <;> try split at hpush
          all_goals simp [Except.map] at hpush
  | paren symbol => simp [push] at hpush

theorem stack_ne_invalidCharacter (initial : List α) (tokens : List Token) (char : Char)
    (position : Nat) : stack initial tokens ≠ .error (.invalidCharacter char position) := by
  induction tokens generalizing initial with
  | nil => simp [stack]
  | cons token rest ih =>
      rw [stack]
      cases hpush : push initial token with
      | error error =>
          intro herror
          obtain rfl := Except.error.inj herror
          exact push_ne_invalidCharacter initial token char position hpush
      | ok next => exact ih next

/-- Evaluation has no characters to refuse. -/
theorem value_ne_invalidCharacter (tokens : List Token) (char : Char) (position : Nat) :
    (value tokens : Except Error α) ≠ .error (.invalidCharacter char position) := by
  intro hvalue
  rw [value] at hvalue
  split at hvalue
  · next error hstack =>
      obtain rfl := Except.error.inj hvalue
      exact stack_ne_invalidCharacter [] tokens char position hstack
  · simp at hvalue
  · simp at hvalue

end CipherCalc.Expr.Postfix
