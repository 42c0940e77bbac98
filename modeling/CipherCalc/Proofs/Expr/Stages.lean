import CipherCalc.Proofs.Decimal.Literal
import CipherCalc.Proofs.Expr.Message
import CipherCalc.Proofs.Expr.Substitution

/-!
# Every error comes from one stage

What a number is and what an operator is, is said twice: the scanner goes by the
characters, and evaluation reads the number and looks the operator up.  The two
agree.  Whatever the scanner lets through, evaluation knows (`IsKnown`), also after
the converter has changed the order, so of the five causes for which evaluation
refuses a token three never arise, and there is nothing that it can refuse but a
missing operand, a zero divisor and values that are left over (`Uncomputable`).

Since the errors of the scanner, of the converter and of evaluation are different
ones, an error tells the stage that it comes from (`value_error_stages`).
-/

namespace CipherCalc.Expr

open Token

/-! ## Errors of evaluation -/

section

variable (α : Type) [Arithmetic α]

/-- A token that evaluation can do something with: a number that can be read, or an
operator that names an operation. -/
def IsKnown : Token → Prop
  | .number text => (Arithmetic.read? text : Option α).isSome
  | .operator symbol => symbol ∈ ['+', '-', '*', '/']
  | .paren _ => False

/-- Why a listing of known tokens has no value: an operator is read over fewer than
two values, or divides by zero, or the values that are left are not one. -/
inductive Uncomputable (listing : List Token) : Error → Prop
  | operandMissing {before after : List Token} {symbol : Char} {values : List α} :
      listing = before ++ .operator symbol :: after →
      Postfix.stack [] before = .ok values → values.length < 2 →
      Uncomputable listing .malformedExpression
  | zeroDivisor {before after : List Token} {right left : α} {below : List α} :
      listing = before ++ .operator '/' :: after →
      Postfix.stack [] before = .ok (right :: left :: below) →
      Arithmetic.isZero right = true → Uncomputable listing .divisionByZero
  | notOne {values : List α} :
      Postfix.stack [] listing = .ok values → values.length ≠ 1 →
      Uncomputable listing .malformedExpression

end

variable {α : Type} [Arithmetic α]

theorem isKnown_of_isPlain [ReadsLiterals α] {token : Token} (hplain : token.IsPlain) :
    IsKnown α token := by
  obtain ⟨hlexeme, hparen⟩ := hplain
  cases token with
  | number text => exact ReadsLiterals.isSome_read? ⟨text, hlexeme⟩
  | operator symbol => simpa [IsKnown, IsLexeme] using hlexeme
  | paren symbol => exact absurd rfl (hparen symbol)

/-- Known tokens are refused for want of operands or for a zero divisor alone. -/
theorem value_eq_error_iff_uncomputable {listing : List Token}
    (hknown : ∀ token ∈ listing, IsKnown α token) {error : Error} :
    (Postfix.value listing : Except Error α) = .error error ↔ Uncomputable α listing error := by
  rw [value_eq_error_iff, stack_eq_error_iff]
  constructor
  · rintro (⟨before, token, after, rfl, values, hstack, hrefuses⟩ |
      ⟨⟨values, hstack, hlength⟩, rfl⟩)
    · have htoken : IsKnown α token := hknown token (by simp)
      cases hrefuses with
      | unreadable hread => simp [IsKnown, hread] at htoken
      | paren => exact absurd htoken id
      | operandMissing hfew => exact .operandMissing rfl hstack hfew
      | unknown hsymbol => exact absurd htoken hsymbol
      | zeroDivisor hzero => exact .zeroDivisor rfl hstack hzero
    · exact .notOne hstack hlength
  · intro herror
    cases herror with
    | operandMissing hlisting hstack hfew =>
        exact .inl ⟨_, _, _, hlisting, _, hstack, .operandMissing hfew⟩
    | zeroDivisor hlisting hstack hzero =>
        exact .inl ⟨_, _, _, hlisting, _, hstack, .zeroDivisor hzero⟩
    | notOne hstack hlength => exact .inr ⟨⟨_, hstack, hlength⟩, rfl⟩

/-! ## The stage of an error -/

/-- The errors of a text that is not made of tokens. -/
def Error.IsLexical : Error → Prop
  | .invalidCharacter _ _ | .malformedNumber _ => True
  | .mismatchedParentheses | .divisionByZero | .malformedExpression => False

theorem isLexical_of_scan {text : String} {error : Error} (hscan : scan text = .error error) :
    error.IsLexical := by
  obtain ⟨_, _, _, _, -, -, hfails⟩ := failsSomewhere_of_scanFrom hscan
  rcases hfails.kind with ⟨_, _, rfl⟩ | ⟨_, rfl⟩ <;> trivial

theorem Uncomputable.eq_malformedExpression_or {listing : List Token} {error : Error}
    (herror : Uncomputable α listing error) :
    error = .malformedExpression ∨ error = .divisionByZero := by
  cases herror with
  | operandMissing => exact .inl rfl
  | zeroDivisor => exact .inr rfl
  | notOne => exact .inl rfl

/-- What is scanned and converted is worth what its listing is. -/
theorem value_of_ofInfix {text : String} {tokens listing : List Token}
    (hscan : scan text = .ok tokens) (hlisting : Postfix.ofInfix tokens = .ok listing) :
    (value text : Except Error α) = Postfix.value listing := by
  rw [value_eq_bind, hscan, Except.bind, valueOfTokens, hlisting, Except.bind]

section

variable [ReadsLiterals α] {text : String} {error : Error}

theorem value_eq_error_iff_of_ofInfix {tokens listing : List Token}
    (hscan : scan text = .ok tokens) (hlisting : Postfix.ofInfix tokens = .ok listing) :
    (value text : Except Error α) = .error error ↔ Uncomputable α listing error := by
  rw [value_of_ofInfix hscan hlisting]
  exact value_eq_error_iff_uncomputable fun token hmem =>
    isKnown_of_isPlain (isPlain_of_ofInfix hscan hlisting token hmem)

/-- An error comes from the first stage that refuses what it is given. -/
theorem value_eq_error_iff_stage :
    (value text : Except Error α) = .error error ↔
      scan text = .error error ∨ ∃ tokens, scan text = .ok tokens ∧
        (¬ Balanced tokens ∧ error = .mismatchedParentheses ∨
          ∃ listing, Postfix.ofInfix tokens = .ok listing ∧ Uncomputable α listing error) := by
  rw [value, Fallible.map_eq_error_iff, ofText_eq_error_iff]
  refine or_congr_right (exists_congr fun tokens => and_congr_right fun hscan => ?_)
  rw [ofInfix_eq_error_iff]
  refine or_congr_right (exists_congr fun listing => and_congr_right fun hlisting => ?_)
  rw [← value_of_ofInfix hscan hlisting, value_eq_error_iff_of_ofInfix hscan hlisting]

theorem value_eq_error_iff_scan (hlexical : error.IsLexical) :
    (value text : Except Error α) = .error error ↔ scan text = .error error := by
  rw [value_eq_error_iff_stage, or_iff_left]
  rintro ⟨tokens, -, ⟨-, rfl⟩ | ⟨listing, -, huncomputable⟩⟩
  · exact hlexical
  · rcases huncomputable.eq_malformedExpression_or with rfl | rfl <;> exact hlexical

theorem value_eq_mismatchedParentheses_iff :
    (value text : Except Error α) = .error .mismatchedParentheses ↔
      ∃ tokens, scan text = .ok tokens ∧ ¬ Balanced tokens := by
  rw [value_eq_error_iff_stage]
  constructor
  · rintro (hscan | ⟨tokens, hscan, ⟨hbalanced, -⟩ | ⟨listing, -, huncomputable⟩⟩)
    · exact absurd (isLexical_of_scan hscan) id
    · exact ⟨tokens, hscan, hbalanced⟩
    · rcases huncomputable.eq_malformedExpression_or with herror | herror <;> cases herror
  · rintro ⟨tokens, hscan, hbalanced⟩
    exact .inr ⟨tokens, hscan, .inl ⟨hbalanced, rfl⟩⟩

end

/-- **Every error comes from one stage.**  An expression is refused for a character
or for a number just when the scanner refuses it for that, and for its parentheses
just when it is scanned and they do not match.  Once it is scanned and converted,
every number can be read as a binary64 number, every operator names an operation and
no parenthesis is left, and the expression is refused just when an operator has too
few operands, a divisor is zero, or not one value is left. -/
theorem value_error_stages (text : String) :
    (∀ char position,
      (value text : Except Error Float) = .error (.invalidCharacter char position) ↔
        scan text = .error (.invalidCharacter char position)) ∧
    (∀ literal, (value text : Except Error Float) = .error (.malformedNumber literal) ↔
      scan text = .error (.malformedNumber literal)) ∧
    ((value text : Except Error Float) = .error .mismatchedParentheses ↔
      ∃ tokens, scan text = .ok tokens ∧ ¬ Balanced tokens) ∧
    ∀ tokens listing, scan text = .ok tokens → Postfix.ofInfix tokens = .ok listing →
      (∀ token ∈ listing, IsKnown Float token) ∧
        ∀ error, (value text : Except Error Float) = .error error ↔
          Uncomputable Float listing error := by
  refine ⟨fun char position => value_eq_error_iff_scan trivial,
    fun literal => value_eq_error_iff_scan trivial, value_eq_mismatchedParentheses_iff,
    fun tokens listing hscan hlisting => ⟨fun token hmem => ?_, fun error => ?_⟩⟩
  · exact isKnown_of_isPlain (isPlain_of_ofInfix hscan hlisting token hmem)
  · exact value_eq_error_iff_of_ofInfix hscan hlisting

/-- A divisor that is zero only after a subtraction, among numbers that start or end
with a point. -/
theorem value_error_stages_zeroDifference :
    scan "-.5/(5.-5)" = .ok [.number "-.5", .operator '/', .paren '(', .number "5.",
        .operator '-', .number "5", .paren ')'] ∧
      (∀ token ∈ [.number "-.5", .number "5.", .number "5", .operator '-', .operator '/'],
        IsKnown Float token) ∧
      (value "-.5/(5.-5)" : Except Error Float) = .error .divisionByZero := by
  have hscan : scan "-.5/(5.-5)" = .ok [.number "-.5", .operator '/', .paren '(', .number "5.",
      .operator '-', .number "5", .paren ')'] := by decide +kernel
  have hlisting : Postfix.ofInfix [.number "-.5", .operator '/', .paren '(', .number "5.",
      .operator '-', .number "5", .paren ')'] =
        .ok [.number "-.5", .number "5.", .number "5", .operator '-', .operator '/'] := by
    decide +kernel
  have hdivisor : Uncomputable Float [.number "-.5", .number "5.", .number "5", .operator '-',
      .operator '/'] .divisionByZero := by
    have hsplit : [Token.number "-.5", .number "5.", .number "5", .operator '-', .operator '/'] =
        [.number "-.5", .number "5.", .number "5", .operator '-'] ++ .operator '/' :: [] := rfl
    exact .zeroDivisor hsplit rfl (by decide +kernel)
  obtain ⟨-, -, -, hevaluated⟩ := value_error_stages "-.5/(5.-5)"
  obtain ⟨hknown, herror⟩ := hevaluated _ _ hscan hlisting
  exact ⟨hscan, hknown, (herror _).mpr hdivisor⟩

end CipherCalc.Expr
