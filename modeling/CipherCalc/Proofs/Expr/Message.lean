import CipherCalc.Expr.Evaluation
import CipherCalc.Proofs.Expr.Balance
import CipherCalc.Proofs.Expr.Computation
import CipherCalc.Proofs.Expr.ScanFailure

/-!
# A message is one line

The message of an error quotes what is wrong, a character or a number.  What the
scanner refuses is never a space character, and the numbers that are refused
later on came from the scanner.  So no message of an evaluation has a line feed
(`newline_not_mem_message_of_ofText`), and every message ends with a period.
-/

namespace CipherCalc.Expr

open Token

/-! ## Messages -/

theorem message_invalidCharacter (char : Char) (position : Nat) :
    (Error.invalidCharacter char position).message =
      "Invalid character '" ++ char.toString ++ "' at position " ++ toString position ++ "." := rfl

theorem message_malformedNumber (literal : String) :
    (Error.malformedNumber literal).message = "Malformed number: '" ++ literal ++ "'." := rfl

theorem getLast?_message (error : Error) : error.message.toList.getLast? = some '.' := by
  cases error with
  | invalidCharacter char position =>
      rw [message_invalidCharacter, String.toList_append, List.getLast?_append]
      rfl
  | malformedNumber literal =>
      rw [message_malformedNumber, String.toList_append, List.getLast?_append]
      rfl
  | _ => decide

/-- What an error quotes has no space characters. -/
def Error.QuotesNoSpace : Error → Prop
  | .invalidCharacter char _ => isSpace char = false
  | .malformedNumber literal => ∀ char ∈ literal.toList, isSpace char = false
  | .mismatchedParentheses | .divisionByZero | .malformedExpression => True

theorem newline_not_mem_message {error : Error} (hquotes : error.QuotesNoSpace) :
    '\n' ∉ error.message.toList := by
  have hspace : ¬ isSpace '\n' = false := by decide
  cases error with
  | invalidCharacter char position =>
      intro hmem
      rw [message_invalidCharacter] at hmem
      simp only [String.toList_append, List.mem_append] at hmem
      rcases hmem with (((hmem | hmem) | hmem) | hmem) | hmem
      · exact absurd hmem (by decide)
      · rw [Char.toString, String.toList_singleton, List.mem_singleton] at hmem
        exact hspace (hmem ▸ hquotes)
      · exact absurd hmem (by decide)
      · have hdigits : '\n' ∈ Nat.toDigits 10 position := by
          rwa [← Nat.toList_repr]
        exact absurd (Nat.isDigit_of_mem_toDigits (by decide) (by decide) hdigits) (by decide)
      · exact absurd hmem (by decide)
  | malformedNumber literal =>
      intro hmem
      rw [message_malformedNumber] at hmem
      simp only [String.toList_append, List.mem_append] at hmem
      rcases hmem with (hmem | hmem) | hmem
      · exact absurd hmem (by decide)
      · exact hspace (hquotes '\n' hmem)
      · exact absurd hmem (by decide)
  | _ => decide

/-! ## What the stages refuse -/

theorem quotesNoSpace_of_scan {text : String} {error : Error} (hscan : scan text = .error error) :
    error.QuotesNoSpace := by
  obtain ⟨before, char, rest, tokens, -, -, hfails⟩ := failsSomewhere_of_scanFrom hscan
  unfold FailsAtOnce at hfails
  split at hfails
  · next hstart =>
      obtain ⟨-, rfl⟩ := hfails
      intro other hmem
      rw [String.toList_ofList] at hmem
      rcases List.mem_cons.mp hmem with rfl | hmem
      · exact isSpace_of_startsNumber hstart
      · have hnumeric := List.mem_takeWhile_imp hmem
        by_contra hspace
        rw [isNumeric_of_isSpace (by simpa using hspace)] at hnumeric
        cases hnumeric
  · obtain ⟨hspace, herror⟩ := hfails
    rw [ofChar_eq_error herror]
    exact hspace

theorem isLexeme_of_scan {text : String} {tokens : List Token} (hscan : scan text = .ok tokens) :
    ∀ token ∈ tokens, token.IsLexeme :=
  ((scan_eq_ok_iff_exists_layout text tokens).mp hscan).1.lexemes

/-- A token that is written as tokens are and is no parenthesis. -/
structure Token.IsPlain (token : Token) : Prop where
  isLexeme : token.IsLexeme
  ne_paren : ∀ symbol, token ≠ .paren symbol

/-- What a postfix listing of a text has in it. -/
theorem isPlain_of_ofInfix {text : String} {tokens listing : List Token}
    (hscan : scan text = .ok tokens) (hlisting : Postfix.ofInfix tokens = .ok listing) :
    ∀ token ∈ listing, token.IsPlain := by
  intro token hmem
  have hkept := (perm_of_ofInfix hlisting).mem_iff.mp hmem
  exact ⟨isLexeme_of_scan hscan token (List.mem_of_mem_filter hkept),
    not_paren_of_mem_withoutParens hkept⟩

theorem quotesNoSpace_of_value {α : Type} [Arithmetic α] {tokens : List Token} {error : Error}
    (hlexemes : ∀ token ∈ tokens, token.IsLexeme)
    (hvalue : (Postfix.value tokens : Except Error α) = .error error) : error.QuotesNoSpace := by
  rcases value_eq_error_iff.mp hvalue with hstack | ⟨-, rfl⟩
  · obtain ⟨before, token, after, rfl, values, -, hrefuses⟩ := stack_eq_error_iff.mp hstack
    cases hrefuses with
    | @unreadable _ literal hread =>
        exact isSpace_of_mem_lexeme (hlexemes (.number literal) (by simp))
    | _ => trivial
  · trivial

/-- An evaluation stops at the first stage that refuses what it is given. -/
theorem ofText_eq_error_iff {α : Type} [Arithmetic α] {text : String} {error : Error} :
    (Evaluation.ofText text : Except Error (Evaluation α)) = .error error ↔
      scan text = .error error ∨ ∃ tokens, scan text = .ok tokens ∧
        (Postfix.ofInfix tokens = .error error ∨ ∃ listing, Postfix.ofInfix tokens = .ok listing ∧
          (Postfix.value listing : Except Error α) = .error error) := by
  simp only [Evaluation.ofText, bind, Except.bind]
  cases scan text with
  | error found => simp
  | ok tokens =>
      cases hlisting : Postfix.ofInfix tokens with
      | error found => simp [hlisting]
      | ok listing =>
          cases hvalue : (Postfix.value listing : Except Error α) with
          | error found => simp [hlisting, hvalue]
          | ok value => simp [hlisting, hvalue, pure, Except.pure]

theorem quotesNoSpace_of_ofText {α : Type} [Arithmetic α] {text : String} {error : Error}
    (herror : (Evaluation.ofText text : Except Error (Evaluation α)) = .error error) :
    error.QuotesNoSpace := by
  rcases ofText_eq_error_iff.mp herror with
    hscan | ⟨tokens, hscan, hlisting | ⟨listing, hlisting, hvalue⟩⟩
  · exact quotesNoSpace_of_scan hscan
  · rw [eq_mismatchedParentheses_of_ofInfix hlisting]
    trivial
  · exact quotesNoSpace_of_value
      (fun token hmem => (isPlain_of_ofInfix hscan hlisting token hmem).isLexeme) hvalue

/-- The message of an expression without a value is one line. -/
theorem newline_not_mem_message_of_ofText {α : Type} [Arithmetic α] {text : String} {error : Error}
    (herror : (Evaluation.ofText text : Except Error (Evaluation α)) = .error error) :
    '\n' ∉ error.message.toList :=
  newline_not_mem_message (quotesNoSpace_of_ofText herror)

end CipherCalc.Expr
