import CipherCalc.Expr.Evaluation
import CipherCalc.Proofs.Expr.Conversion
import CipherCalc.Proofs.Expr.ScanParts
import CipherCalc.Proofs.Expr.ValueStack

/-!
# A group means its value

The content of a pair of parentheses can be replaced by anything else of the
same value, whatever stands around the pair and whether or not that is an
expression itself (`value_group_numeral`).  Each of the three stages has its
part in this:

* the scanner reads what is around a group without looking into it
  (`Token.scan_group`);
* the converter writes the content's postfix order in one piece, between two
  lists that do not depend on it (`ofInfix_context`);
* the evaluation of that piece adds its value to the stack and nothing else
  (`Postfix.value_congr`).
-/

namespace CipherCalc.Expr

variable {α : Type} [Arithmetic α]

/-- The stages after the scanner. -/
def valueOfTokens (tokens : List Token) : Except Error α :=
  (Postfix.ofInfix tokens).bind Postfix.value

theorem value_eq_bind (text : String) :
    (value text : Except Error α) = (Token.scan text).bind valueOfTokens := by
  rw [value, Evaluation.ofText]
  cases Token.scan text with
  | error error => rfl
  | ok tokens =>
      simp only [bind, Except.bind, valueOfTokens]
      cases Postfix.ofInfix tokens with
      | error error => rfl
      | ok listing =>
          cases hvalue : (Postfix.value listing : Except Error α) <;> simp [hvalue] <;> rfl

theorem valueOfTokens_eq_ok_iff {tokens : List Token} {result : α} :
    valueOfTokens tokens = .ok result ↔
      ∃ listing, Postfix.ofInfix tokens = .ok listing ∧ Postfix.value listing = .ok result := by
  cases hlisting : Postfix.ofInfix tokens <;> simp [valueOfTokens, hlisting, Except.bind]

theorem value_eq_ok_iff {text : String} {result : α} :
    value text = .ok result ↔
      ∃ tokens, Token.scan text = .ok tokens ∧ valueOfTokens tokens = .ok result := by
  rw [value_eq_bind]
  cases Token.scan text <;> simp [Except.bind]

theorem valueOfTokens_ne_invalidCharacter (tokens : List Token) (char : Char) (position : Nat) :
    (valueOfTokens tokens : Except Error α) ≠ .error (.invalidCharacter char position) := by
  intro hvalue
  cases hlisting : Postfix.ofInfix tokens with
  | error error =>
      have hparens := eq_mismatchedParentheses_of_ofInfix hlisting
      simp [valueOfTokens, hlisting, Except.bind, hparens] at hvalue
  | ok listing =>
      simp only [valueOfTokens, hlisting, Except.bind] at hvalue
      exact Postfix.value_ne_invalidCharacter listing char position hvalue

/-- Token lists of the same value can be exchanged inside a pair of
parentheses. -/
theorem valueOfTokens_group {first second : List Token} {result : α}
    (hfirst : valueOfTokens first = .ok result) (hsecond : valueOfTokens second = .ok result)
    (before after : List Token) :
    (valueOfTokens (before ++ .paren '(' :: (first ++ .paren ')' :: after)) : Except Error α) =
      valueOfTokens (before ++ .paren '(' :: (second ++ .paren ')' :: after)) := by
  obtain ⟨firstListing, hfirst, hfirstValue⟩ := valueOfTokens_eq_ok_iff.mp hfirst
  obtain ⟨secondListing, hsecond, hsecondValue⟩ := valueOfTokens_eq_ok_iff.mp hsecond
  obtain ⟨context, hcontext⟩ := ofInfix_context before after
  rw [valueOfTokens, valueOfTokens, hcontext first firstListing hfirst,
    hcontext second secondListing hsecond]
  cases context with
  | error error => rfl
  | ok sides => exact Postfix.value_congr hfirstValue hsecondValue sides.1 sides.2

/-! ## Texts -/

/-- A text in parentheses, with more text on both sides. -/
def grouped (before content after : String) : String :=
  before ++ "(" ++ content ++ ")" ++ after

/-- Two outcomes of a text with a group are the same, but for the place of a
character that is refused behind the group. -/
def SameBut (before first second after : String) (one other : Except Error α) : Prop :=
  (one = other ∧ ∀ char position, one = .error (.invalidCharacter char position) →
    position < before.length) ∨
  ∃ char index, after.toList[index]? = some char ∧
    one = .error (.invalidCharacter char (before.length + first.length + 2 + index)) ∧
    other = .error (.invalidCharacter char (before.length + second.length + 2 + index))

theorem value_grouped {content : String} {inner : List Token}
    (hcontent : Token.scan content = .ok inner) (before after : String) :
    (value (grouped before content after) : Except Error α) =
      (Token.scan before).bind fun first =>
        ((Token.scanFrom false 0 after.toList).mapError
          (Error.shift (before.length + content.length + 2))).bind fun last =>
            valueOfTokens (first ++ .paren '(' :: (inner ++ .paren ')' :: last)) := by
  rw [value_eq_bind, grouped, Token.scan_group hcontent]
  cases Token.scan before with
  | error error => rfl
  | ok first => rw [Except.bind, Except.bind, Fallible.map_bind]

/-- Texts of the same value can be exchanged inside a pair of parentheses. -/
theorem sameBut_of_value {first second : String} {result : α} (hfirst : value first = .ok result)
    (hsecond : value second = .ok result) (before after : String) :
    SameBut before first second after (value (grouped before first after) : Except Error α)
      (value (grouped before second after)) := by
  obtain ⟨firstTokens, hfirstScan, hfirst⟩ := value_eq_ok_iff.mp hfirst
  obtain ⟨secondTokens, hsecondScan, hsecond⟩ := value_eq_ok_iff.mp hsecond
  rw [value_grouped hfirstScan, value_grouped hsecondScan]
  cases hbefore : Token.scan before with
  | error error =>
      simp only [Except.bind]
      refine Or.inl ⟨rfl, ?_⟩
      intro char position hposition
      obtain rfl := Except.error.inj hposition
      obtain ⟨offset, rfl, hchar⟩ := Token.getElem?_of_scanFrom hbefore
      have hlength := (List.getElem?_eq_some_iff.mp hchar).1
      rw [String.length_toList] at hlength
      omega
  | ok opening =>
      cases hafter : Token.scanFrom false 0 after.toList with
      | ok closing =>
          refine Or.inl ⟨valueOfTokens_group hfirst hsecond opening closing, ?_⟩
          intro char position hposition
          exact absurd hposition (valueOfTokens_ne_invalidCharacter _ char position)
      | error error =>
          cases error with
          | invalidCharacter char index =>
              obtain ⟨offset, hindex, hchar⟩ := Token.getElem?_of_scanFrom hafter
              rw [Nat.zero_add] at hindex
              refine Or.inr ⟨char, index, hindex ▸ hchar, ?_, ?_⟩
              all_goals
                simp only [Except.bind, Except.mapError, Error.shift]
                rw [Nat.add_comm index]
          | _ =>
              simp only [Except.bind, Except.mapError, Error.shift]
              exact Or.inl ⟨rfl, by simp⟩

/-- **Referential transparency of a group.**  Replacing the content of a pair of
parentheses by a numeral of its value changes nothing: the whole text has the
same value or fails with the same error, and only the place of a character
refused behind the group moves by the difference of the lengths.  What stands
around the group is arbitrary text. -/
theorem value_group_numeral {content numeral text : String} {result : α}
    (hcontent : value content = .ok result)
    (hnumeral : Token.scan numeral = .ok [.number text])
    (hread : Arithmetic.read? text = some result) (before after : String) :
    SameBut before content numeral after (value (grouped before content after) : Except Error α)
      (value (grouped before numeral after)) := by
  refine sameBut_of_value hcontent (value_eq_ok_iff.mpr ⟨_, hnumeral, ?_⟩) before after
  exact valueOfTokens_eq_ok_iff.mpr ⟨[.number text], rfl, by
    simp [Postfix.value, Postfix.stack, Postfix.push, hread]⟩

/-- Behind the group stands a letter, whose place differs by two. -/
theorem sameBut_two_plus_three :
    (value "2+3" : Except Error Float) = .ok 5 ∧ Token.scan "5" = .ok [.number "5"] ∧
      Arithmetic.read? "5" = some (5 : Float) ∧
        SameBut "-1*" "2+3" "5" ")/0 x" (value (grouped "-1*" "2+3" ")/0 x") : Except Error Float)
          (value (grouped "-1*" "5" ")/0 x")) := by
  have hcontent : (value "2+3" : Except Error Float) = .ok 5 := by decide +kernel
  have hnumeral : Token.scan "5" = .ok [.number "5"] := by decide +kernel
  have hread : Arithmetic.read? "5" = some (5 : Float) := by decide +kernel
  exact ⟨hcontent, hnumeral, hread, value_group_numeral hcontent hnumeral hread _ _⟩

end CipherCalc.Expr
