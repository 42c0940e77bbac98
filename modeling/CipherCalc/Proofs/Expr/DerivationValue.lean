import CipherCalc.Expr.Evaluation
import CipherCalc.Proofs.Decimal.Literal
import CipherCalc.Proofs.Expr.Conversion
import CipherCalc.Proofs.Expr.Derivation
import CipherCalc.Proofs.Expr.Scanner
import CipherCalc.Proofs.Expr.ValueStack

/-!
# A derivation is evaluated to its value

However a derivation is written, the text has the derivation's value, unless it
divides by zero (`ofText_layout`).

The invariant of the converter is `Converts`: a phrase of the grammar leaves the
operators that wait below it alone, and adds its post-order listing, of which a
last part may still wait.  It holds as long as the operators below bind less
tightly than those of the phrase, which is what the levels of the grammar
provide.
-/

namespace CipherCalc.Expr

/-! ## Conversion -/

/-- How tightly the operators at a level of the grammar bind; inside a factor
there are none. -/
def Phrase.tightness : Phrase → Nat
  | .expression => 1
  | .term => 2
  | .factor => 3

/-- Tokens that add a listing to the output and to the operators that wait, in
any state where those bind less tightly than `tightness`. -/
def Converts (tightness : Nat) (tokens listing : List Token) : Prop :=
  ∀ state : Converter, (∀ symbol ∈ state.waiting.head?, precedence symbol < tightness) →
    ∃ (written : List Token) (added : List Char),
      written ++ added.map Token.operator = listing ∧
        (∀ symbol ∈ added, tightness ≤ precedence symbol) ∧
          state.run tokens = .ok { state with
            output := state.output ++ written
            waiting := added ++ state.waiting }

theorem Converts.loosen {tightness : Nat} {tokens listing : List Token}
    (hconverts : Converts (tightness + 1) tokens listing) : Converts tightness tokens listing := by
  intro state hloose
  obtain ⟨written, added, hlisting, htight, hrun⟩ :=
    hconverts state fun symbol hmem => Nat.lt_succ_of_lt (hloose symbol hmem)
  exact ⟨written, added, hlisting, fun symbol hmem => Nat.le_of_succ_le (htight symbol hmem), hrun⟩

theorem Converts.ofInfix_eq {tightness : Nat} {tokens listing : List Token}
    (hconverts : Converts tightness tokens listing) : Postfix.ofInfix tokens = .ok listing := by
  obtain ⟨written, added, hlisting, -, hrun⟩ :=
    hconverts Converter.start (by simp [Converter.start])
  refine ofInfix_eq_ok_iff.mpr ⟨_, hrun, rfl, ?_⟩
  simp [Converter.start, hlisting]

theorem converts_number (tightness : Nat) (text : String) :
    Converts tightness [.number text] [.number text] := by
  intro state _
  exact ⟨[.number text], [], rfl, by simp, by simp [Converter.run, Converter.step]⟩

theorem Converts.group {tightness : Nat} {tokens listing : List Token}
    (hconverts : Converts tightness tokens listing) (outer : Nat) :
    Converts outer (.paren '(' :: (tokens ++ [.paren ')'])) listing := by
  intro state _
  exact ⟨listing, [], by simp, by simp, run_group hconverts.ofInfix_eq state⟩

/-- An operator releases what its left operand has left waiting, and no more. -/
theorem step_operator_of_tight {symbol : Char} {added below : List Char}
    (hadded : ∀ earlier ∈ added, precedence symbol ≤ precedence earlier)
    (hbelow : ∀ earlier ∈ below.head?, precedence earlier < precedence symbol)
    (state : Converter) (hwaiting : state.waiting = added ++ below) :
    state.step (.operator symbol) = .ok { state with
      output := state.output ++ added.map Token.operator
      waiting := symbol :: below } := by
  have hall : ∀ earlier ∈ added, Converter.yieldsTo symbol earlier = true := fun earlier hmem =>
    decide_eq_true (hadded earlier hmem)
  have htake : state.waiting.takeWhile (Converter.yieldsTo symbol) = added ∧
      state.waiting.dropWhile (Converter.yieldsTo symbol) = below := by
    rw [hwaiting, List.takeWhile_append_of_pos hall, List.dropWhile_append_of_pos hall]
    cases below with
    | nil => simp
    | cons earlier rest =>
        have hstays : Converter.yieldsTo symbol earlier = false :=
          decide_eq_false (Nat.not_le_of_lt (hbelow earlier rfl))
        simp [hstays]
  simp only [Converter.step, htake.1, htake.2]

theorem Converts.operation {symbol : Char} {tightness : Nat}
    {left right leftListing rightListing : List Token} (hprecedence : precedence symbol = tightness)
    (hleft : Converts tightness left leftListing)
    (hright : Converts (tightness + 1) right rightListing) :
    Converts tightness (left ++ .operator symbol :: right)
      (leftListing ++ rightListing ++ [.operator symbol]) := by
  subst hprecedence
  intro state hloose
  obtain ⟨leftWritten, leftAdded, rfl, hleftTight, hleftRun⟩ := hleft state hloose
  have hstep := step_operator_of_tight hleftTight hloose
    { state with
      output := state.output ++ leftWritten
      waiting := leftAdded ++ state.waiting } rfl
  obtain ⟨rightWritten, rightAdded, rfl, hrightTight, hrightRun⟩ := hright
    { state with
      output := state.output ++ leftWritten ++ leftAdded.map Token.operator
      waiting := symbol :: state.waiting } (by simp)
  refine ⟨leftWritten ++ leftAdded.map Token.operator ++ rightWritten, rightAdded ++ [symbol],
    by simp, ?_, ?_⟩
  · intro other hmem
    rcases List.mem_append.mp hmem with hright | hlast
    · exact Nat.le_of_succ_le (hrightTight other hright)
    · rw [List.mem_singleton.mp hlast]
  · rw [Converter.run_append, hleftRun, Except.bind, Converter.run, hstep]
    exact hrightRun.trans (by simp [Converter.append_list_append])

theorem Derivation.converts {phrase : Phrase} (tree : Derivation phrase) :
    Converts phrase.tightness tree.tokens tree.postorder := by
  induction tree with
  | literal leaf => exact converts_number _ leaf.text
  | group inner ih => exact ih.group _
  | factor single ih => exact ih.loosen
  | product left symbol hsymbol right ihleft ihright =>
      exact Converts.operation (by rcases hsymbol with rfl | rfl <;> rfl) ihleft ihright
  | term single ih => exact ih.loosen
  | sum left symbol hsymbol right ihleft ihright =>
      exact Converts.operation (by rcases hsymbol with rfl | rfl <;> rfl) ihleft ihright

/-! ## Evaluation -/

namespace Derivation

variable {α : Type} [Arithmetic α]

/-- The outcome of a listing on any stack: it fails by a zero divisor, or adds a
value. -/
def Evaluates (listing : List Token) (fails : Prop) (result : α) : Prop :=
  ∀ below : List α,
    (fails → Postfix.stack below listing = .error .divisionByZero) ∧
      (¬ fails → Postfix.stack below listing = .ok (result :: below))

theorem apply_of_isLexeme {symbol : Char} (hlexeme : (Token.operator symbol).IsLexeme)
    (left right : α) :
    (symbol = '/' ∧ Arithmetic.isZero right = true →
      apply symbol left right = .error .divisionByZero) ∧
    (¬ (symbol = '/' ∧ Arithmetic.isZero right = true) →
      apply symbol left right = .ok (operate symbol left right)) := by
  rcases hlexeme with rfl | rfl | rfl | rfl
  case inr.inr.inr => cases hzero : Arithmetic.isZero right <;> simp [apply, operate, hzero]
  all_goals simp [apply, operate]

theorem Evaluates.operation {symbol : Char} (hlexeme : (Token.operator symbol).IsLexeme)
    {left right : List Token} {leftFails rightFails : Prop} {leftResult rightResult : α}
    (hleft : Evaluates left leftFails leftResult)
    (hright : Evaluates right rightFails rightResult) :
    Evaluates (left ++ right ++ [.operator symbol])
      (leftFails ∨ rightFails ∨ (symbol = '/' ∧ Arithmetic.isZero rightResult = true))
      (operate symbol leftResult rightResult) := by
  intro below
  obtain ⟨hzero, hvalue⟩ := apply_of_isLexeme hlexeme leftResult rightResult
  rw [Postfix.stack_append, Postfix.stack_append]
  by_cases hleftFails : leftFails
  · simp [hleftFails, (hleft below).1 hleftFails, Except.bind]
  rw [(hleft below).2 hleftFails]
  by_cases hrightFails : rightFails
  · simp [hrightFails, (hright (leftResult :: below)).1 hrightFails, Except.bind]
  simp only [Except.bind, (hright (leftResult :: below)).2 hrightFails, Postfix.stack, Postfix.push,
    hleftFails, hrightFails, false_or]
  constructor
  · intro hdivides
    rw [hzero hdivides]
    rfl
  · intro hdivides
    rw [hvalue hdivides]
    rfl

theorem evaluates [ReadsLiterals α] {phrase : Phrase} (tree : Derivation phrase) :
    Evaluates tree.postorder (tree.DividesByZero α) (tree.value : α) := by
  induction tree with
  | literal leaf =>
      intro below
      have hread : Arithmetic.read? leaf.text = some (leaf.value : α) := (Option.some_get _).symm
      refine ⟨False.elim, fun _ => ?_⟩
      simp only [postorder, Postfix.stack, Postfix.push, hread, value]
  | group inner ih => exact ih
  | factor single ih => exact ih
  | product left symbol hsymbol right ihleft ihright =>
      exact Evaluates.operation (isLexeme_of_product hsymbol) ihleft ihright
  | term single ih => exact ih
  | sum left symbol hsymbol right ihleft ihright =>
      have hnodivision : ¬ symbol = '/' := by rcases hsymbol with rfl | rfl <;> decide
      have houtcome := Evaluates.operation (isLexeme_of_sum hsymbol) ihleft ihright
      simp only [hnodivision, false_and, or_false] at houtcome
      exact houtcome

end Derivation

/-! ## Texts -/

theorem listing_eq_intercalate (tokens : List Token) :
    Token.listing tokens = " ".intercalate (tokens.map Token.text) := by
  rw [← String.toList_inj, Token.listing, String.toList_ofList, String.toList_intercalate,
    List.map_map]
  rfl

/-- **A derivation is evaluated to its value, however it is written.**  The
text fails only if some right operand of a division is zero.  Otherwise the
steps shown are the tokens and the post-order listing, with one space between
neighbours. -/
theorem ofText_layout {α : Type} [Arithmetic α] [ReadsLiterals α] (tree : Derivation .expression)
    (layout : Layout) (htokens : layout.tokens = tree.tokens) :
    (tree.DividesByZero α →
      (Evaluation.ofText layout.text : Except Error (Evaluation α)) = .error .divisionByZero) ∧
    (¬ tree.DividesByZero α → ∃ evaluation : Evaluation α,
      Evaluation.ofText layout.text = .ok evaluation ∧ evaluation.value = tree.value ∧
        Token.listing evaluation.infixOrder = " ".intercalate (tree.tokens.map Token.text) ∧
        Token.listing evaluation.postfixOrder =
          " ".intercalate (tree.postorder.map Token.text)) := by
  have hscan : Token.scan layout.text = .ok tree.tokens := by
    rw [← htokens]
    refine Token.scan_text_of_wellFormed ?_ (separated_of_alternates ?_)
    · exact htokens ▸ tree.wellFormed_tokens
    · exact htokens ▸ tree.alternates_tokens
  have hlisting : Postfix.ofInfix tree.tokens = .ok tree.postorder := tree.converts.ofInfix_eq
  obtain ⟨hfails, hvalue⟩ := @Derivation.evaluates α _ _ _ tree []
  constructor
  · intro hdivides
    have herror : (Postfix.value tree.postorder : Except Error α) = .error .divisionByZero := by
      rw [Postfix.value, hfails hdivides]
    simp only [Evaluation.ofText, hscan, hlisting, herror, bind, Except.bind]
  · intro hdivides
    have hresult : Postfix.value tree.postorder = .ok (tree.value : α) := by
      rw [Postfix.value, hvalue hdivides]
    refine ⟨⟨tree.value, tree.tokens, tree.postorder⟩, ?_, rfl, listing_eq_intercalate _,
      listing_eq_intercalate _⟩
    simp only [Evaluation.ofText, hscan, hlisting, hresult, bind, Except.bind]
    rfl

/-- `(8 - -3) / 2`. -/
def halfDifference : Derivation .expression :=
  .term (.product
    (.factor (.group (.sum (.term (.factor (.literal ⟨"8", by decide⟩))) '-' (.inr rfl)
      (.factor (.literal ⟨"-3", by decide⟩)))))
    '/' (.inr rfl) (.literal ⟨"2", by decide⟩))

/-- The same with a tab before the division sign and few spaces. -/
def halfDifferenceLayout : Layout :=
  { lead := .blank
    items := [(.paren '(', .none), (.number "8", .none), (.operator '-', .none),
      (.number "-3", .none), (.paren ')', .single '\t' rfl), (.operator '/', .none),
      (.number "2", .single '\n' rfl)] }

theorem ofText_halfDifference :
    halfDifferenceLayout.text = " (8--3)\t/2\n" ∧
      halfDifferenceLayout.tokens = halfDifference.tokens ∧
      ¬ halfDifference.DividesByZero Float ∧
      ∃ evaluation : Evaluation Float,
        Evaluation.ofText halfDifferenceLayout.text = .ok evaluation ∧ evaluation.value = 5.5 ∧
          Token.listing evaluation.infixOrder = "( 8 - -3 ) / 2" ∧
          Token.listing evaluation.postfixOrder = "8 -3 - 2 /" := by
  have hdivides : ¬ halfDifference.DividesByZero Float := by decide +kernel
  obtain ⟨evaluation, htext, hvalue, htokens, hlisted⟩ :=
    (ofText_layout halfDifference halfDifferenceLayout rfl).2 hdivides
  refine ⟨rfl, rfl, hdivides, evaluation, htext, ?_, ?_, ?_⟩
  · rw [hvalue]
    decide +kernel
  · rw [htokens]
    rfl
  · rw [hlisted]
    rfl

end CipherCalc.Expr
