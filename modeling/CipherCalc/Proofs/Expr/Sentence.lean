import CipherCalc.Proofs.Expr.Derivation
import CipherCalc.Proofs.Expr.Substitution

/-!
# Which texts with a value are expressions

A value is no proof of good form: `2 3 +` and `2 ( ) + 3` have one.  The
converter forgets where an operator stood between the operands, and evaluation
only counts them.  What is missing is exactly that operands and operators
alternate (`isSentence_iff_alternates`): a text with a value is an expression of
the grammar just when every operand starts where one is expected.

For this an expression is built while the converter runs.  The tokens read so
far are split at the parentheses that are still open (`Parsing`).  Each part
before such a parenthesis is a context, which any operand completes; the last
part is a context or an expression, whichever the alternation asks for.  Groups
are closed because the converter accepts them, and the last part is an
expression in the end because the number of values left is one.
-/

namespace CipherCalc.Expr

/-- The token lists of expressions. -/
def IsSentence (tokens : List Token) : Prop :=
  ∃ tree : Derivation .expression, tree.tokens = tokens

/-- Token lists that any operand completes to an expression. -/
def IsContext (tokens : List Token) : Prop :=
  ∀ operand : Derivation .factor, IsSentence (tokens ++ operand.tokens)

theorem isContext_nil : IsContext [] := fun operand =>
  ⟨.term (.factor operand), rfl⟩

theorem IsContext.number {tokens : List Token} (hcontext : IsContext tokens) {text : String}
    (hliteral : IsLiteral text.toList) : IsSentence (tokens ++ [.number text]) :=
  hcontext (.literal ⟨text, hliteral⟩)

theorem IsContext.group {tokens inner : List Token} (hcontext : IsContext tokens)
    (hinner : IsSentence inner) :
    IsSentence (tokens ++ .paren '(' :: (inner ++ [.paren ')'])) := by
  obtain ⟨tree, rfl⟩ := hinner
  exact hcontext (.group tree)

/-- An operator after an expression waits for its right operand; a tight one
takes the last term as its left operand. -/
theorem IsSentence.operator {tokens : List Token} (hsentence : IsSentence tokens) {symbol : Char}
    (hlexeme : (Token.operator symbol).IsLexeme) : IsContext (tokens ++ [.operator symbol]) := by
  obtain ⟨tree, rfl⟩ := hsentence
  intro operand
  rw [List.append_assoc, List.singleton_append]
  have hloose : symbol = '+' ∨ symbol = '-' ∨ symbol = '*' ∨ symbol = '/' := hlexeme
  rcases or_assoc.mpr hloose with hsum | hproduct
  · exact ⟨.sum tree symbol hsum (.factor operand), rfl⟩
  · cases tree with
    | term single => exact ⟨.term (.product single symbol hproduct operand), rfl⟩
    | sum left other hother right =>
        refine ⟨.sum left other hother (.product right symbol hproduct operand), ?_⟩
        simp [Derivation.tokens]

/-! ## Building an expression -/

/-- Groups that are still open, the innermost first, around what was read
since. -/
def nested (outer : List (List Token)) (current : List Token) : List Token :=
  outer.foldl (fun inner context => context ++ .paren '(' :: inner) current

theorem nested_append (outer : List (List Token)) (current more : List Token) :
    nested outer (current ++ more) = nested outer current ++ more := by
  induction outer generalizing current with
  | nil => rfl
  | cons context outer ih =>
      rw [nested, List.foldl_cons, ← List.cons_append, ← List.append_assoc]
      exact ih _

/-- What the tokens since the innermost open group are. -/
def IsPart : Bool → List Token → Prop
  | true, tokens => IsContext tokens
  | false, tokens => IsSentence tokens

/-- Tokens that can go on to an expression, with some groups open and an operand
expected or just ended. -/
def Parsing (depth : Nat) (expected : Bool) (read : List Token) : Prop :=
  ∃ (outer : List (List Token)) (current : List Token),
    outer.length = depth ∧ (∀ context ∈ outer, IsContext context) ∧
      IsPart expected current ∧ nested outer current = read

theorem parsing_nil : Parsing 0 true [] :=
  ⟨[], [], rfl, by simp, isContext_nil, rfl⟩

theorem Parsing.isSentence {read : List Token} (hparsing : Parsing 0 false read) :
    IsSentence read := by
  obtain ⟨outer, current, hdepth, -, hcurrent, rfl⟩ := hparsing
  rw [List.length_eq_zero_iff.mp hdepth]
  exact hcurrent

theorem Parsing.step {state next : Converter} {token : Token} {read : List Token}
    (hparsing : Parsing state.enclosing.length token.startsOperand read)
    (hlexeme : token.IsLexeme) (hstep : state.step token = .ok next) :
    Parsing next.enclosing.length (!token.endsOperand) (read ++ [token]) := by
  obtain ⟨outer, current, hdepth, houter, hcurrent, rfl⟩ := hparsing
  rcases Converter.step_eq_ok hstep with ⟨text, rfl, rfl⟩ | ⟨symbol, rfl, rfl⟩ | ⟨rfl, rfl⟩ |
    ⟨symbol, operators, enclosing, rfl, hclose, henclosing, rfl⟩
  · exact ⟨outer, current ++ [Token.number text], hdepth, houter,
      IsContext.number hcurrent hlexeme, nested_append _ _ _⟩
  · exact ⟨outer, current ++ [Token.operator symbol], hdepth, houter,
      IsSentence.operator hcurrent hlexeme, nested_append _ _ _⟩
  · refine ⟨current :: outer, [], by simp [hdepth], ?_, isContext_nil, ?_⟩
    · exact List.forall_mem_cons.mpr ⟨hcurrent, houter⟩
    · exact nested_append outer current [.paren '(']
  · obtain rfl : symbol = ')' := hlexeme.resolve_left hclose
    rw [henclosing] at hdepth
    obtain ⟨context, rest, rfl⟩ := List.exists_cons_of_length_eq_add_one hdepth
    rw [List.forall_mem_cons] at houter
    -- the innermost context gets the group as its operand
    refine ⟨rest, context ++ Token.paren '(' :: (current ++ [Token.paren ')']),
      by simpa using hdepth, houter.2, IsContext.group houter.1 hcurrent, ?_⟩
    exact nested_append (context :: rest) current [.paren ')']

/-- Whether an operand is expected after some tokens. -/
def expectedAfter (expected : Bool) : List Token → Bool
  | [] => expected
  | token :: rest => expectedAfter (!token.endsOperand) rest

theorem Parsing.run {state last : Converter} {expected : Bool} {tokens read : List Token}
    (hparsing : Parsing state.enclosing.length expected read)
    (halternates : AlternatesFrom expected tokens) (hlexemes : ∀ token ∈ tokens, token.IsLexeme)
    (hrun : state.run tokens = .ok last) :
    Parsing last.enclosing.length (expectedAfter expected tokens) (read ++ tokens) := by
  induction tokens generalizing state expected read with
  | nil =>
      obtain rfl := Except.ok.inj hrun
      rwa [List.append_nil]
  | cons token rest ih =>
      obtain ⟨rfl, halternates⟩ := halternates
      rw [List.forall_mem_cons] at hlexemes
      obtain ⟨next, hstep, hrun⟩ := Converter.run_cons_eq_ok_iff.mp hrun
      have hnext := ih (hparsing.step hlexemes.1 hstep) halternates hlexemes.2 hrun
      rwa [List.append_assoc, List.singleton_append] at hnext

/-! ## Counting operands -/

/-- What a token adds to the number of values on the stack. -/
def Token.weight : Token → Int
  | .number _ => 1
  | .operator _ => -1
  | .paren _ => 0

/-- How many more numbers than operators there are. -/
def excess : List Token → Int
  | [] => 0
  | token :: rest => token.weight + excess rest

theorem excess_of_perm {first second : List Token} (hperm : first.Perm second) :
    excess first = excess second := by
  induction hperm with
  | nil => rfl
  | cons token _ ih => rw [excess, excess, ih]
  | swap earlier later rest =>
      simp only [excess]
      omega
  | trans _ _ ihfirst ihsecond => exact ihfirst.trans ihsecond

theorem excess_withoutParens (tokens : List Token) :
    excess (withoutParens tokens) = excess tokens := by
  induction tokens with
  | nil => rfl
  | cons token rest ih =>
      rw [withoutParens] at ih ⊢
      cases token <;> simp [excess, Token.weight, ih]

theorem length_of_push {α : Type} [Arithmetic α] {initial next : List α} {token : Token}
    (hpush : Postfix.push initial token = .ok next) :
    (next.length : Int) = initial.length + token.weight := by
  rcases Postfix.push_eq_ok hpush with
    ⟨text, value, rfl, -, rfl⟩ | ⟨symbol, left, right, below, result, rfl, rfl, -, rfl⟩
  · simp [Token.weight]
  · simp only [Token.weight, List.length_cons]
    omega

theorem length_of_stack {α : Type} [Arithmetic α] {initial final : List α} {tokens : List Token}
    (hstack : Postfix.stack initial tokens = .ok final) :
    (final.length : Int) = initial.length + excess tokens := by
  induction tokens generalizing initial with
  | nil =>
      obtain rfl := Except.ok.inj hstack
      exact (Int.add_zero _).symm
  | cons token rest ih =>
      obtain ⟨next, hpush, hstack⟩ := Postfix.stack_cons_eq_ok_iff.mp hstack
      rw [ih hstack, length_of_push hpush, excess, Int.add_assoc]

/-- The tokens of a text with a value have one number more than operators. -/
theorem excess_of_valueOfTokens {α : Type} [Arithmetic α] {tokens : List Token} {result : α}
    (hvalue : valueOfTokens tokens = .ok result) : excess tokens = 1 := by
  obtain ⟨listing, hlisting, hvalue⟩ := valueOfTokens_eq_ok_iff.mp hvalue
  have hlength := length_of_stack (Postfix.value_eq_ok_iff.mp hvalue)
  rw [← excess_withoutParens, ← excess_of_perm (perm_of_ofInfix hlisting)]
  simpa using hlength.symm

/-- A token takes the place of an operand if it starts one, and gives the place
back if it ends none. -/
theorem weight_eq (token : Token) :
    token.weight = (token.startsOperand.toNat : Int) - (!token.endsOperand).toNat := by
  cases token with
  | number text => rfl
  | operator symbol => rfl
  | paren symbol => simp [Token.weight, Token.startsOperand, Token.endsOperand, bne]

/-- Where the tokens alternate, an operand has ended once more numbers than
operators were read. -/
theorem excess_of_alternatesFrom {expected : Bool} {tokens : List Token}
    (halternates : AlternatesFrom expected tokens) :
    excess tokens = (expected.toNat : Int) - (expectedAfter expected tokens).toNat := by
  induction tokens generalizing expected with
  | nil => simp [excess, expectedAfter]
  | cons token rest ih =>
      obtain ⟨rfl, halternates⟩ := halternates
      rw [excess, weight_eq, ih halternates, expectedAfter]
      omega

/-- **A text with a value is an expression just when its operands and operators
alternate.**  Nothing weaker will do: whatever has a value and does not alternate
is no expression. -/
theorem isSentence_iff_alternates {α : Type} [Arithmetic α] {text : String} {tokens : List Token}
    {result : α} (hscan : Token.scan text = .ok tokens) (hvalue : value text = .ok result) :
    IsSentence tokens ↔ Alternates tokens := by
  constructor
  · rintro ⟨tree, rfl⟩
    exact tree.alternates_tokens
  · intro halternates
    rw [alternates_iff] at halternates
    obtain ⟨found, hfound, hvalue⟩ := value_eq_ok_iff.mp hvalue
    obtain rfl := Except.ok.inj (hscan.symm.trans hfound)
    obtain ⟨listing, hlisting, -⟩ := valueOfTokens_eq_ok_iff.mp hvalue
    obtain ⟨last, hrun, hclosed, -⟩ := ofInfix_eq_ok_iff.mp hlisting
    have hlexemes := ((Token.scan_eq_ok_iff_exists_layout text tokens).mp hscan).1.lexemes
    have hended : expectedAfter true tokens = false := by
      have hexcess := excess_of_alternatesFrom halternates
      rw [excess_of_valueOfTokens hvalue] at hexcess
      cases hafter : expectedAfter true tokens with
      | false => rfl
      | true => simp [hafter] at hexcess
    have hstart : Parsing Converter.start.enclosing.length true [] := parsing_nil
    have hparsing := hstart.run halternates hlexemes hrun
    rw [hclosed, hended, List.nil_append] at hparsing
    exact hparsing.isSentence

theorem isSentence_iff_alternates_of_product :
    Token.scan "2*(3-5)" = .ok [.number "2", .operator '*', .paren '(', .number "3",
        .operator '-', .number "5", .paren ')'] ∧
      (value "2*(3-5)" : Except Error Float) = .ok (-4) ∧
        (IsSentence [.number "2", .operator '*', .paren '(', .number "3", .operator '-',
            .number "5", .paren ')'] ↔
          Alternates [.number "2", .operator '*', .paren '(', .number "3", .operator '-',
            .number "5", .paren ')']) := by
  have hscan : Token.scan "2*(3-5)" = .ok [.number "2", .operator '*', .paren '(', .number "3",
      .operator '-', .number "5", .paren ')'] := by decide +kernel
  have hvalue : (value "2*(3-5)" : Except Error Float) = .ok (-4) := by decide +kernel
  exact ⟨hscan, hvalue, isSentence_iff_alternates hscan hvalue⟩

/-- A value does not make an expression: in `2 3 +` the operands do not alternate
with the operator. -/
theorem not_isSentence_of_value :
    ¬ ∀ (text : String) (result : Float) (tokens : List Token), value text = .ok result →
      Token.scan text = .ok tokens → IsSentence tokens := by
  intro hclaim
  have hvalue : (value "2 3 +" : Except Error Float) = .ok 5 := by decide +kernel
  have hscan : Token.scan "2 3 +" = .ok [.number "2", .number "3", .operator '+'] := by
    decide +kernel
  obtain ⟨tree, htree⟩ := hclaim "2 3 +" 5 _ hvalue hscan
  have halternates := (alternates_iff _).mp tree.alternates_tokens
  rw [htree] at halternates
  exact absurd halternates.2.1 (by decide)

end CipherCalc.Expr
