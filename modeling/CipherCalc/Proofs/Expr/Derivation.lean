import CipherCalc.Expr.Arithmetic
import CipherCalc.Proofs.Expr.Spelling

/-!
# Expressions as derivation trees

A derivation follows the grammar

```text
expression ::= term   | expression (+|-) term
term       ::= factor | term (*|/) factor
factor     ::= literal | ( expression )
```

constructor by constructor.  It determines a token list, a post-order listing
and a value; what a text is worth is measured against these.
-/

namespace CipherCalc.Expr

/-- A text that is a literal. -/
structure Literal where
  text : String
  isLiteral : IsLiteral text.toList

/-- Arithmetic that reads every literal. -/
class ReadsLiterals (α : Type) [Arithmetic α] : Prop where
  isSome_read? (literal : Literal) : (Arithmetic.read? literal.text : Option α).isSome

/-- The number that a literal denotes. -/
def Literal.value {α : Type} [Arithmetic α] [ReadsLiterals α] (literal : Literal) : α :=
  (Arithmetic.read? literal.text).get (ReadsLiterals.isSome_read? literal)

/-- The levels of the grammar. -/
inductive Phrase where
  | expression
  | term
  | factor

/-- The derivations of the grammar. -/
inductive Derivation : Phrase → Type where
  | literal (leaf : Literal) : Derivation .factor
  | group (inner : Derivation .expression) : Derivation .factor
  | factor (single : Derivation .factor) : Derivation .term
  | product (left : Derivation .term) (symbol : Char) (hsymbol : symbol = '*' ∨ symbol = '/')
      (right : Derivation .factor) : Derivation .term
  | term (single : Derivation .term) : Derivation .expression
  | sum (left : Derivation .expression) (symbol : Char) (hsymbol : symbol = '+' ∨ symbol = '-')
      (right : Derivation .term) : Derivation .expression

namespace Derivation

/-- The tokens of a derivation, as they are written. -/
def tokens : {phrase : Phrase} → Derivation phrase → List Token
  | _, .literal leaf => [.number leaf.text]
  | _, .group inner => .paren '(' :: (inner.tokens ++ [.paren ')'])
  | _, .factor single => single.tokens
  | _, .product left symbol _ right => left.tokens ++ .operator symbol :: right.tokens
  | _, .term single => single.tokens
  | _, .sum left symbol _ right => left.tokens ++ .operator symbol :: right.tokens

/-- The numbers and operators of a derivation, operands before their operator. -/
def postorder : {phrase : Phrase} → Derivation phrase → List Token
  | _, .literal leaf => [.number leaf.text]
  | _, .group inner => inner.postorder
  | _, .factor single => single.postorder
  | _, .product left symbol _ right => left.postorder ++ right.postorder ++ [.operator symbol]
  | _, .term single => single.postorder
  | _, .sum left symbol _ right => left.postorder ++ right.postorder ++ [.operator symbol]

variable {α : Type} [Arithmetic α]

/-- The operation that a symbol names. -/
def operate (symbol : Char) (left right : α) : α :=
  if symbol = '+' then Arithmetic.add left right
  else if symbol = '-' then Arithmetic.sub left right
  else if symbol = '*' then Arithmetic.mul left right
  else Arithmetic.div left right

variable [ReadsLiterals α]

/-- The value of a derivation, where a division by zero has the value that the
arithmetic gives it. -/
def value : {phrase : Phrase} → Derivation phrase → α
  | _, .literal leaf => leaf.value
  | _, .group inner => inner.value
  | _, .factor single => single.value
  | _, .product left symbol _ right => operate symbol left.value right.value
  | _, .term single => single.value
  | _, .sum left symbol _ right => operate symbol left.value right.value

variable (α) in
/-- Some division of a derivation has a right operand whose value is zero. -/
def DividesByZero : {phrase : Phrase} → Derivation phrase → Prop
  | _, .literal _ => False
  | _, .group inner => inner.DividesByZero
  | _, .factor single => single.DividesByZero
  | _, .product left symbol _ right =>
      left.DividesByZero ∨ right.DividesByZero ∨
        (symbol = '/' ∧ Arithmetic.isZero (right.value : α) = true)
  | _, .term single => single.DividesByZero
  | _, .sum left _ _ right => left.DividesByZero ∨ right.DividesByZero

instance decidableDividesByZero :
    {phrase : Phrase} → (tree : Derivation phrase) → Decidable (tree.DividesByZero α)
  | _, .literal _ => isFalse id
  | _, .group inner => decidableDividesByZero inner
  | _, .factor single => decidableDividesByZero single
  | _, .product left _ _ right =>
      have := decidableDividesByZero left
      have := decidableDividesByZero right
      inferInstanceAs (Decidable (_ ∨ _ ∨ _))
  | _, .term single => decidableDividesByZero single
  | _, .sum left _ _ right =>
      have := decidableDividesByZero left
      have := decidableDividesByZero right
      inferInstanceAs (Decidable (_ ∨ _))

end Derivation

/-! ## Operands and operators alternate -/

namespace Token

/-- A number and `(` can start an operand. -/
def startsOperand : Token → Bool
  | .number _ => true
  | .operator _ => false
  | .paren symbol => symbol == '('

/-- A number and `)` can end an operand. -/
def endsOperand : Token → Bool
  | .number _ => true
  | .operator _ => false
  | .paren symbol => symbol != '('

end Token

/-- Operands start at the beginning and right after what does not end an
operand, and nowhere else. -/
structure Alternates (tokens : List Token) : Prop where
  first : ∀ token ∈ tokens.head?, token.startsOperand = true
  neighbours : tokens.IsChain fun earlier later => later.startsOperand = !earlier.endsOperand

/-- The same, for tokens that are read where an operand is expected or not. -/
def AlternatesFrom (expected : Bool) : List Token → Prop
  | [] => True
  | token :: rest => token.startsOperand = expected ∧ AlternatesFrom (!token.endsOperand) rest

theorem alternatesFrom_iff (expected : Bool) (tokens : List Token) :
    AlternatesFrom expected tokens ↔ (∀ token ∈ tokens.head?, token.startsOperand = expected) ∧
      tokens.IsChain fun earlier later => later.startsOperand = !earlier.endsOperand := by
  induction tokens generalizing expected with
  | nil => simp [AlternatesFrom]
  | cons token rest ih =>
      rw [AlternatesFrom, ih, List.isChain_cons]
      simp

theorem alternates_iff (tokens : List Token) : Alternates tokens ↔ AlternatesFrom true tokens := by
  rw [alternatesFrom_iff]
  exact ⟨fun h => ⟨h.first, h.neighbours⟩, fun h => ⟨h.1, h.2⟩⟩

namespace Derivation

/-- A derivation starts where an operand is expected and ends as an operand
does. -/
theorem alternatesFrom_tokens {phrase : Phrase} (tree : Derivation phrase) (rest : List Token) :
    AlternatesFrom true (tree.tokens ++ rest) ↔ AlternatesFrom false rest := by
  induction tree generalizing rest with
  | literal leaf => simp [tokens, AlternatesFrom, Token.startsOperand, Token.endsOperand]
  | group inner ih =>
      simp [tokens, AlternatesFrom, Token.startsOperand, Token.endsOperand, ih]
  | factor single ih => exact ih rest
  | product left symbol hsymbol right ihleft ihright =>
      simp [tokens, AlternatesFrom, Token.startsOperand, Token.endsOperand, ihleft, ihright]
  | term single ih => exact ih rest
  | sum left symbol hsymbol right ihleft ihright =>
      simp [tokens, AlternatesFrom, Token.startsOperand, Token.endsOperand, ihleft, ihright]

theorem alternates_tokens {phrase : Phrase} (tree : Derivation phrase) :
    Alternates tree.tokens := by
  have hrest := (tree.alternatesFrom_tokens []).mpr trivial
  rw [List.append_nil] at hrest
  exact (alternates_iff _).mpr hrest

theorem isLexeme_of_sum {symbol : Char} (hsymbol : symbol = '+' ∨ symbol = '-') :
    (Token.operator symbol).IsLexeme := by
  rcases hsymbol with rfl | rfl <;> simp [Token.IsLexeme]

theorem isLexeme_of_product {symbol : Char} (hsymbol : symbol = '*' ∨ symbol = '/') :
    (Token.operator symbol).IsLexeme :=
  Or.inr (Or.inr hsymbol)

theorem readable_operator {symbol : Char} (hlexeme : (Token.operator symbol).IsLexeme)
    {rest : List Token} (hrest : Readable true rest) :
    Readable false (.operator symbol :: rest) :=
  ⟨⟨hlexeme, by simp [Token.IsSigned], fun _ => rfl⟩, hrest⟩

/-- A derivation can be scanned where a sign is admitted. -/
theorem readable_tokens {phrase : Phrase} (tree : Derivation phrase) {rest : List Token}
    (hrest : Readable false rest) : Readable true (tree.tokens ++ rest) := by
  induction tree generalizing rest with
  | literal leaf =>
      exact ⟨⟨leaf.isLiteral, fun _ => rfl, by simp⟩, hrest⟩
  | group inner ih =>
      have hclose : Readable false (.paren ')' :: rest) :=
        ⟨⟨Or.inr rfl, by simp [Token.IsSigned], by simp⟩, hrest⟩
      rw [tokens, List.cons_append, List.append_assoc, List.singleton_append]
      exact ⟨⟨Or.inl rfl, by simp [Token.IsSigned], by simp⟩, ih hclose⟩
  | factor single ih => exact ih hrest
  | product left symbol hsymbol right ihleft ihright =>
      rw [tokens, List.append_assoc, List.cons_append]
      exact ihleft (readable_operator (isLexeme_of_product hsymbol) (ihright hrest))
  | term single ih => exact ih hrest
  | sum left symbol hsymbol right ihleft ihright =>
      rw [tokens, List.append_assoc, List.cons_append]
      exact ihleft (readable_operator (isLexeme_of_sum hsymbol) (ihright hrest))

theorem wellFormed_tokens {phrase : Phrase} (tree : Derivation phrase) :
    LexicallyWellFormed tree.tokens := by
  have hreadable := tree.readable_tokens (readable_nil false)
  rw [List.append_nil] at hreadable
  exact (readable_iff _).mp hreadable

end Derivation

/-- Tokens that alternate have no two numbers in a row to be kept apart. -/
theorem separated_of_alternates {layout : Layout} (halternates : Alternates layout.tokens) :
    layout.Separated := by
  have hneighbours := halternates.neighbours
  rw [Layout.tokens, List.isChain_map] at hneighbours
  refine hneighbours.imp fun earlier later hstart => ?_
  rintro ⟨text, hearlier⟩ ⟨other, hlater⟩
  simp [hearlier, hlater, Token.startsOperand, Token.endsOperand] at hstart

end CipherCalc.Expr
