import CipherCalc.Expr.Token.Scan
import Mathlib.Data.List.Chain

/-!
# How tokens are written

The scanner is measured against a description of its inputs that does not
mention it.  `LexicallyWellFormed` says which token lists a text can have, and a
`Layout` is one way of writing a token list: runs of space characters before,
between and after the tokens.

Two things in this description look at more than one token.  A minus sign is
part of a number or an operator depending on the token before it (`MayPrecede`),
and two numbers need a space between them (`Layout.Separated`), since their
digits would run together.

`Readable` is the same condition in the order in which the scanner meets it: the
only thing it carries from token to token is whether a sign is admitted.
`readable_iff` proves the two equal, and everything about the scanner uses
`Readable`.
-/

namespace CipherCalc.Expr

open Token

/-! ## Lexical form -/

/-- A text without its leading minus sign, if it has one. -/
def unsigned : List Char → List Char
  | '-' :: rest => rest
  | text => text

theorem unsigned_eq_self {text : List Char} (hsign : ∀ rest, text ≠ '-' :: rest) :
    unsigned text = text := by
  unfold unsigned
  split
  · next rest => exact absurd rfl (hsign rest)
  · rfl

/-- An optional minus sign, then digits with at most one point and at least one
digit. -/
def IsLiteral (text : List Char) : Prop :=
  (∀ char ∈ unsigned text, char.isDigit ∨ char = '.') ∧
    (unsigned text).count '.' ≤ 1 ∧ ∃ char ∈ unsigned text, char.isDigit

instance : DecidablePred IsLiteral := fun text =>
  decidable_of_iff (((unsigned text).all fun char => char.isDigit || char == '.') = true ∧
    (unsigned text).count '.' ≤ 1 ∧ (unsigned text).any Char.isDigit = true)
    (by simp [IsLiteral])

namespace Token

/-- The texts that tokens can be scanned from. -/
def IsLexeme : Token → Prop
  | .number text => IsLiteral text.toList
  | .operator symbol => symbol = '+' ∨ symbol = '-' ∨ symbol = '*' ∨ symbol = '/'
  | .paren symbol => symbol = '(' ∨ symbol = ')'

/-- A number that is written with a minus sign. -/
def IsSigned : Token → Prop
  | .number text => text.toList.head? = some '-'
  | _ => False

/-- Whether two tokens may be neighbours: a signed number follows an operator or
`(`, and the operator `-` follows a number or `)`. -/
def MayPrecede (earlier later : Token) : Prop :=
  (later.IsSigned → (∃ symbol, earlier = .operator symbol) ∨ earlier = .paren '(') ∧
    (later = .operator '-' → (∃ text, earlier = .number text) ∨ earlier = .paren ')')

end Token

/-- The token lists that texts have: every token is written as it may be, and
minus signs stand where they mean what the tokens say. -/
structure LexicallyWellFormed (tokens : List Token) : Prop where
  lexemes : ∀ token ∈ tokens, token.IsLexeme
  /-- The operator `-` is never the first token. -/
  first : tokens.head? ≠ some (.operator '-')
  neighbours : tokens.IsChain MayPrecede

/-! ## Layouts -/

/-- A run of space characters, possibly empty. -/
structure Gap where
  chars : List Char
  isSpace : ∀ char ∈ chars, Token.isSpace char = true

/-- Nothing at all. -/
def Gap.none : Gap :=
  { chars := [], isSpace := fun _ hmem => absurd hmem List.not_mem_nil }

/-- A single space character. -/
def Gap.single (char : Char) (hspace : Token.isSpace char = true) : Gap :=
  { chars := [char], isSpace := List.forall_mem_singleton.mpr hspace }

/-- The gap of a listing. -/
def Gap.blank : Gap := .single ' ' rfl

/-- One way of writing a token list: the gap before the first token, and the
gap after each. -/
structure Layout where
  lead : Gap
  items : List (Token × Gap)

namespace Layout

/-- The tokens that a layout writes. -/
def tokens (layout : Layout) : List Token :=
  layout.items.map Prod.fst

/-- Tokens and the gaps after them, written out. -/
def written (items : List (Token × Gap)) : List Char :=
  items.flatMap fun item => item.1.text.toList ++ item.2.chars

@[simp] theorem written_nil : written [] = [] := rfl

@[simp] theorem written_cons (item : Token × Gap) (rest : List (Token × Gap)) :
    written (item :: rest) = item.1.text.toList ++ (item.2.chars ++ written rest) := by
  simp [written]

/-- The characters of a layout. -/
def chars (layout : Layout) : List Char :=
  layout.lead.chars ++ written layout.items

/-- The text of a layout. -/
def text (layout : Layout) : String :=
  String.ofList layout.chars

/-- A number that follows a number does not touch it. -/
def Apart (earlier later : Token × Gap) : Prop :=
  (∃ text, earlier.1 = .number text) → (∃ text, later.1 = .number text) → earlier.2.chars ≠ []

/-- There is a gap between any two neighbouring numbers. -/
def Separated (layout : Layout) : Prop :=
  layout.items.IsChain Apart

/-- The layout of no token. -/
def empty : Layout :=
  { lead := .none, items := [] }

/-- One more space character in front. -/
def indent (layout : Layout) (char : Char) (hspace : isSpace char = true) : Layout :=
  { layout with
    lead := ⟨char :: layout.lead.chars, List.forall_mem_cons.mpr ⟨hspace, layout.lead.isSpace⟩⟩ }

/-- One more token in front, with nothing before it. -/
def cons (token : Token) (layout : Layout) : Layout :=
  { lead := .none, items := (token, layout.lead) :: layout.items }

@[simp] theorem tokens_indent (layout : Layout) (char : Char) (hspace : isSpace char = true) :
    (layout.indent char hspace).tokens = layout.tokens := rfl

@[simp] theorem chars_indent (layout : Layout) (char : Char) (hspace : isSpace char = true) :
    (layout.indent char hspace).chars = char :: layout.chars := rfl

@[simp] theorem tokens_cons (token : Token) (layout : Layout) :
    (layout.cons token).tokens = token :: layout.tokens := rfl

@[simp] theorem chars_cons (token : Token) (layout : Layout) :
    (layout.cons token).chars = token.text.toList ++ layout.chars := by
  simp [cons, chars, Gap.none]

/-- A token in front is apart from the next one when that is not a number, or
does not follow at once. -/
theorem separated_cons {token : Token} {layout : Layout} (hseparated : layout.Separated)
    (hnext : (∃ text, token = .number text) → layout.lead.chars = [] →
      ∀ text, layout.tokens.head? ≠ some (.number text)) : (layout.cons token).Separated := by
  refine List.isChain_cons.mpr ⟨?_, hseparated⟩
  rintro next hmem hnumber ⟨text, htext⟩ htouch
  refine hnext hnumber htouch text ?_
  rw [tokens, List.head?_map, Option.mem_def.mp hmem, Option.map_some, htext]

/-- Tokens with one space between neighbours. -/
def spacedItems : List Token → List (Token × Gap)
  | [] => []
  | [token] => [(token, .none)]
  | token :: next :: rest => (token, .blank) :: spacedItems (next :: rest)

/-- The layout of a listing. -/
def spaced (tokens : List Token) : Layout :=
  { lead := .none, items := spacedItems tokens }

@[simp] theorem tokens_spaced (listed : List Token) : (spaced listed).tokens = listed := by
  rw [tokens, spaced]
  induction listed using spacedItems.induct with
  | case1 => rfl
  | case2 => rfl
  | case3 token next rest ih => rw [spacedItems, List.map_cons, ih]

theorem text_spaced (listed : List Token) : (spaced listed).text = listing listed := by
  rw [text, listing, chars, spaced, Gap.none, List.nil_append]
  congr 1
  induction listed using spacedItems.induct with
  | case1 => rfl
  | case2 token => simp [spacedItems, Gap.none, List.intercalate]
  | case3 token next rest ih =>
      rw [spacedItems, written_cons, ih]
      simp [Gap.blank, Gap.single, List.intercalate]

theorem separated_spaced (listed : List Token) : (spaced listed).Separated := by
  rw [Separated, spaced]
  induction listed using spacedItems.induct with
  | case1 => exact List.IsChain.nil
  | case2 token => exact List.IsChain.singleton _
  | case3 token next rest ih =>
      rw [spacedItems, List.isChain_cons]
      exact ⟨fun _ _ _ _ => List.cons_ne_nil _ _, ih⟩

end Layout

/-! ## The scanner's order -/

namespace Token

/-- A token that can be scanned where a sign is admitted or not. -/
def Fits (signed : Bool) (token : Token) : Prop :=
  token.IsLexeme ∧ (token.IsSigned → signed = true) ∧ (token = .operator '-' → signed = false)

theorem admitsSign_eq_true_iff (token : Token) :
    token.admitsSign = true ↔ (∃ symbol, token = .operator symbol) ∨ token = .paren '(' := by
  cases token <;> simp [admitsSign]

theorem admitsSign_eq_false_iff {token : Token} (hlexeme : token.IsLexeme) :
    token.admitsSign = false ↔ (∃ text, token = .number text) ∨ token = .paren ')' := by
  cases token with
  | number text => simp [admitsSign]
  | operator symbol => simp [admitsSign]
  | paren symbol => rcases hlexeme with rfl | rfl <;> simp [admitsSign]

/-- What may follow a token is what fits after it. -/
theorem fits_admitsSign_iff {earlier later : Token} (hearlier : earlier.IsLexeme)
    (hlater : later.IsLexeme) : later.Fits earlier.admitsSign ↔ earlier.MayPrecede later := by
  rw [Fits, MayPrecede, admitsSign_eq_true_iff, admitsSign_eq_false_iff hearlier]
  exact and_iff_right hlater

end Token

/-- Token lists that can be scanned from where a sign is admitted or not. -/
def Readable (signed : Bool) : List Token → Prop
  | [] => True
  | token :: rest => token.Fits signed ∧ Readable token.admitsSign rest

@[simp] theorem readable_nil (signed : Bool) : Readable signed [] := trivial

@[simp] theorem readable_cons (signed : Bool) (token : Token) (rest : List Token) :
    Readable signed (token :: rest) ↔ token.Fits signed ∧ Readable token.admitsSign rest := Iff.rfl

theorem readable_iff_isChain (signed : Bool) (tokens : List Token) :
    Readable signed tokens ↔ (∀ token ∈ tokens, token.IsLexeme) ∧
      (∀ token ∈ tokens.head?, token.Fits signed) ∧ tokens.IsChain MayPrecede := by
  induction tokens generalizing signed with
  | nil => simp
  | cons token rest ih =>
      rw [readable_cons, ih, List.isChain_cons, List.forall_mem_cons]
      constructor
      · rintro ⟨hfits, hlexemes, hhead, hchain⟩
        refine ⟨⟨hfits.1, hlexemes⟩, by simpa using hfits, ?_, hchain⟩
        intro next hnext
        exact (fits_admitsSign_iff hfits.1 (hlexemes next (List.mem_of_mem_head? hnext))).mp
          (hhead next hnext)
      · rintro ⟨⟨hlexeme, hlexemes⟩, hhead, hnext, hchain⟩
        refine ⟨hhead token rfl, hlexemes, ?_, hchain⟩
        intro next hmem
        exact (fits_admitsSign_iff hlexeme (hlexemes next (List.mem_of_mem_head? hmem))).mpr
          (hnext next hmem)

/-- The scanner starts where a sign is admitted. -/
theorem readable_iff (tokens : List Token) :
    Readable true tokens ↔ LexicallyWellFormed tokens := by
  rw [readable_iff_isChain]
  constructor
  · rintro ⟨hlexemes, hhead, hchain⟩
    refine ⟨hlexemes, ?_, hchain⟩
    intro hfirst
    have hfits := hhead _ hfirst
    exact absurd (hfits.2.2 rfl) (by simp)
  · rintro ⟨hlexemes, hfirst, hchain⟩
    refine ⟨hlexemes, ?_, hchain⟩
    intro token hmem
    refine ⟨hlexemes token (List.mem_of_mem_head? hmem), fun _ => rfl, ?_⟩
    rintro rfl
    exact absurd hmem hfirst

end CipherCalc.Expr
