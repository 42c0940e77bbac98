import CipherCalc.Proofs.Expr.Conversion
import Mathlib.Data.List.Infix

/-!
# Which tokens can be converted, and what becomes of them

The converter fails for one reason only: the parentheses of its tokens do not
match.  Then either some prefix closes more groups than it opens, which is
noticed while reading, or a group is left open, which is noticed at the end.  In
every other case it keeps all numbers and operators, drops all parentheses, and
writes the numbers in the order in which it read them
(`ofInfix_conserves_tokens`).

What links the tokens to the state is `LeavesOpen`: the number of enclosing
groups is the number of groups that the tokens read so far leave open.  It is
stated by counting, without the state, and grows by one token at the end, which
is how the converter reads.
-/

namespace CipherCalc.Expr

/-! ## Open groups -/

/-- How many groups are opened. -/
def opens (tokens : List Token) : Nat :=
  tokens.countP Token.isOpen

/-- How many groups are closed. -/
def closes (tokens : List Token) : Nat :=
  tokens.countP Token.isClose

/-- No prefix closes more groups than it opens, and no group is left open. -/
def Balanced (tokens : List Token) : Prop :=
  (∀ before, before <+: tokens → closes before ≤ opens before) ∧ opens tokens ≤ closes tokens

instance : DecidablePred Balanced := fun tokens =>
  decidable_of_iff
    ((∀ before ∈ tokens.inits, closes before ≤ opens before) ∧ opens tokens ≤ closes tokens)
    (by simp only [Balanced, List.mem_inits])

/-- Tokens that close no group but their own, and leave `depth` of those open. -/
structure LeavesOpen (depth : Nat) (tokens : List Token) : Prop where
  closes_le : ∀ before, before <+: tokens → closes before ≤ opens before
  opens_eq : opens tokens = closes tokens + depth

theorem leavesOpen_nil : LeavesOpen 0 [] where
  closes_le before hprefix := by
    rw [List.prefix_nil.mp hprefix]
    exact Nat.le_refl _
  opens_eq := rfl

theorem LeavesOpen.balanced_iff {depth : Nat} {tokens : List Token}
    (hopen : LeavesOpen depth tokens) : Balanced tokens ↔ depth = 0 := by
  have hcount := hopen.opens_eq
  constructor
  · rintro ⟨-, hclosed⟩
    omega
  · intro hdepth
    exact ⟨hopen.closes_le, by omega⟩

theorem opens_append (first second : List Token) :
    opens (first ++ second) = opens first + opens second :=
  List.countP_append ..

theorem opens_map_operator (group : List Char) : opens (group.map Token.operator) = 0 := by
  simp [opens]

theorem opens_concat (tokens : List Token) (token : Token) :
    opens (tokens ++ [token]) = opens tokens + token.isOpen.toNat := by
  rw [opens, List.countP_append]
  cases hopen : token.isOpen <;> simp [opens, hopen]

theorem closes_concat (tokens : List Token) (token : Token) :
    closes (tokens ++ [token]) = closes tokens + token.isClose.toNat := by
  rw [closes, List.countP_append]
  cases hclose : token.isClose <;> simp [closes, hclose]

/-- Only the last token decides how many groups more are left open. -/
theorem LeavesOpen.concat {depth next : Nat} {tokens : List Token} {token : Token}
    (hopen : LeavesOpen depth tokens)
    (hnext : depth + token.isOpen.toNat = next + token.isClose.toNat) :
    LeavesOpen next (tokens ++ [token]) := by
  have hcount : opens (tokens ++ [token]) = closes (tokens ++ [token]) + next := by
    have hbefore := hopen.opens_eq
    rw [opens_concat, closes_concat]
    omega
  refine ⟨fun before hprefix => ?_, hcount⟩
  rcases List.prefix_concat_iff.mp hprefix with rfl | hprefix
  · omega
  · exact hopen.closes_le before hprefix

namespace Token

/-- Whether a token is a number. -/
def isNumber : Token → Bool
  | .number _ => true
  | _ => false

theorem isOpen_of_isClose {token : Token} (hclose : token.isClose = true) :
    token.isOpen = false := by
  cases token with
  | number text => rfl
  | operator symbol => rfl
  | paren symbol => simpa [isClose] using hclose

end Token

namespace Converter

theorem step_depth {state next : Converter} {token : Token} (hstep : state.step token = .ok next) :
    state.enclosing.length + token.isOpen.toNat = next.enclosing.length + token.isClose.toNat := by
  rcases step_eq_ok hstep with ⟨text, rfl, rfl⟩ | ⟨symbol, rfl, rfl⟩ | ⟨rfl, rfl⟩ |
    ⟨symbol, outer, enclosing, rfl, hclose, henclosing, rfl⟩
  · rfl
  · rfl
  · rfl
  · have hopens : (Token.paren symbol).isOpen = false := by simpa using hclose
    have hcloses : (Token.paren symbol).isClose = true := by simpa [Token.isClose] using hclose
    rw [hopens, hcloses, henclosing]
    rfl

/-- The enclosing groups are those that the tokens read so far leave open. -/
theorem leavesOpen_run {last : Converter} {tokens : List Token}
    (hrun : start.run tokens = .ok last) : LeavesOpen last.enclosing.length tokens := by
  have hstart : LeavesOpen start.enclosing.length [] := leavesOpen_nil
  exact run_induction (motive := fun read state => LeavesOpen state.enclosing.length read) []
    hstart (fun hopen hstep => hopen.concat (step_depth hstep)) hrun

/-- Reading stops at a token that closes a group where none is open. -/
theorem exists_prefix_of_run {tokens : List Token} {error : Error}
    (hrun : start.run tokens = .error error) :
    ∃ before, before <+: tokens ∧ opens before < closes before := by
  obtain ⟨before, token, after, state, rfl, hbefore, hstep⟩ := exists_step_of_run hrun
  obtain ⟨hclose, henclosing, -⟩ := step_eq_error_iff.mp hstep
  have hcount := (leavesOpen_run hbefore).opens_eq
  rw [henclosing, List.length_nil, Nat.add_zero] at hcount
  refine ⟨before ++ [token], ⟨after, by simp⟩, ?_⟩
  rw [opens_concat, closes_concat, hclose, Token.isOpen_of_isClose hclose, hcount]
  exact Nat.lt_succ_self _

end Converter

open Converter

/-- Reading goes on as long as no prefix closes more groups than it opens. -/
theorem exists_run_iff (read : List Token) :
    (∃ state, start.run read = .ok state) ↔
      ∀ before, before <+: read → closes before ≤ opens before := by
  cases hrun : start.run read with
  | error error =>
      obtain ⟨before, hprefix, hexcess⟩ := exists_prefix_of_run hrun
      simp only [reduceCtorEq, exists_false, false_iff]
      exact fun hcloses => absurd (hcloses before hprefix) (Nat.not_le_of_lt hexcess)
  | ok state => exact iff_of_true ⟨state, rfl⟩ (leavesOpen_run hrun).closes_le

/-- Exactly the tokens whose parentheses match can be converted. -/
theorem ofInfix_eq_error_iff {tokens : List Token} {error : Error} :
    Postfix.ofInfix tokens = .error error ↔
      ¬ Balanced tokens ∧ error = .mismatchedParentheses := by
  cases hrun : start.run tokens with
  | error found =>
      obtain ⟨before, hprefix, hexcess⟩ := exists_prefix_of_run hrun
      have hbalanced : ¬ Balanced tokens := fun hbalanced =>
        absurd (hbalanced.1 before hprefix) (Nat.not_le_of_lt hexcess)
      have hfound := eq_mismatchedParentheses_of_run hrun
      simp [Postfix.ofInfix, hrun, hbalanced, hfound, eq_comm]
  | ok last =>
      have hopen := leavesOpen_run hrun
      rw [hopen.balanced_iff, Postfix.ofInfix, hrun]
      cases henclosing : last.enclosing <;> simp [finish, henclosing, eq_comm]

/-! ## The order of the numbers -/

/-- The numbers among some tokens, in order. -/
def numbers (tokens : List Token) : List Token :=
  tokens.filter Token.isNumber

theorem numbers_append (first second : List Token) :
    numbers (first ++ second) = numbers first ++ numbers second :=
  List.filter_append ..

theorem numbers_map_operator (symbols : List Char) :
    numbers (symbols.map Token.operator) = [] := by
  simp [numbers, Token.isNumber]

namespace Converter

theorem numbers_step {state next : Converter} {token : Token}
    (hstep : state.step token = .ok next) :
    numbers next.output.toList = numbers state.output.toList ++ numbers [token] := by
  rcases step_eq_ok hstep with ⟨text, rfl, rfl⟩ | ⟨symbol, rfl, rfl⟩ | ⟨rfl, rfl⟩ |
    ⟨symbol, outer, enclosing, rfl, -, -, rfl⟩
  · rw [Array.toList_push, numbers_append]
  · rw [Array.toList_appendList, numbers_append, numbers_map_operator]
    rfl
  · exact (List.append_nil _).symm
  · rw [Array.toList_appendList, numbers_append, numbers_map_operator]
    rfl

theorem numbers_run {last : Converter} {tokens : List Token}
    (hrun : start.run tokens = .ok last) : numbers last.output.toList = numbers tokens := by
  have hstart : numbers start.output.toList = numbers [] := rfl
  refine run_induction (motive := fun read state => numbers state.output.toList = numbers read) []
    hstart ?_ hrun
  intro read state token next hnumbers hstep
  rw [numbers_step hstep, hnumbers, numbers_append]

end Converter

theorem numbers_of_ofInfix {tokens listing : List Token}
    (hlisting : Postfix.ofInfix tokens = .ok listing) : numbers listing = numbers tokens := by
  obtain ⟨last, hrun, -, rfl⟩ := ofInfix_eq_ok_iff.mp hlisting
  rw [numbers_append, numbers_map_operator, List.append_nil]
  exact numbers_run hrun

theorem not_paren_of_mem_withoutParens {tokens : List Token} {token : Token}
    (hmem : token ∈ withoutParens tokens) (symbol : Char) : token ≠ .paren symbol := by
  rintro rfl
  simp [withoutParens] at hmem

/-- **Conversion fails on unmatched parentheses only, and loses nothing.**  The
listing has every number and every operator of the tokens, each as often as they
do, no parenthesis, and the numbers in their order. -/
theorem ofInfix_conserves_tokens (tokens : List Token) :
    (∀ error, Postfix.ofInfix tokens = .error error ↔
      ¬ Balanced tokens ∧ error = .mismatchedParentheses) ∧
    ∀ listing, Postfix.ofInfix tokens = .ok listing →
      (∀ token ∈ listing, ∀ symbol, token ≠ .paren symbol) ∧
        listing.Perm (withoutParens tokens) ∧ numbers listing = numbers tokens := by
  refine ⟨fun error => ofInfix_eq_error_iff, fun listing hlisting => ?_⟩
  have hperm := perm_of_ofInfix hlisting
  refine ⟨fun token hmem => ?_, hperm, numbers_of_ofInfix hlisting⟩
  exact not_paren_of_mem_withoutParens (hperm.mem_iff.mp hmem)

/-- The second group of `)(` is never closed, and the first was never opened.
An operator written `(` opens nothing, and `]` closes a group. -/
theorem ofInfix_conserves_bracketed :
    (¬ Balanced [.paren ')', .paren '('] ∧
      Postfix.ofInfix [.paren ')', .paren '('] = .error .mismatchedParentheses) ∧
    Postfix.ofInfix [.number "1", .operator '(', .paren '(', .number "2", .operator '^',
        .number "3", .paren ']', .operator '*', .number "4"] =
      .ok [.number "1", .number "2", .number "3", .operator '^', .number "4", .operator '*',
        .operator '('] ∧
    List.Perm [.number "1", .number "2", .number "3", .operator '^', .number "4", .operator '*',
        .operator '(']
      (withoutParens [.number "1", .operator '(', .paren '(', .number "2", .operator '^',
        .number "3", .paren ']', .operator '*', .number "4"]) := by
  have hunmatched : ¬ Balanced [.paren ')', .paren '('] := by decide
  have hlisting : Postfix.ofInfix [.number "1", .operator '(', .paren '(', .number "2",
      .operator '^', .number "3", .paren ']', .operator '*', .number "4"] =
        .ok [.number "1", .number "2", .number "3", .operator '^', .number "4", .operator '*',
          .operator '('] := by decide +kernel
  exact ⟨⟨hunmatched, ((ofInfix_conserves_tokens _).1 _).mpr ⟨hunmatched, rfl⟩⟩, hlisting,
    ((ofInfix_conserves_tokens _).2 _ hlisting).2.1⟩

end CipherCalc.Expr
