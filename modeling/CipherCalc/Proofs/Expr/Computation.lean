import CipherCalc.Proofs.Expr.ValueStack
import Mathlib.Data.List.Forall2

/-!
# What a postfix list computes

A postfix list has a value just when it lists a computation, operands before
their operator, that nothing is wrong with (`value_iff_computation`).  Such a
computation is a binary tree; what it yields is given by rules that know neither
stacks nor errors (`Computation.Yields`).

Before that, and up to the token at which evaluation fails, the list is a row of
such computations, whose values are the stack (`IsForest`).  So the stack can be
read off the list, and the error is the one for which the next token is refused
there (`Refuses`).

A list has only one such reading, whatever it is worth: computations can be
collected from their listing, by joining the last two at every operator
(`Computation.afterToken`), and are then those that were listed.
-/

namespace CipherCalc.Expr

/-- A number, or an operation on two operands. -/
inductive Computation where
  | number (text : String)
  | operation (symbol : Char) (left right : Computation)

namespace Computation

/-- The tokens of a computation, operands before their operator. -/
def postorder : Computation → List Token
  | .number text => [.number text]
  | .operation symbol left right => left.postorder ++ right.postorder ++ [.operator symbol]

end Computation

/-! ## There is only one reading -/

namespace Computation

/-- The computations that have been read, the latest first, after one more
token. -/
def afterToken (pending : List Computation) : Token → List Computation
  | .number text => .number text :: pending
  | .operator symbol =>
      match pending with
      | right :: left :: below => .operation symbol left right :: below
      | few => few
  | .paren _ => pending

theorem foldl_afterToken_postorder (tree : Computation) (pending : List Computation) :
    tree.postorder.foldl afterToken pending = tree :: pending := by
  induction tree generalizing pending with
  | number text => rfl
  | operation symbol left right ihleft ihright =>
      rw [postorder, List.foldl_append, List.foldl_append, ihleft, ihright]
      rfl

theorem foldl_afterToken_flatMap (row pending : List Computation) :
    (row.flatMap postorder).foldl afterToken pending = row.reverse ++ pending := by
  induction row generalizing pending with
  | nil => rfl
  | cons tree rest ih =>
      rw [List.flatMap_cons, List.foldl_append, foldl_afterToken_postorder, ih,
        List.reverse_cons, List.append_assoc, List.singleton_append]

end Computation

/-- A row of computations is listed by no other row. -/
theorem flatMap_postorder_inj {first second : List Computation} :
    first.flatMap Computation.postorder = second.flatMap Computation.postorder ↔
      first = second := by
  constructor
  · intro hlisting
    have hreverse := Computation.foldl_afterToken_flatMap first []
    rw [hlisting, Computation.foldl_afterToken_flatMap, List.append_nil, List.append_nil]
      at hreverse
    exact (List.reverse_inj.mp hreverse).symm
  · intro hrow
    rw [hrow]

/-! ## What is computed -/

section Yields

variable {α : Type} [Arithmetic α]

/-- What the four operations give; a division needs a divisor that is not zero. -/
inductive Operates : Char → α → α → α → Prop
  | add (left right : α) : Operates '+' left right (Arithmetic.add left right)
  | sub (left right : α) : Operates '-' left right (Arithmetic.sub left right)
  | mul (left right : α) : Operates '*' left right (Arithmetic.mul left right)
  | div (left right : α) (hdivisor : Arithmetic.isZero right = false) :
      Operates '/' left right (Arithmetic.div left right)

/-- The number that a computation arrives at. -/
inductive Computation.Yields : Computation → α → Prop
  | number {text : String} {result : α} (hread : Arithmetic.read? text = some result) :
      Yields (.number text) result
  | operation {symbol : Char} {left right : Computation} {leftResult rightResult result : α}
      (hleft : Yields left leftResult) (hright : Yields right rightResult)
      (hoperates : Operates symbol leftResult rightResult result) :
      Yields (.operation symbol left right) result

/-- Computations, the latest first, that are listed one after the other and
yield the values. -/
structure IsForest (pending : List Computation) (tokens : List Token) (values : List α) :
    Prop where
  listing : pending.reverse.flatMap Computation.postorder = tokens
  yields : List.Forall₂ Computation.Yields pending values

/-- Why a token cannot be read over the values of what is pending, the latest
first. -/
inductive Refuses : List α → Token → Error → Prop
  | unreadable {values : List α} {text : String}
      (hread : (Arithmetic.read? text : Option α) = none) :
      Refuses values (.number text) (.malformedNumber text)
  | paren {values : List α} {symbol : Char} :
      Refuses values (.paren symbol) .malformedExpression
  | operandMissing {values : List α} {symbol : Char} (hfew : values.length < 2) :
      Refuses values (.operator symbol) .malformedExpression
  | unknown {right left : α} {below : List α} {symbol : Char}
      (hsymbol : symbol ∉ ['+', '-', '*', '/']) :
      Refuses (right :: left :: below) (.operator symbol) .malformedExpression
  | zeroDivisor {right left : α} {below : List α} (hzero : Arithmetic.isZero right = true) :
      Refuses (right :: left :: below) (.operator '/') .divisionByZero

theorem apply_eq_ok_iff {symbol : Char} {left right result : α} :
    apply symbol left right = .ok result ↔ Operates symbol left right result := by
  constructor
  · intro happly
    unfold apply at happly
    split at happly
    · obtain rfl := Except.ok.inj happly
      exact .add left right
    · obtain rfl := Except.ok.inj happly
      exact .sub left right
    · obtain rfl := Except.ok.inj happly
      exact .mul left right
    · split at happly
      · simp at happly
      · next hdivisor =>
          obtain rfl := Except.ok.inj happly
          exact .div left right (by simpa using hdivisor)
    · simp at happly
  · intro hoperates
    cases hoperates with
    | add => rfl
    | sub => rfl
    | mul => rfl
    | div _ _ hdivisor => simp [apply, hdivisor]

theorem apply_eq_error_iff {symbol : Char} {left right : α} {error : Error} :
    apply symbol left right = .error error ↔
      (symbol = '/' ∧ Arithmetic.isZero right = true ∧ error = .divisionByZero) ∨
        (symbol ∉ ['+', '-', '*', '/'] ∧ error = .malformedExpression) := by
  unfold apply
  split
  · simp
  · simp
  · simp
  · cases Arithmetic.isZero right with
    | false => simp
    | true => simpa using eq_comm
  · next hadd hsub hmul hdiv =>
      have hunknown : symbol ∉ ['+', '-', '*', '/'] := by
        simpa using ⟨hadd, hsub, hmul, hdiv⟩
      constructor
      · intro herror
        exact Or.inr ⟨hunknown, (Except.error.inj herror).symm⟩
      · rintro (⟨hslash, -⟩ | ⟨-, rfl⟩)
        · exact absurd hslash hdiv
        · rfl

/-! ## Evaluation reads computations -/

/-- Whatever is on the stack stays below the result. -/
theorem stack_postorder {tree : Computation} {result : α} (hyields : tree.Yields result)
    (below : List α) : Postfix.stack below tree.postorder = .ok (result :: below) := by
  induction hyields generalizing below with
  | number hread => simp [Computation.postorder, Postfix.stack, Postfix.push, hread]
  | operation hleft hright hoperates ihleft ihright =>
      have happly := apply_eq_ok_iff.mpr hoperates
      rw [Computation.postorder, Postfix.stack_append, Postfix.stack_append, ihleft, Except.bind,
        ihright]
      simp [Except.bind, Postfix.stack, Postfix.push, happly, Except.map]

theorem isForest_nil : IsForest [] [] ([] : List α) :=
  ⟨rfl, .nil⟩

theorem IsForest.stack_eq {pending : List Computation} {tokens : List Token} {values : List α}
    (hforest : IsForest pending tokens values) : Postfix.stack [] tokens = .ok values := by
  obtain ⟨rfl, hyields⟩ := hforest
  induction hyields with
  | nil => rfl
  | cons htree _ ih =>
      rw [List.reverse_cons, List.flatMap_append, Postfix.stack_append, ih, Except.bind,
        List.flatMap_singleton]
      exact stack_postorder htree _

/-- A token that is read adds a computation to the row, or joins the last two. -/
theorem IsForest.push {pending : List Computation} {read : List Token} {token : Token}
    {values next : List α} (hforest : IsForest pending read values)
    (hpush : Postfix.push values token = .ok next) :
    ∃ pending, IsForest pending (read ++ [token]) next := by
  obtain ⟨rfl, hyields⟩ := hforest
  rcases Postfix.push_eq_ok hpush with
    ⟨text, value, rfl, hread, rfl⟩ | ⟨symbol, left, right, below, result, rfl, rfl, happly, rfl⟩
  · refine ⟨.number text :: pending, ?_, .cons (.number hread) hyields⟩
    simp [Computation.postorder]
  · obtain ⟨rightTree, rest, hright, hrest, rfl⟩ := List.forall₂_cons_right_iff.mp hyields
    obtain ⟨leftTree, row, hleft, hrow, rfl⟩ := List.forall₂_cons_right_iff.mp hrest
    have hoperates := apply_eq_ok_iff.mp happly
    refine ⟨.operation symbol leftTree rightTree :: row, ?_,
      .cons (.operation hleft hright hoperates) hrow⟩
    simp [Computation.postorder]

theorem IsForest.run {pending : List Computation} {read tokens : List Token}
    {values final : List α} (hforest : IsForest pending read values)
    (hstack : Postfix.stack values tokens = .ok final) :
    ∃ pending, IsForest pending (read ++ tokens) final := by
  induction tokens generalizing pending read values with
  | nil =>
      obtain rfl := Except.ok.inj hstack
      exact ⟨pending, by rwa [List.append_nil]⟩
  | cons token rest ih =>
      obtain ⟨next, hpush, hstack⟩ := Postfix.stack_cons_eq_ok_iff.mp hstack
      obtain ⟨_, hnext⟩ := hforest.push hpush
      have hfinal := ih hnext hstack
      rwa [List.append_assoc, List.singleton_append] at hfinal

theorem IsForest.unique {first second : List Computation} {tokens : List Token}
    {values others : List α} (hfirst : IsForest first tokens values)
    (hsecond : IsForest second tokens others) : first = second :=
  List.reverse_inj.mp (flatMap_postorder_inj.mp (hfirst.listing.trans hsecond.listing.symm))

theorem stack_eq_ok_iff {tokens : List Token} {values : List α} :
    Postfix.stack [] tokens = .ok values ↔ ∃! pending, IsForest pending tokens values := by
  constructor
  · intro hstack
    obtain ⟨pending, hforest⟩ := isForest_nil.run hstack
    exact ⟨pending, hforest, fun other hother => hother.unique hforest⟩
  · rintro ⟨pending, hforest, -⟩
    exact hforest.stack_eq

/-- A row of one computation. -/
theorem isForest_singleton_iff {pending : List Computation} {tokens : List Token} {result : α} :
    IsForest pending tokens [result] ↔
      ∃ tree : Computation, pending = [tree] ∧ tree.postorder = tokens ∧ tree.Yields result := by
  constructor
  · rintro ⟨rfl, hyields⟩
    obtain ⟨tree, rest, htree, hrest, rfl⟩ := List.forall₂_cons_right_iff.mp hyields
    obtain rfl := List.forall₂_nil_right_iff.mp hrest
    exact ⟨tree, rfl, by simp, htree⟩
  · rintro ⟨tree, rfl, rfl, htree⟩
    exact ⟨by simp, .cons htree .nil⟩

theorem value_eq_ok_iff_existsUnique {tokens : List Token} {result : α} :
    Postfix.value tokens = .ok result ↔
      ∃! tree : Computation, tree.postorder = tokens ∧ tree.Yields result := by
  rw [Postfix.value_eq_ok_iff, stack_eq_ok_iff]
  constructor
  · rintro ⟨pending, hforest, hunique⟩
    obtain ⟨tree, rfl, htree⟩ := isForest_singleton_iff.mp hforest
    refine ⟨tree, htree, fun other hother => ?_⟩
    have hsame := hunique [other] (isForest_singleton_iff.mpr ⟨other, rfl, hother⟩)
    exact (List.cons.inj hsame).1
  · rintro ⟨tree, htree, -⟩
    have hforest := isForest_singleton_iff.mpr ⟨tree, rfl, htree⟩
    exact ⟨[tree], hforest, fun other hother => hother.unique hforest⟩

/-! ## The first error -/

theorem push_eq_error_iff {values : List α} {token : Token} {error : Error} :
    Postfix.push values token = .error error ↔ Refuses values token error := by
  constructor
  · intro hpush
    cases token with
    | number text =>
        cases hread : (Arithmetic.read? text : Option α) with
        | none =>
            simp only [Postfix.push, hread, Except.error.injEq] at hpush
            exact hpush ▸ .unreadable hread
        | some value => simp [Postfix.push, hread] at hpush
    | operator symbol =>
        rcases values with _ | ⟨right, _ | ⟨left, below⟩⟩
        · obtain rfl := Except.error.inj hpush
          exact .operandMissing (by simp)
        · obtain rfl := Except.error.inj hpush
          exact .operandMissing (by simp)
        · have happly := Fallible.map_eq_error_iff.mp hpush
          rcases apply_eq_error_iff.mp happly with ⟨rfl, hzero, rfl⟩ | ⟨hsymbol, rfl⟩
          · exact .zeroDivisor hzero
          · exact .unknown hsymbol
    | paren symbol =>
        obtain rfl := Except.error.inj hpush
        exact .paren
  · intro hrefuses
    cases hrefuses with
    | unreadable hread => simp [Postfix.push, hread]
    | paren => rfl
    | operandMissing hfew =>
        rcases values with _ | ⟨right, _ | ⟨left, below⟩⟩
        · rfl
        · rfl
        · rw [List.length_cons, List.length_cons] at hfew
          omega
    | unknown hsymbol =>
        exact Fallible.map_eq_error_iff.mpr (apply_eq_error_iff.mpr (Or.inr ⟨hsymbol, rfl⟩))
    | zeroDivisor hzero =>
        exact Fallible.map_eq_error_iff.mpr (apply_eq_error_iff.mpr (Or.inl ⟨rfl, hzero, rfl⟩))

/-- Evaluation stops at the first token that cannot be read. -/
theorem stack_eq_error_iff {initial : List α} {tokens : List Token} {error : Error} :
    Postfix.stack initial tokens = .error error ↔
      ∃ before token after, tokens = before ++ token :: after ∧
        ∃ values, Postfix.stack initial before = .ok values ∧ Refuses values token error := by
  constructor
  · intro hstack
    induction tokens generalizing initial with
    | nil => simp [Postfix.stack] at hstack
    | cons token rest ih =>
        rw [Postfix.stack] at hstack
        cases hpush : Postfix.push initial token with
        | error found =>
            rw [hpush] at hstack
            obtain rfl := Except.error.inj hstack
            exact ⟨[], token, rest, rfl, initial, rfl, push_eq_error_iff.mp hpush⟩
        | ok next =>
            rw [hpush] at hstack
            obtain ⟨before, refused, after, rfl, values, hbefore, hrefuses⟩ := ih hstack
            refine ⟨token :: before, refused, after, rfl, values, ?_, hrefuses⟩
            exact Postfix.stack_cons_eq_ok_iff.mpr ⟨next, hpush, hbefore⟩
  · rintro ⟨before, token, after, rfl, values, hbefore, hrefuses⟩
    rw [Postfix.stack_append, hbefore, Except.bind, Postfix.stack, push_eq_error_iff.mpr hrefuses]

theorem value_eq_error_iff {tokens : List Token} {error : Error} :
    (Postfix.value tokens : Except Error α) = .error error ↔
      (Postfix.stack [] tokens : Except Error (List α)) = .error error ∨
        ((∃ values : List α, Postfix.stack [] tokens = .ok values ∧ values.length ≠ 1) ∧
          error = .malformedExpression) := by
  rw [Postfix.value]
  split
  · next found hstack => simp [hstack]
  · next result hstack => simp [hstack]
  · next values hvalues hstack =>
      have hlength : values.length ≠ 1 := fun hone => by
        obtain ⟨result, rfl⟩ := List.length_eq_one_iff.mp hone
        exact hvalues result rfl
      simp [hstack, hlength, eq_comm]

/-- **A postfix list is worth what the one computation that it lists yields.**
Evaluation fails with the error for which the first token that is refused is
refused, over the values of the one row of computations before it, or, if no
token is, because that row does not consist of one computation.  No two rows are
listed alike, even if they yield nothing. -/
theorem value_iff_computation (tokens : List Token) :
    (∀ result : α, Postfix.value tokens = .ok result ↔
      ∃! tree : Computation, tree.postorder = tokens ∧ tree.Yields result) ∧
    (∀ values : List α, Postfix.stack [] tokens = .ok values ↔
      ∃! pending, IsForest pending tokens values) ∧
    (∀ error, (Postfix.value tokens : Except Error α) = .error error ↔
      (∃ before token after, tokens = before ++ token :: after ∧
        ∃ values : List α, (∃! pending, IsForest pending before values) ∧
          Refuses values token error) ∨
      ((∃ values : List α, (∃! pending, IsForest pending tokens values) ∧ values.length ≠ 1) ∧
        error = .malformedExpression)) ∧
    ∀ first second : List Computation,
      first.flatMap Computation.postorder = second.flatMap Computation.postorder ↔
        first = second := by
  refine ⟨fun result => value_eq_ok_iff_existsUnique, fun values => stack_eq_ok_iff,
    fun error => ?_, fun first second => flatMap_postorder_inj⟩
  simp only [value_eq_error_iff, stack_eq_error_iff, stack_eq_ok_iff]

end Yields

end CipherCalc.Expr
