import CipherCalc.Proofs.Expr.Message
import CipherCalc.Proofs.Text.Runs

/-!
# All groups on one stack

The converter keeps a list of waiting operators for each group that is open.  A
single stack does as well, on which the operators of a group lie above the `(`
that opened it: an operator takes off the operators on top that it releases, and
the end of a group takes off everything down to the nearest `(`.  The two
conversions agree after every token and at the end, errors included (`run_stacked`,
`ofInfix_eq_run_bind_finish`).

Three things hold of the stack and the output whenever a token has been read
(`IsOperatorStack`).

* **Ascent.**  Between two neighbouring `(` the operators bind more tightly the
  later they came.
* **Depth.**  There are as many `(` on the stack as groups are open.
* **Conservation.**  Every number and every operator that was read is written or
  lies on the stack, exactly once.

Scanned operators bind in two ways only, so ascent leaves room for two of them in
each group, and depth bounds the height of the whole stack
(`run_operatorStack`).
-/

namespace CipherCalc.Expr

/-! ## The conversion on one stack -/

/-- Whether the top of the stack is an operator that is applied before a new one. -/
def isReleasedBy (symbol : Char) : Token → Bool
  | .operator earlier => Converter.yieldsTo symbol earlier
  | _ => false

/-- A conversion under way that has all groups on one stack. -/
structure StackConverter where
  /-- The tokens written so far. -/
  output : List Token
  /-- The operators that wait and the parentheses that are open, the latest first. -/
  stack : List Token
  deriving DecidableEq

namespace StackConverter

/-- Before the first token. -/
def start : StackConverter :=
  { output := [], stack := [] }

/-- Reads one token; a group can only be closed when one is open. -/
def step (state : StackConverter) : Token → Except Error StackConverter
  | .number text => .ok { state with output := state.output ++ [.number text] }
  | .operator symbol =>
      .ok {
        output := state.output ++ state.stack.takeWhile (isReleasedBy symbol)
        stack := .operator symbol :: state.stack.dropWhile (isReleasedBy symbol) }
  | .paren symbol =>
      if symbol = '(' then .ok { state with stack := .paren '(' :: state.stack }
      else
        match state.stack.dropWhile (!·.isOpen) with
        | [] => .error .mismatchedParentheses
        | _ :: below =>
            .ok {
              output := state.output ++ state.stack.takeWhile (!·.isOpen)
              stack := below }

/-- Reads tokens up to the first that cannot be placed. -/
def run (state : StackConverter) : List Token → Except Error StackConverter
  | [] => .ok state
  | token :: rest =>
      match state.step token with
      | .error error => .error error
      | .ok next => next.run rest

/-- Takes off all that is on the stack at the end; no group may be open there. -/
def finish (state : StackConverter) : Except Error (List Token) :=
  if state.stack.any Token.isOpen then .error .mismatchedParentheses
  else .ok (state.output ++ state.stack)

end StackConverter

namespace Converter

/-- The groups around an open one, the innermost first, and above each the `(` that
was opened in it. -/
def enclosed : List (List Char) → List Token
  | [] => []
  | group :: groups => .paren '(' :: (group.map Token.operator ++ enclosed groups)

/-- The operators of all groups on one stack, the latest first, each group above the
`(` that opened it. -/
def stack (state : Converter) : List Token :=
  state.waiting.map Token.operator ++ enclosed state.enclosing

/-- The state with all groups on one stack. -/
def stacked (state : Converter) : StackConverter :=
  { output := state.output.toList, stack := state.stack }

theorem eq_open_of_head_enclosed {groups : List (List Char)} {entry : Token}
    (hentry : entry ∈ (enclosed groups).head?) : entry = .paren '(' := by
  cases groups with
  | nil => simp [enclosed] at hentry
  | cons group groups => simpa [enclosed, eq_comm] using hentry

/-- On the stack an operator releases what it releases in its own group, since the
`(` of that group stops it. -/
theorem split_stack_releasedBy (state : Converter) (symbol : Char) :
    state.stack.takeWhile (isReleasedBy symbol) =
        (state.waiting.takeWhile (yieldsTo symbol)).map Token.operator ∧
      state.stack.dropWhile (isReleasedBy symbol) =
        (state.waiting.dropWhile (yieldsTo symbol)).map Token.operator ++
          enclosed state.enclosing := by
  have hoperators : isReleasedBy symbol ∘ Token.operator = yieldsTo symbol := rfl
  have hstop : ∀ entry ∈ (enclosed state.enclosing).head?, isReleasedBy symbol entry = false :=
    fun entry hentry => by rw [eq_open_of_head_enclosed hentry]; rfl
  rw [← hoperators, ← List.takeWhile_map, ← List.dropWhile_map]
  exact Text.takeWhile_append_of_stop _ hstop

/-- What lies above the nearest `(` is the innermost group. -/
theorem split_stack_open (state : Converter) :
    state.stack.takeWhile (!·.isOpen) = state.waiting.map Token.operator ∧
      state.stack.dropWhile (!·.isOpen) = enclosed state.enclosing :=
  Text.takeWhile_run_append (by simp) fun entry hentry => by
    rw [eq_open_of_head_enclosed hentry]
    rfl

/-- Reading one token on the stack is reading it in the groups. -/
theorem step_stacked (state : Converter) (token : Token) :
    state.stacked.step token = (state.step token).map stacked := by
  cases token with
  | number text => simp [StackConverter.step, step, stacked, stack, Except.map]
  | operator symbol =>
      obtain ⟨hreleased, hkept⟩ := state.split_stack_releasedBy symbol
      simp only [StackConverter.step, stacked, hreleased, hkept]
      simp [step, stack, stacked, Except.map]
  | paren symbol =>
      by_cases hopen : symbol = '('
      · simp [StackConverter.step, step, stacked, stack, enclosed, hopen, Except.map]
      · obtain ⟨habove, hbelow⟩ := state.split_stack_open
        simp only [StackConverter.step, stacked, if_neg hopen, habove, hbelow]
        cases henclosing : state.enclosing with
        | nil => simp [step, enclosed, hopen, henclosing, Except.map]
        | cons outer enclosing =>
            simp [step, enclosed, hopen, henclosing, stack, stacked, Except.map]

theorem run_stacked (state : Converter) (tokens : List Token) :
    state.stacked.run tokens = (state.run tokens).map stacked := by
  induction tokens generalizing state with
  | nil => rfl
  | cons token rest ih =>
      rw [StackConverter.run, run, step_stacked]
      cases state.step token with
      | error error => rfl
      | ok next => exact ih next

theorem finish_stacked (state : Converter) : state.stacked.finish = state.finish := by
  cases henclosing : state.enclosing with
  | nil => simp [StackConverter.finish, finish, stacked, stack, enclosed, henclosing]
  | cons outer enclosing =>
      simp [StackConverter.finish, finish, stacked, stack, enclosed, henclosing]

end Converter

/-- **One stack does for all groups.** -/
theorem ofInfix_eq_run_bind_finish (tokens : List Token) :
    Postfix.ofInfix tokens = (StackConverter.start.run tokens).bind StackConverter.finish := by
  have hrun : StackConverter.start.run tokens =
      (Converter.start.run tokens).map Converter.stacked := Converter.start.run_stacked tokens
  rw [hrun, Postfix.ofInfix]
  cases Converter.start.run tokens with
  | error error => rfl
  | ok last => exact last.finish_stacked.symm

/-! ## What lies on the stack -/

/-- What the output and the stack of a conversion have of the tokens read so far. -/
structure IsOperatorStack (read : List Token) (state : StackConverter) : Prop where
  entries : ∀ entry ∈ state.stack, entry = .paren '(' ∨ ∃ symbol, entry = .operator symbol
  /-- Operators with no `(` between them bind more tightly the later they came. -/
  ascending : ∀ segment : List Char, segment.map Token.operator <:+: state.stack →
    segment.Pairwise fun later earlier => precedence earlier < precedence later
  /-- For every group that is open there is a `(`. -/
  opens_eq : opens read = closes read + opens state.stack
  /-- Nothing but parentheses is lost, and nothing is doubled. -/
  perm : (state.output ++ withoutParens state.stack).Perm (withoutParens read)

/-- A part of a list that avoids a member lies on one side of it. -/
theorem infix_or_infix_of_not_mem {α : Type} {item : α} {part first second : List α}
    (hitem : item ∉ part) (hpart : part <:+: first ++ item :: second) :
    part <:+: first ∨ part <:+: second := by
  have hempty {front : List α} (hfront : item ∉ front) (h : front <+: item :: second) :
      front = [] := by
    rcases List.prefix_cons_iff.mp h with rfl | ⟨rest, rfl, -⟩
    · rfl
    · exact absurd List.mem_cons_self hfront
  rcases List.infix_append_iff.mp hpart with h | h | ⟨front, back, rfl, hfront, hback⟩
  · exact Or.inl h
  · rcases List.infix_cons_iff.mp h with h | h
    · rw [hempty hitem h]
      exact Or.inl List.nil_infix
    · exact Or.inr h
  · rw [hempty (fun hmem => hitem (List.mem_append_right front hmem)) hback, List.append_nil]
    exact Or.inl hfront.isInfix

namespace Converter

theorem pairwise_of_infix_map {R : Char → Char → Prop} {group segment : List Char}
    (hgroup : group.Pairwise R)
    (hsegment : segment.map Token.operator <:+: group.map Token.operator) :
    segment.Pairwise R := by
  have hinjective : Function.Injective Token.operator := fun _ _ => Token.operator.inj
  obtain ⟨part, hpart, heq⟩ := List.infix_map_iff.mp hsegment
  obtain rfl := List.map_injective_iff.mpr hinjective heq
  exact hgroup.sublist hpart.sublist

/-- Operators that follow one another on the stack wait in the same group. -/
theorem Ascending.pairwise {state : Converter} (hascending : state.Ascending)
    {segment : List Char} (hsegment : segment.map Token.operator <:+: state.stack) :
    segment.Pairwise fun later earlier => precedence earlier < precedence later := by
  obtain ⟨output, waiting, enclosing⟩ := state
  obtain ⟨hwaiting, hgroups⟩ := List.forall_mem_cons.mp hascending
  induction enclosing generalizing waiting with
  | nil =>
      rw [stack, enclosed, List.append_nil] at hsegment
      exact pairwise_of_infix_map hwaiting hsegment
  | cons outer enclosing ih =>
      have hparen : Token.paren '(' ∉ segment.map Token.operator := by simp
      rcases infix_or_infix_of_not_mem hparen hsegment with hsegment | hsegment
      · exact pairwise_of_infix_map hwaiting hsegment
      · obtain ⟨houter, henclosing⟩ := List.forall_mem_cons.mp hgroups
        exact ih outer hgroups hsegment houter henclosing

theorem opens_enclosed (groups : List (List Char)) : opens (enclosed groups) = groups.length := by
  induction groups with
  | nil => rfl
  | cons group groups ih =>
      have hopen : opens (enclosed (group :: groups)) =
          opens (group.map Token.operator ++ enclosed groups) + 1 := List.countP_cons_of_pos rfl
      rw [hopen, opens_append, opens_map_operator, ih, Nat.zero_add, List.length_cons]

theorem opens_stack (state : Converter) : opens state.stack = state.enclosing.length := by
  rw [stack, opens_append, opens_map_operator, opens_enclosed, Nat.zero_add]

theorem withoutParens_enclosed (groups : List (List Char)) :
    withoutParens (enclosed groups) = groups.flatten.map Token.operator := by
  induction groups with
  | nil => rfl
  | cons group groups ih =>
      have hopen : withoutParens (enclosed (group :: groups)) =
          withoutParens (group.map Token.operator ++ enclosed groups) := rfl
      rw [hopen, withoutParens_append, withoutParens_map_operator, ih, List.flatten_cons,
        List.map_append]

/-- What a state has kept is its output and what lies on the stack. -/
theorem held_eq (state : Converter) :
    state.held = state.output.toList ++ withoutParens state.stack := by
  rw [held, stack, withoutParens_append, withoutParens_map_operator, withoutParens_enclosed,
    List.map_append]

theorem eq_open_or_operator_of_mem_enclosed {groups : List (List Char)} {entry : Token}
    (hentry : entry ∈ enclosed groups) :
    entry = .paren '(' ∨ ∃ symbol, entry = .operator symbol := by
  induction groups with
  | nil => simp [enclosed] at hentry
  | cons group groups ih =>
      rcases List.mem_cons.mp hentry with rfl | hentry
      · exact Or.inl rfl
      · rcases List.mem_append.mp hentry with hentry | hentry
        · obtain ⟨symbol, -, rfl⟩ := List.mem_map.mp hentry
          exact Or.inr ⟨symbol, rfl⟩
        · exact ih hentry

theorem isOperatorStack_run {state : Converter} {read : List Token}
    (hrun : start.run read = .ok state) : IsOperatorStack read state.stacked where
  entries entry hentry := by
    -- below one more `(` the innermost group is a group like all others
    have hmem : entry ∈ enclosed (state.waiting :: state.enclosing) :=
      List.mem_cons_of_mem _ hentry
    exact eq_open_or_operator_of_mem_enclosed hmem
  ascending segment hsegment := (ascending_run hrun).pairwise hsegment
  opens_eq := by
    rw [stacked, opens_stack]
    exact (leavesOpen_run hrun).opens_eq
  perm := by
    have hheld := held_run hrun
    rw [held_eq] at hheld
    exact hheld

/-! ## Height -/

/-- Operators that bind ever more tightly are no more than there are precedences. -/
theorem length_le_of_ascending {group : List Char} {precedences : List Nat}
    (hgroup : group.Pairwise fun later earlier => precedence earlier < precedence later)
    (hmem : ∀ symbol ∈ group, precedence symbol ∈ precedences) :
    group.length ≤ precedences.length := by
  have hnodup : (group.map precedence).Nodup :=
    List.pairwise_map.mpr (hgroup.imp Nat.ne_of_gt)
  have hsubset : group.map precedence ⊆ precedences := by
    intro value hvalue
    obtain ⟨symbol, hsymbol, rfl⟩ := List.mem_map.mp hvalue
    exact hmem symbol hsymbol
  simpa using (List.subperm_of_subset hnodup hsubset).length_le

theorem length_enclosed_le {bound : Nat} {groups : List (List Char)}
    (hgroups : ∀ group ∈ groups, group.length ≤ bound) :
    (enclosed groups).length ≤ (bound + 1) * groups.length := by
  induction groups with
  | nil => exact Nat.le_refl _
  | cons group groups ih =>
      obtain ⟨hgroup, hgroups⟩ := List.forall_mem_cons.mp hgroups
      have hrest := ih hgroups
      rw [enclosed, List.length_cons, List.length_append, List.length_map, List.length_cons,
        Nat.mul_succ]
      omega

theorem length_stack_le {state : Converter} {bound : Nat}
    (hgroups : ∀ group ∈ state.waiting :: state.enclosing, group.length ≤ bound) :
    state.stack.length ≤ (bound + 1) * state.enclosing.length + bound := by
  obtain ⟨hwaiting, hgroups⟩ := List.forall_mem_cons.mp hgroups
  have henclosed := length_enclosed_le hgroups
  rw [stack, List.length_append, List.length_map]
  omega

/-- Every operator that waits has been read. -/
theorem operator_mem_of_run {state : Converter} {read : List Token}
    (hrun : start.run read = .ok state) {group : List Char}
    (hgroup : group ∈ state.waiting :: state.enclosing) {symbol : Char} (hsymbol : symbol ∈ group) :
    .operator symbol ∈ read := by
  have hheld : Token.operator symbol ∈ state.held := by
    have hflat : symbol ∈ state.waiting ++ state.enclosing.flatten :=
      List.mem_flatten.mpr ⟨group, hgroup, hsymbol⟩
    exact List.mem_append_right _ (List.mem_map_of_mem hflat)
  exact List.mem_of_mem_filter ((held_run hrun).mem_iff.mp hheld)

end Converter

theorem precedence_mem_of_isLexeme {symbol : Char} (hlexeme : (Token.operator symbol).IsLexeme) :
    precedence symbol ∈ [1, 2] := by
  rcases hlexeme with rfl | rfl | rfl | rfl <;> decide

open Converter

/-- **What lies on the stack.**  Tokens are read until one closes a group that is
not open, on one stack and in groups alike.  Up to there the stack holds what has
been read and not been written, and for scanned tokens it has at most three entries
for each open group and two more. -/
theorem run_operatorStack (read : List Token) :
    StackConverter.start.run read = (start.run read).map stacked ∧
    ((∃ state, start.run read = .ok state) ↔
      ∀ before, before <+: read → closes before ≤ opens before) ∧
    ∀ state, start.run read = .ok state →
      IsOperatorStack read state.stacked ∧
      ∀ text tokens, Token.scan text = .ok tokens → read <+: tokens →
        state.stack.length ≤ 3 * (opens read - closes read) + 2 := by
  refine ⟨start.run_stacked read, exists_run_iff read, fun state hrun =>
    ⟨isOperatorStack_run hrun, fun text tokens hscan hprefix => ?_⟩⟩
  have hgroups : ∀ group ∈ state.waiting :: state.enclosing, group.length ≤ 2 := by
    intro group hgroup
    have hprecedences : ∀ symbol ∈ group, precedence symbol ∈ [1, 2] := by
      intro symbol hsymbol
      have hread := hprefix.subset (operator_mem_of_run hrun hgroup hsymbol)
      exact precedence_mem_of_isLexeme (isLexeme_of_scan hscan _ hread)
    exact length_le_of_ascending (ascending_run hrun group hgroup) hprecedences
  calc state.stack.length ≤ 3 * state.enclosing.length + 2 := length_stack_le hgroups
    _ = 3 * (opens read - closes read) + 2 := by
      rw [(leavesOpen_run hrun).opens_eq, Nat.add_sub_cancel_left]

/-- `1*2+3*(4/5-6/(7+8*9))` up to its last operator. -/
def unfinishedGroups : List Token :=
  [.number "1", .operator '*', .number "2", .operator '+', .number "3", .operator '*', .paren '(',
    .number "4", .operator '/', .number "5", .operator '-', .number "6", .operator '/', .paren '(',
    .number "7", .operator '+', .number "8", .operator '*']

/-- Two open groups and the tokens around them, each with a sum and a product to be
applied: the stack is as high as it can be. -/
theorem run_operatorStack_unfinishedGroups :
    Token.scan "1*2+3*(4/5-6/(7+8*9))" =
        .ok (unfinishedGroups ++ [.number "9", .paren ')', .paren ')']) ∧
      ∃ state, start.run unfinishedGroups = .ok state ∧
        state.stack = [.operator '*', .operator '+', .paren '(', .operator '/', .operator '-',
          .paren '(', .operator '*', .operator '+'] ∧
        IsOperatorStack unfinishedGroups state.stacked ∧
        state.stack.length ≤ 3 * (opens unfinishedGroups - closes unfinishedGroups) + 2 := by
  have hscan : Token.scan "1*2+3*(4/5-6/(7+8*9))" =
      .ok (unfinishedGroups ++ [.number "9", .paren ')', .paren ')']) := by decide +kernel
  have hrun : start.run unfinishedGroups = .ok {
      output := #[.number "1", .number "2", .operator '*', .number "3", .number "4", .number "5",
        .operator '/', .number "6", .number "7", .number "8"]
      waiting := ['*', '+']
      enclosing := [['/', '-'], ['*', '+']] } := by decide +kernel
  obtain ⟨-, -, hstack⟩ := run_operatorStack unfinishedGroups
  obtain ⟨hholds, hheight⟩ := hstack _ hrun
  exact ⟨hscan, _, hrun, rfl, hholds, hheight _ _ hscan (List.prefix_append _ _)⟩

/-- An operator that no text has can lie below a sum and a product of its group. -/
example : (start.run [.operator '^', .operator '+', .operator '*']).map stack =
    .ok [.operator '*', .operator '+', .operator '^'] := by decide

end CipherCalc.Expr
