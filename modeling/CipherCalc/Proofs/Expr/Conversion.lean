import CipherCalc.Expr.Postfix
import Mathlib.Data.List.Perm.Basic

/-!
# What a conversion does to its state

Three facts carry every statement about the converter.

* **Frame.**  A run never looks at the output, and looks at the groups around
  the one it started in only when it closes that one.  So a run can be moved
  behind other output and into other groups (`run_within`), and a bracketed
  list that converts on its own adds its postfix order to the output and leaves
  the rest of the state as it was (`run_group`).
* **Conservation.**  Every number and every operator that was read is in the
  output or waits, exactly once (`held_run`).
* **Ascent.**  The operators that wait in one group bind more tightly the later
  they came (`Ascending.step`).
-/

namespace CipherCalc.Expr

namespace Converter

theorem run_cons_eq_ok_iff {state last : Converter} {token : Token} {rest : List Token} :
    state.run (token :: rest) = .ok last ↔
      ∃ next, state.step token = .ok next ∧ next.run rest = .ok last := by
  rw [run]
  cases state.step token <;> simp

/-- What every step preserves, with the tokens read so far, holds after a run. -/
theorem run_induction {motive : List Token → Converter → Prop} {state last : Converter}
    {tokens : List Token} (read : List Token) (hstart : motive read state)
    (hstep : ∀ {read state token next}, motive read state → state.step token = .ok next →
      motive (read ++ [token]) next)
    (hrun : state.run tokens = .ok last) : motive (read ++ tokens) last := by
  induction tokens generalizing state read with
  | nil =>
      obtain rfl := Except.ok.inj hrun
      rwa [List.append_nil]
  | cons token rest ih =>
      obtain ⟨next, hnext, hrun⟩ := run_cons_eq_ok_iff.mp hrun
      have hlast := ih (read ++ [token]) (hstep hstart hnext) hrun
      rwa [List.append_assoc, List.singleton_append] at hlast

/-! ## Frame -/

/-- The state with more output in front of its own and more groups around its
own. -/
def within (state : Converter) (written : Array Token) (groups : List (List Char)) : Converter :=
  { state with
    output := written ++ state.output
    enclosing := state.enclosing ++ groups }

theorem step_number (state : Converter) (text : String) :
    state.step (.number text) = .ok { state with output := state.output.push (.number text) } := rfl

theorem step_open (state : Converter) :
    state.step (.paren '(') =
      .ok { state with waiting := [], enclosing := state.waiting :: state.enclosing } := rfl

theorem step_close {symbol : Char} (hclose : symbol ≠ '(') {state : Converter} {outer : List Char}
    {enclosing : List (List Char)} (hopen : state.enclosing = outer :: enclosing) :
    state.step (.paren symbol) =
      .ok {
        output := state.output ++ state.waiting.map Token.operator
        waiting := outer
        enclosing } := by
  rw [step, if_neg hclose, hopen]

/-- What a step that succeeds can be. -/
theorem step_eq_ok {state next : Converter} {token : Token} (hstep : state.step token = .ok next) :
    (∃ text, token = .number text ∧
      next = { state with output := state.output.push (.number text) }) ∨
    (∃ symbol, token = .operator symbol ∧
      next = { state with
        output := state.output ++ (state.waiting.takeWhile (yieldsTo symbol)).map Token.operator
        waiting := symbol :: state.waiting.dropWhile (yieldsTo symbol) }) ∨
    (token = .paren '(' ∧
      next = { state with waiting := [], enclosing := state.waiting :: state.enclosing }) ∨
    ∃ symbol outer enclosing, token = .paren symbol ∧ symbol ≠ '(' ∧
      state.enclosing = outer :: enclosing ∧
        next = {
          output := state.output ++ state.waiting.map Token.operator
          waiting := outer
          enclosing } := by
  cases token with
  | number text => exact Or.inl ⟨text, rfl, (Except.ok.inj hstep).symm⟩
  | operator symbol => exact Or.inr (Or.inl ⟨symbol, rfl, (Except.ok.inj hstep).symm⟩)
  | paren symbol =>
      by_cases hopen : symbol = '('
      · subst hopen
        exact Or.inr (Or.inr (Or.inl ⟨rfl, (Except.ok.inj hstep).symm⟩))
      · cases henclosing : state.enclosing with
        | nil => simp [step, hopen, henclosing] at hstep
        | cons outer enclosing =>
            rw [step_close hopen henclosing] at hstep
            refine Or.inr (Or.inr (Or.inr ⟨symbol, outer, enclosing, rfl, hopen, rfl, ?_⟩))
            exact (Except.ok.inj hstep).symm

theorem step_eq_error_iff {state : Converter} {token : Token} {error : Error} :
    state.step token = .error error ↔
      token.isClose = true ∧ state.enclosing = [] ∧ error = .mismatchedParentheses := by
  cases token with
  | number text => simp [step, Token.isClose]
  | operator symbol => simp [step, Token.isClose]
  | paren symbol =>
      by_cases hopen : symbol = '('
      · simp [step, hopen, Token.isClose]
      · have hclose : (Token.paren symbol).isClose = true := by simp [Token.isClose, hopen]
        cases henclosing : state.enclosing with
        | nil =>
            rw [step, if_neg hopen, henclosing, Except.error.injEq]
            exact ⟨fun herror => ⟨hclose, rfl, herror.symm⟩, fun h => h.2.2.symm⟩
        | cons outer enclosing => simp [step, hopen, henclosing]

theorem append_append_list (first second : Array Token) (third : List Token) :
    first ++ second ++ third = first ++ (second ++ third) :=
  Array.ext' (by simp)

theorem append_list_append (first : Array Token) (second third : List Token) :
    first ++ second ++ third = first ++ (second ++ third) :=
  Array.ext' (by simp)

theorem step_within {state next : Converter} {token : Token} (hstep : state.step token = .ok next)
    (written : Array Token) (groups : List (List Char)) :
    (state.within written groups).step token = .ok (next.within written groups) := by
  rcases step_eq_ok hstep with ⟨text, rfl, rfl⟩ | ⟨symbol, rfl, rfl⟩ | ⟨rfl, rfl⟩ |
    ⟨symbol, outer, enclosing, rfl, hclose, henclosing, rfl⟩
  · rw [step_number]
    simp [within]
  · simp [step, within, append_append_list]
  · rw [step_open]
    simp [within]
  · have hnested : (state.within written groups).enclosing = outer :: (enclosing ++ groups) := by
      simp [within, henclosing]
    rw [step_close hclose hnested]
    simp [within, append_append_list]

theorem run_within {state next : Converter} {tokens : List Token}
    (hrun : state.run tokens = .ok next) (written : Array Token) (groups : List (List Char)) :
    (state.within written groups).run tokens = .ok (next.within written groups) := by
  induction tokens generalizing state with
  | nil =>
      obtain rfl := Except.ok.inj hrun
      rfl
  | cons token rest ih =>
      obtain ⟨middle, hstep, hrun⟩ := run_cons_eq_ok_iff.mp hrun
      exact run_cons_eq_ok_iff.mpr ⟨_, step_within hstep written groups, ih hrun⟩

/-- With no more groups around it, a run fails behind other output just when it
fails on its own. -/
theorem run_behind (state : Converter) (written : Array Token) (tokens : List Token) :
    (state.within written []).run tokens = (state.run tokens).map (·.within written []) := by
  induction tokens generalizing state with
  | nil => rfl
  | cons token rest ih =>
      cases hstep : state.step token with
      | error error =>
          obtain ⟨hclose, henclosing, rfl⟩ := step_eq_error_iff.mp hstep
          have hbehind : (state.within written []).step token = .error .mismatchedParentheses :=
            step_eq_error_iff.mpr ⟨hclose, by simp [within, henclosing], rfl⟩
          simp only [run, hstep, hbehind, Except.map]
      | ok middle =>
          simp only [run, hstep, step_within hstep written []]
          exact ih middle

theorem finish_behind (state : Converter) (written : Array Token) :
    (state.within written []).finish = state.finish.map (written.toList ++ ·) := by
  cases henclosing : state.enclosing with
  | nil => simp [finish, within, henclosing, Except.map]
  | cons outer enclosing => simp [finish, within, henclosing, Except.map]

/-- A run that fails has read all tokens before the one that cannot be placed. -/
theorem exists_step_of_run {state : Converter} {tokens : List Token} {error : Error}
    (hrun : state.run tokens = .error error) :
    ∃ before token after middle, tokens = before ++ token :: after ∧
      state.run before = .ok middle ∧ middle.step token = .error error := by
  induction tokens generalizing state with
  | nil => simp [run] at hrun
  | cons token rest ih =>
      cases hstep : state.step token with
      | error found =>
          simp only [run, hstep, Except.error.injEq] at hrun
          exact ⟨[], token, rest, state, rfl, rfl, hrun ▸ hstep⟩
      | ok next =>
          simp only [run, hstep] at hrun
          obtain ⟨before, refused, after, middle, rfl, hbefore, hrefused⟩ := ih hrun
          refine ⟨token :: before, refused, after, middle, rfl, ?_, hrefused⟩
          exact run_cons_eq_ok_iff.mpr ⟨next, hstep, hbefore⟩

theorem eq_mismatchedParentheses_of_run {state : Converter} {tokens : List Token} {error : Error}
    (hrun : state.run tokens = .error error) : error = .mismatchedParentheses := by
  obtain ⟨_, _, _, _, -, -, hstep⟩ := exists_step_of_run hrun
  exact (step_eq_error_iff.mp hstep).2.2

theorem finish_eq_ok_iff {state : Converter} {listing : List Token} :
    state.finish = .ok listing ↔ state.enclosing = [] ∧
      listing = state.output.toList ++ state.waiting.map Token.operator := by
  cases henclosing : state.enclosing <;> simp [finish, henclosing, eq_comm]

end Converter

open Converter

theorem ofInfix_eq_ok_iff {tokens listing : List Token} :
    Postfix.ofInfix tokens = .ok listing ↔
      ∃ last, start.run tokens = .ok last ∧ last.enclosing = [] ∧
        listing = last.output.toList ++ last.waiting.map Token.operator := by
  cases hrun : start.run tokens with
  | error error => simp [Postfix.ofInfix, hrun]
  | ok last => simp [Postfix.ofInfix, hrun, finish_eq_ok_iff]

/-- Only parentheses can keep tokens from being converted. -/
theorem eq_mismatchedParentheses_of_ofInfix {tokens : List Token} {error : Error}
    (hlisting : Postfix.ofInfix tokens = .error error) : error = .mismatchedParentheses := by
  cases hrun : start.run tokens with
  | error found =>
      simp only [Postfix.ofInfix, hrun, Except.error.injEq] at hlisting
      rw [← hlisting]
      exact eq_mismatchedParentheses_of_run hrun
  | ok last =>
      simp only [Postfix.ofInfix, hrun, finish] at hlisting
      split at hlisting
      · simp at hlisting
      · exact (Except.error.inj hlisting).symm

/-- **A group does not disturb what is around it.**  Its postfix order is
written out, and the operators that wait outside still wait. -/
theorem run_group {inner listing : List Token} (hinner : Postfix.ofInfix inner = .ok listing)
    (state : Converter) :
    state.run (.paren '(' :: (inner ++ [.paren ')'])) =
      .ok { state with output := state.output ++ listing } := by
  obtain ⟨last, hrun, henclosing, rfl⟩ := ofInfix_eq_ok_iff.mp hinner
  have hopened : { state with waiting := [], enclosing := state.waiting :: state.enclosing } =
      start.within state.output (state.waiting :: state.enclosing) := by
    simp [start, within]
  have hclosed : (last.within state.output (state.waiting :: state.enclosing)).step (.paren ')') =
      .ok { state with
        output := state.output ++ (last.output.toList ++ last.waiting.map Token.operator) } := by
    have hnested : (last.within state.output (state.waiting :: state.enclosing)).enclosing =
        state.waiting :: state.enclosing := by simp [within, henclosing]
    have houtput : state.output ++ last.output ++ last.waiting.map Token.operator =
        state.output ++ (last.output.toList ++ last.waiting.map Token.operator) :=
      Array.ext' (by simp)
    rw [step_close (by decide) hnested]
    simp only [within, houtput]
  simp only [run, step_open, hopened, run_append, run_within hrun, Except.bind, hclosed]

/-- What a context adds around the postfix order of a group does not depend on
the group. -/
theorem ofInfix_context (before after : List Token) :
    ∃ context : Except Error (List Token × List Token), ∀ inner listing,
      Postfix.ofInfix inner = .ok listing →
        Postfix.ofInfix (before ++ .paren '(' :: (inner ++ .paren ')' :: after)) =
          context.map fun sides => sides.1 ++ listing ++ sides.2 := by
  cases hbefore : start.run before with
  | error error =>
      refine ⟨.error error, fun inner listing _ => ?_⟩
      rw [Postfix.ofInfix, run_append, hbefore]
      rfl
  | ok state =>
      -- what `after` does, seen from a state that has written nothing yet
      let fresh : Converter := { state with output := #[] }
      refine ⟨((fresh.run after).bind finish).map fun rest => (state.output.toList, rest),
        fun inner listing hinner => ?_⟩
      have hwritten : { state with output := state.output ++ listing } =
          fresh.within (state.output ++ listing) [] := by
        simp [fresh, within]
      have htokens : before ++ .paren '(' :: (inner ++ .paren ')' :: after) =
          before ++ ((.paren '(' :: (inner ++ [.paren ')'])) ++ after) := by simp
      rw [Postfix.ofInfix, htokens, run_append, hbefore]
      simp only [Except.bind, run_append, run_group hinner, hwritten, run_behind]
      cases fresh.run after with
      | error error => rfl
      | ok last =>
          simp only [Except.map, finish_behind]
          cases last.finish <;> simp

/-! ## Conservation -/

/-- The tokens that are no parentheses. -/
def withoutParens (tokens : List Token) : List Token :=
  tokens.filter fun token => match token with
    | .paren _ => false
    | _ => true

theorem withoutParens_append (first second : List Token) :
    withoutParens (first ++ second) = withoutParens first ++ withoutParens second :=
  List.filter_append ..

theorem withoutParens_map_operator (group : List Char) :
    withoutParens (group.map Token.operator) = group.map Token.operator := by
  simp [withoutParens]

namespace Converter

/-- Everything that a state has kept of the tokens it read. -/
def held (state : Converter) : List Token :=
  state.output.toList ++ (state.waiting ++ state.enclosing.flatten).map Token.operator

theorem held_step {state next : Converter} {token : Token} (hstep : state.step token = .ok next) :
    next.held.Perm (state.held ++ withoutParens [token]) := by
  rcases step_eq_ok hstep with ⟨text, rfl, rfl⟩ | ⟨symbol, rfl, rfl⟩ | ⟨rfl, rfl⟩ |
    ⟨symbol, outer, enclosing, rfl, -, henclosing, rfl⟩
  · rw [held, Array.toList_push, List.append_assoc, List.singleton_append]
    exact List.perm_middle.trans (List.perm_append_singleton _ _).symm
  · have hwaiting : (state.waiting.takeWhile (yieldsTo symbol)).map Token.operator ++
        (state.waiting.dropWhile (yieldsTo symbol)).map Token.operator =
          state.waiting.map Token.operator := by
      rw [← List.map_append, List.takeWhile_append_dropWhile]
    -- only the new operator is in another place, in front of those that still wait
    rw [held, Array.toList_appendList, List.cons_append, List.map_cons]
    refine List.perm_middle.trans ((List.perm_append_singleton _ _).symm.trans ?_)
    rw [held, List.map_append, List.map_append, ← hwaiting]
    simp [withoutParens]
  · simp [held, withoutParens]
  · simp [held, withoutParens, henclosing]

theorem held_run {state next : Converter} {tokens : List Token}
    (hrun : state.run tokens = .ok next) :
    next.held.Perm (state.held ++ withoutParens tokens) := by
  refine run_induction (motive := fun read reached => reached.held.Perm
    (state.held ++ withoutParens read)) [] (by simp [withoutParens]) ?_ hrun
  intro read reached token next hheld hstep
  rw [withoutParens_append, ← List.append_assoc]
  exact (held_step hstep).trans (hheld.append_right _)

end Converter

theorem perm_of_ofInfix {tokens listing : List Token}
    (hlisting : Postfix.ofInfix tokens = .ok listing) :
    listing.Perm (withoutParens tokens) := by
  obtain ⟨last, hrun, henclosing, rfl⟩ := ofInfix_eq_ok_iff.mp hlisting
  simpa [held, henclosing, start] using held_run hrun

/-! ## Ascent -/

namespace Converter

/-- In every group, the operators that wait bind more tightly the later they
came. -/
def Ascending (state : Converter) : Prop :=
  ∀ group ∈ state.waiting :: state.enclosing,
    group.Pairwise fun later earlier => precedence earlier < precedence later

theorem ascending_start : start.Ascending := by
  intro group hmem
  rw [List.mem_singleton.mp hmem]
  exact List.Pairwise.nil

/-- What a new operator does not release binds less tightly, since the latest
that stays does. -/
theorem precedence_lt_of_mem_dropWhile {symbol earlier : Char} {group : List Char}
    (hgroup : group.Pairwise fun later earlier => precedence earlier < precedence later)
    (hmem : earlier ∈ group.dropWhile (yieldsTo symbol)) :
    precedence earlier < precedence symbol := by
  induction group with
  | nil => simp at hmem
  | cons latest rest ih =>
      rw [List.pairwise_cons] at hgroup
      by_cases hyields : yieldsTo symbol latest = true
      · rw [List.dropWhile_cons_of_pos hyields] at hmem
        exact ih hgroup.2 hmem
      · rw [List.dropWhile_cons_of_neg hyields] at hmem
        have hlatest : precedence latest < precedence symbol := by
          simpa [yieldsTo] using hyields
        rcases List.mem_cons.mp hmem with rfl | hmem
        · exact hlatest
        · exact Nat.lt_trans (hgroup.1 earlier hmem) hlatest

theorem Ascending.step {state next : Converter} {token : Token} (hascending : state.Ascending)
    (hstep : state.step token = .ok next) : next.Ascending := by
  rcases step_eq_ok hstep with ⟨text, rfl, rfl⟩ | ⟨symbol, rfl, rfl⟩ | ⟨rfl, rfl⟩ |
    ⟨symbol, outer, enclosing, rfl, -, henclosing, rfl⟩
  · exact hascending
  · obtain ⟨hwaiting, houter⟩ := List.forall_mem_cons.mp hascending
    refine List.forall_mem_cons.mpr ⟨List.pairwise_cons.mpr ⟨?_, ?_⟩, houter⟩
    · exact fun earlier hmem => precedence_lt_of_mem_dropWhile hwaiting hmem
    · exact hwaiting.sublist (List.dropWhile_sublist _)
  · exact List.forall_mem_cons.mpr ⟨List.Pairwise.nil, hascending⟩
  · rw [Ascending, henclosing] at hascending
    exact (List.forall_mem_cons.mp hascending).2

theorem ascending_run {state : Converter} {read : List Token}
    (hrun : start.run read = .ok state) : state.Ascending :=
  run_induction (motive := fun _ state => state.Ascending) [] ascending_start Ascending.step hrun

end Converter

end CipherCalc.Expr
