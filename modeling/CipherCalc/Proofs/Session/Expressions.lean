import CipherCalc.Proofs.CommandLine.Program
import CipherCalc.Proofs.Session.Counters

/-!
# An expression has one answer

The menu answers an expression in pieces: the steps if they are wanted, the result
or the error, and what ends the turn.  A run of the program for one expression has
its text as a whole, and writes it in another place if it is an error.  Both are
the same text (`seen_ofExpression`, `run_expressions`), wherever in a session the
expression is read.

Showing the steps adds them to the results and does nothing else.  Two sessions
that differ in this setting only get the same replies but for the steps
(`respond_showSteps_of_none`, `respond_showSteps_of_some`), so they stay at the
same question all along (`converse_showsSteps`).
-/

namespace CipherCalc

/-! ## One expression on the command line -/

namespace CommandLine

/-- What a run shows: its standard output, or the line that reports its error. -/
def Outcome.seen (outcome : Outcome) : String :=
  if outcome.code = 0 then outcome.stdout else outcome.stderr ++ "\n"

/-- The text that a run for one expression shows, with its line feed. -/
def answerText (showSteps : Bool) (expression : String) : String :=
  match Expr.report showSteps expression with
  | .ok shown => shown ++ "\n"
  | .error error => "Error: " ++ error.message ++ "\n"

theorem seen_ofExpression (showSteps : Bool) (expression : String) :
    (Outcome.ofExpression showSteps expression).seen = answerText showSteps expression := by
  unfold Outcome.ofExpression answerText
  cases hreport : Expr.report showSteps expression with
  | ok shown => rfl
  | error error =>
      dsimp only
      rw [Outcome.failure, firstLine_report hreport]
      rfl

end CommandLine

namespace Session

open CommandLine (Outcome answerText)

variable {settings : Settings} {files : Files} {flushFails : Bool} {script : List Event}

theorem respond_expression_text (settings : Settings) (files : Files) (line : String) :
    (respond settings files .expression (.line line)).text =
      answerText settings.showSteps line ++ turnEnd settings := by
  show (replyToExpression settings line).text = _
  rw [replyToExpression_eq, answerText]
  cases Expr.report settings.showSteps line with
  | ok shown => exact congrArg Reply.text (endTurn_eq settings _ _)
  | error error => exact congrArg Reply.text (endTurn_eq settings _ _)

/-! ## One reply with and without steps -/

/-- The lines of steps in front of the result of an expression, if it has one. -/
def stepsOf (line : String) : String :=
  match (Expr.Evaluation.ofText line : Except Expr.Error (Expr.Evaluation Float)) with
  | .ok evaluation => evaluation.stepLines ++ "\n"
  | .error _ => ""

/-- Settings with the steps shown or not. -/
def showing (showSteps : Bool) (settings : Settings) : Settings :=
  { settings with showSteps }

theorem respond_showSteps_of_none {question : Question} {event : Event}
    (hnone : expressionAt? question.prompt event = none) (settings : Settings) (files : Files) :
    respond (showing true settings) files question event =
      respond (showing false settings) files question event := by
  cases event with
  | line line =>
      refine respond_congr ?_ (fun hquestion => ?_) files _
      · rfl
      · subst hquestion
        exact absurd hnone (Option.some_ne_none line)
  | _ => rfl

theorem respond_showSteps_of_some (settings : Settings) (files : Files) (line : String) :
    ∃ answer gain,
      respond (showing false settings) files .expression (.line line) =
        endTurn settings answer gain ∧
      respond (showing true settings) files .expression (.line line) =
        endTurn settings (stepsOf line ++ answer) gain := by
  show ∃ answer gain, replyToExpression (showing false settings) line = _ ∧
    replyToExpression (showing true settings) line = _
  unfold replyToExpression stepsOf
  cases (Expr.Evaluation.ofText line : Except Expr.Error (Expr.Evaluation Float)) with
  | ok evaluation =>
      refine ⟨resultText evaluation.value ++ "\n", { evaluations := 1 }, ?_, ?_⟩
      · show endTurn settings ("" ++ _ ++ _) _ = _
        rw [String.empty_append]
      · show endTurn settings (_ ++ _ ++ _) _ = _
        rw [String.append_assoc]
        rfl
  | error error =>
      refine ⟨"Error: " ++ error.message ++ "\n", { evaluations := 1, errors := 1 }, rfl, ?_⟩
      dsimp only
      rw [String.empty_append]
      rfl

/-! ## Sessions with and without steps -/

/-- From its second text on, a transcript is another one with the steps shown. -/
structure AddsSteps (script : List Event) (plain detailed : Transcript) : Prop where
  prompts : ∀ read, detailed.prompt? read = plain.prompt? read
  texts : ∀ read, detailed.text? (read + 1) =
    (plain.text? (read + 1)).map ((plain.expression? script read).elim "" stepsOf ++ ·)
  rest : detailed.rest = plain.rest
  tally : detailed.tally = plain.tally
  unread : detailed.unread = plain.unread
  ending : detailed.ending = plain.ending

/-- Where nothing more is asked, the first texts are all the difference. -/
theorem addsSteps_of_exchanges_eq_nil {transcript : Transcript}
    (hnone : transcript.exchanges = []) (script : List Event) (text other prompt : String) :
    AddsSteps script (transcript.after ⟨text, prompt⟩) (transcript.after ⟨other, prompt⟩) where
  prompts read := by cases read <;> rfl
  texts read := by
    have htext : ∀ first, (transcript.after ⟨first, prompt⟩).text? (read + 1) = none := fun first => by
      simp [Transcript.text?, hnone]
    rw [htext, htext, Option.map_none]
  rest := rfl
  tally := rfl
  unread := rfl
  ending := rfl

theorem AddsSteps.after {event : Event} {later : List Event} {plain detailed : Transcript}
    {prompt text : String} (hadds : AddsSteps later plain detailed)
    (hplain : plain.text? 0 = some text)
    (hdetailed : detailed.text? 0 = some ((expressionAt? prompt event).elim "" stepsOf ++ text))
    (first other : String) :
    AddsSteps (event :: later) (plain.after ⟨first, prompt⟩) (detailed.after ⟨other, prompt⟩) where
  prompts read := by
    cases read with
    | zero => rfl
    | succ read => exact hadds.prompts read
  texts read := by
    cases read with
    | zero =>
        show detailed.text? 0 =
          (plain.text? 0).map ((expressionAt? prompt event).elim "" stepsOf ++ ·)
        rw [hplain, hdetailed, Option.map_some]
    | succ read => exact hadds.texts read
  rest := hadds.rest
  tally := hadds.tally
  unread := hadds.unread
  ending := hadds.ending

theorem converse_addsSteps (settings : Settings) (files : Files) (flushFails : Bool)
    (tally : Tally) (text other : String) (question : Question) (script : List Event) :
    AddsSteps script
      (converse (showing false settings) files { flushFails } tally text question script)
      (converse (showing true settings) files { flushFails } tally other question script) := by
  -- the first texts may differ, as they do behind an expression
  induction script generalizing tally text other question with
  | nil =>
      rw [converse_nil (write_none text), converse_nil (write_none other)]
      exact addsSteps_of_exchanges_eq_nil (exchanges_close _ _ _ _ _) _ _ _ _
  | cons event later ih =>
      cases hexpression : expressionAt? question.prompt event with
      | none =>
          have hsame := respond_showSteps_of_none hexpression settings files
          cases hnext : (respond (showing false settings) files question event).next with
          | ask next =>
              have hother := hnext
              rw [← hsame] at hother
              rw [converse_of_ask (write_none text) hnext,
                converse_of_ask (write_none other) hother, hsame]
              refine (ih _ _ _ next).after (text?_converse_zero ..) ?_ _ _
              rw [text?_converse_zero, hexpression]
              exact congrArg some String.empty_append.symm
          | finish ending =>
              have hother := hnext
              rw [← hsame] at hother
              rw [converse_of_finish (write_none text) hnext,
                converse_of_finish (write_none other) hother, hsame]
              exact addsSteps_of_exchanges_eq_nil (exchanges_close _ _ _ _ _) _ _ _ _
      | some line =>
          obtain ⟨hprompt, rfl⟩ := expressionAt?_eq_some_iff.mp hexpression
          obtain rfl := eq_expression_of_prompt hprompt
          obtain ⟨answer, gain, hplain, hdetailed⟩ := respond_showSteps_of_some settings files line
          rw [endTurn_eq] at hplain hdetailed
          have hnext : (respond (showing false settings) files .expression (.line line)).next =
              .ask (turnNext settings) := by rw [hplain]
          have hother : (respond (showing true settings) files .expression (.line line)).next =
              .ask (turnNext settings) := by rw [hdetailed]
          rw [converse_of_ask (write_none text) hnext, converse_of_ask (write_none other) hother,
            hplain, hdetailed]
          refine (ih _ _ _ _).after (text?_converse_zero ..) ?_ _ _
          rw [text?_converse_zero, hexpression, String.append_assoc]
          rfl

/-! ## Sessions -/

/-- A transcript is another one with the steps shown: in front of the result of an
expression that was read and has a value, there are its two lines of steps. -/
structure ShowsSteps (script : List Event) (plain detailed : Transcript) : Prop
    extends AddsSteps script plain detailed where
  first : detailed.text? 0 = plain.text? 0

theorem run_showsSteps (settings : Settings) (files : Files) (flushFails : Bool)
    (script : List Event) :
    ShowsSteps script (run (showing false settings) files { flushFails } script)
      (run (showing true settings) files { flushFails } script) where
  toAddsSteps := converse_addsSteps settings files flushFails {} menu menu .choice script
  first := by rw [run, run, text?_converse_zero, text?_converse_zero]

/-- **An expression has one answer, with or without steps.**  On a console that
takes every byte, the text after a line that was read as an expression is what a
run for that expression shows, on its standard output or as its error, and the
menu, unless it is asked first whether to go on.  Whether the steps are shown
makes no other difference to a session than these lines before the results. -/
theorem run_expressions (settings : Settings) (files : Files) (flushFails : Bool)
    (script : List Event) :
    (∀ read line, (run settings files { flushFails } script).expression? script read = some line →
      (run settings files { flushFails } script).text? (read + 1) =
          some (answerText settings.showSteps line ++ turnEnd settings) ∧
        (Outcome.ofExpression settings.showSteps line).seen =
          answerText settings.showSteps line) ∧
    ShowsSteps script (run (showing false settings) files { flushFails } script)
      (run (showing true settings) files { flushFails } script) := by
  refine ⟨fun read line hexpression => ⟨?_, ?_⟩, run_showsSteps settings files flushFails script⟩
  · rw [text?_of_expression hexpression, respond_expression_text]
  · exact CommandLine.seen_ofExpression _ _

/-- A sum with its steps, in a session that does not ask whether to go on. -/
theorem run_expressions_sum :
    (run { askContinue := false, showSteps := true } (fun _ => .error .notFound) {}
        [.line "3", .line "2+3"]).expression? [.line "3", .line "2+3"] 1 = some "2+3" ∧
      (run { askContinue := false, showSteps := true } (fun _ => .error .notFound) {}
        [.line "3", .line "2+3"]).text? 2 =
          some ("Tokens:  2 + 3\nPostfix: 2 3 +\n5\n" ++ menu) := by
  have hexpression : (run { askContinue := false, showSteps := true } (fun _ => .error .notFound) {}
      [.line "3", .line "2+3"]).expression? [.line "3", .line "2+3"] 1 = some "2+3" := by
    decide +kernel
  have hanswer : answerText true "2+3" = "Tokens:  2 + 3\nPostfix: 2 3 +\n5\n" := by
    decide +kernel
  obtain ⟨hanswers, -⟩ := run_expressions { askContinue := false, showSteps := true }
    (fun _ => .error .notFound) false [.line "3", .line "2+3"]
  refine ⟨hexpression, (hanswers 1 _ hexpression).1.trans ?_⟩
  rw [hanswer]
  rfl

end Session

end CipherCalc
