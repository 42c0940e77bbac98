import CipherCalc.Proofs.Decimal.Positional
import CipherCalc.Proofs.Session.Capacity
import CipherCalc.Proofs.Session.Causality
import CipherCalc.Proofs.Session.Isolation

/-!
# What the counters count

A reply counts an expression and nothing else (`gain_respond`), before anything of
its answer is written.  So the counters of a session are told by its reads, however
it ends (`tally_run`): those that take a line at the prompt for an expression, and
those of them whose line has no value.  A write that fails later on takes nothing
back, since the reads before it were made.

The first event and the rest of the script are counted one after the other
(`counted_after`), as the session goes through them.  What was counted up to a read
is what a session counts whose script ends there (`tally_run_take`), which shows
that a read without an expression leaves the counters as they are.

An answer begins with `Error: ` just when its expression was refused
(`reportsError_respond`).  If all answers are written, the errors can be counted
that way, too.
-/

namespace CipherCalc.Session

/-! ## Expressions that are read -/

/-- The line that an event gives at the prompt for an expression. -/
def expressionAt? (prompt : String) : Event → Option String
  | .line line => if prompt = "Enter the expression: " then some line else none
  | _ => none

/-- Whether an expression has no value. -/
def isRefused (line : String) : Bool :=
  !(Expr.Evaluation.ofText line : Except Expr.Error (Expr.Evaluation Float)).isOk

/-- Whether a text starts as the report of an error does. -/
def reportsError (text : String) : Bool :=
  "Error: ".toList.isPrefixOf text.toList

namespace Transcript

/-- The line that a read takes at the prompt for an expression, if it is made there
and takes one. -/
def expression? (transcript : Transcript) (script : List Event) (read : Nat) : Option String := do
  expressionAt? (← transcript.prompt? read) (← script[read]?)

/-- How many reads took an expression. -/
def expressionsRead (transcript : Transcript) (script : List Event) : Nat :=
  (List.range script.length).countP fun read => (transcript.expression? script read).isSome

/-- How many reads took an expression that has no value. -/
def expressionsRefused (transcript : Transcript) (script : List Event) : Nat :=
  (List.range script.length).countP fun read => (transcript.expression? script read).any isRefused

/-- How many reads took an expression and were followed by the report of an error. -/
def errorsShown (transcript : Transcript) (script : List Event) : Nat :=
  (List.range script.length).countP fun read =>
    (transcript.expression? script read).isSome && (transcript.text? (read + 1)).any reportsError

/-- What the counters should be. -/
def counted (transcript : Transcript) (script : List Event) : Tally where
  evaluations := transcript.expressionsRead script
  errors := transcript.expressionsRefused script

end Transcript

/-- What an expression counts for, if there is one. -/
def countOf (expression : Option String) : Tally where
  evaluations := if expression.isSome then 1 else 0
  errors := if expression.any isRefused then 1 else 0

theorem expressionAt?_eq_some_iff {prompt line : String} {event : Event} :
    expressionAt? prompt event = some line ↔
      prompt = "Enter the expression: " ∧ event = .line line := by
  cases event <;> simp [expressionAt?]

theorem errorsOf_eq (line : String) : errorsOf line = if isRefused line then 1 else 0 := by
  unfold errorsOf isRefused Expr.value
  cases (Expr.Evaluation.ofText line : Except Expr.Error (Expr.Evaluation Float)) <;> rfl

theorem Tally.zero_add (tally : Tally) : {} + tally = tally := by
  show Tally.mk _ _ = tally
  simp only [Nat.zero_add]

/-! ## What a reply counts -/

theorem gain_endTurn (settings : Settings) (text : String) (gain : Tally) :
    (endTurn settings text gain).gain = gain := by
  rw [endTurn_eq]

theorem gain_replyToText (settings : Settings) (task : Task) (text : String) :
    (replyToText settings task text).gain = {} := by
  unfold replyToText
  split
  · exact gain_endTurn _ _ _
  · cases task <;> rfl

/-- Whatever goes wrong at another question, it does not count. -/
theorem gain_reply_of_ne {question : Question} (hquestion : question ≠ .expression)
    (settings : Settings) (files : Files) (line : String) :
    (reply settings files question line).gain = {} := by
  cases question with
  | expression => exact absurd rfl hquestion
  | text task => exact gain_replyToText settings task line
  | choice =>
      show (replyToChoice settings line).gain = {}
      unfold replyToChoice
      cases Choice.ofLine? line with
      | none => exact gain_endTurn _ _ _
      | some choice => cases choice <;> rfl
  | source task =>
      show (replyToSource settings task line).gain = {}
      unfold replyToSource
      cases Source.ofLine? line with
      | none => exact gain_endTurn _ _ _
      | some source => cases source <;> rfl
  | path task =>
      show (replyToPath settings files task line).gain = {}
      unfold replyToPath
      cases files (Text.trim line) with
      | ok text => exact gain_replyToText settings task text
      | error error => exact gain_endTurn _ _ _
  | shiftKnown text =>
      show (replyToShiftKnown settings text line).gain = {}
      unfold replyToShiftKnown
      cases Consent.ofLine line with
      | yes => rfl
      | no => exact gain_endTurn _ _ _
      | unclear => exact gain_endTurn _ _ _
  | shift task text =>
      show (replyToShift settings task text line).gain = {}
      unfold replyToShift
      cases shiftOfLine? line with
      | none => rfl
      | some shift => exact gain_endTurn _ _ _
  | again =>
      show (replyToAgain line).gain = {}
      unfold replyToAgain
      split
      · rfl
      · split <;> rfl

/-- A reply counts an expression and nothing else. -/
theorem gain_respond (settings : Settings) (files : Files) (question : Question) (event : Event) :
    (respond settings files question event).gain =
      countOf (expressionAt? question.prompt event) := by
  cases event with
  | line line =>
      rw [expressionAt?]
      split
      · next hprompt =>
          obtain rfl := eq_expression_of_prompt hprompt
          obtain ⟨answer, hanswer⟩ := exists_respond_expression_eq settings files line
          rw [hanswer, gain_endTurn, errorsOf_eq]
          rfl
      · next hprompt =>
          have hquestion : question ≠ .expression := fun hquestion =>
            hprompt (congrArg Question.prompt hquestion)
          exact gain_reply_of_ne hquestion settings files line
  | _ => rfl

/-! ## What a session counts -/

theorem counted_nil (transcript : Transcript) : transcript.counted [] = {} := rfl

theorem counted_of_exchanges_eq_nil {transcript : Transcript}
    (hnone : transcript.exchanges = []) (script : List Event) :
    transcript.counted script = {} := by
  have hexpression : ∀ read, transcript.expression? script read = none := fun read => by
    simp [Transcript.expression?, Transcript.prompt?, hnone]
  simp [Transcript.counted, Transcript.expressionsRead, Transcript.expressionsRefused, hexpression]

/-- The first read counts for itself, and the others as before. -/
theorem counted_after (transcript : Transcript) (exchange : Exchange) (event : Event)
    (later : List Event) :
    (transcript.after exchange).counted (event :: later) =
      countOf (expressionAt? exchange.prompt event) + transcript.counted later := by
  have hfirst : (transcript.after exchange).expression? (event :: later) 0 =
      expressionAt? exchange.prompt event := rfl
  have hcount : ∀ p : Option String → Bool,
      (List.range (event :: later).length).countP
          (fun read => p ((transcript.after exchange).expression? (event :: later) read)) =
        (if p (expressionAt? exchange.prompt event) then 1 else 0) +
          (List.range later.length).countP fun read => p (transcript.expression? later read) := by
    intro p
    rw [List.length_cons, List.range_succ_eq_map, List.countP_cons, List.countP_map, Nat.add_comm,
      hfirst]
    rfl
  simp only [Transcript.counted, Transcript.expressionsRead, Transcript.expressionsRefused]
  rw [hcount Option.isSome, hcount (Option.any isRefused)]
  rfl

theorem tally_close (console : Console) (tally : Tally) (text : String) (ending : Ending)
    (unread : List Event) : (close console tally text ending unread).tally = tally := by
  unfold close
  split <;> rfl

/-- Whatever the console does, what was read is counted. -/
theorem tally_converse (settings : Settings) (files : Files) (console : Console) (tally : Tally)
    (text : String) (question : Question) (script : List Event) :
    (converse settings files console tally text question script).tally =
      tally + (converse settings files console tally text question script).counted script := by
  induction script generalizing console tally text question with
  | nil =>
      rw [counted_nil, Tally.add_zero]
      cases hwrite : write console.capacity text with
      | error cut => rw [converse_of_full hwrite]
      | ok capacity => rw [converse_nil hwrite, Transcript.tally_after, tally_close]
  | cons event later ih =>
      cases hwrite : write console.capacity text with
      | error cut =>
          rw [converse_of_full hwrite, counted_of_exchanges_eq_nil rfl]
          rfl
      | ok capacity =>
          cases hnext : (respond settings files question event).next with
          | ask next =>
              rw [converse_of_ask hwrite hnext, counted_after, Transcript.tally_after, ih,
                ← gain_respond settings files, Tally.add_assoc]
          | finish ending =>
              rw [converse_of_finish hwrite hnext, counted_after, Transcript.tally_after,
                tally_close, counted_of_exchanges_eq_nil (exchanges_close _ _ _ _ _),
                ← gain_respond settings files, Tally.add_zero]

section

variable (settings : Settings) (files : Files) (console : Console) (script : List Event)

theorem tally_run :
    (run settings files console script).tally =
      (run settings files console script).counted script := by
  rw [run, tally_converse, Tally.zero_add]

/-- A read takes the same expression if the script ends behind it. -/
theorem expression?_run_take {count read : Nat} (hread : read < count) :
    (run settings files console (script.take count)).expression? (script.take count) read =
      (run settings files console script).expression? script read := by
  have hexchanges : (run settings files console (script.take count)).exchanges =
      (run settings files console script).exchanges.take (count + 1) :=
    exchanges_play_take settings files (.first console) script count
  rw [Transcript.expression?, Transcript.expression?, Transcript.prompt?, Transcript.prompt?,
    hexchanges, List.getElem?_take_of_lt hread, List.getElem?_take_of_lt (Nat.lt_succ_of_lt hread)]

/-- What a session has counted when it has read some events. -/
theorem tally_run_take {count : Nat} (hcount : count ≤ script.length) :
    (run settings files console (script.take count)).tally =
      { evaluations := (List.range count).countP fun read =>
          ((run settings files console script).expression? script read).isSome
        errors := (List.range count).countP fun read =>
          ((run settings files console script).expression? script read).any isRefused } := by
  have hsame : ∀ p : Option String → Bool,
      (List.range count).countP (fun read => p ((run settings files console
          (script.take count)).expression? (script.take count) read)) =
        (List.range count).countP
          fun read => p ((run settings files console script).expression? script read) := by
    intro p
    refine List.countP_congr fun read hmem => ?_
    rw [expression?_run_take settings files console script (List.mem_range.mp hmem)]
  rw [tally_run, Transcript.counted, Transcript.expressionsRead, Transcript.expressionsRefused,
    List.length_take, Nat.min_eq_left hcount, hsame Option.isSome, hsame (Option.any isRefused)]

/-- The counters change at the expressions that are read, and at nothing else. -/
theorem tally_run_take_succ (read : Nat) :
    (run settings files console (script.take (read + 1))).tally =
      (run settings files console (script.take read)).tally +
        countOf ((run settings files console script).expression? script read) := by
  rcases Nat.lt_or_ge read script.length with hlt | hge
  · rw [tally_run_take _ _ _ _ hlt, tally_run_take _ _ _ _ (Nat.le_of_lt hlt), List.range_succ,
      List.countP_append, List.countP_append, List.countP_singleton, List.countP_singleton]
    rfl
  · have hnone : (run settings files console script).expression? script read = none := by
      simp [Transcript.expression?, List.getElem?_eq_none hge]
    rw [List.take_of_length_le hge, List.take_of_length_le (Nat.le_succ_of_le hge), hnone]
    rfl

end

/-! ## What an expression is answered with -/

theorem exists_shown_eq_cons (showSteps : Bool) (evaluation : Expr.Evaluation Float) :
    ∃ first rest, (evaluation.shown showSteps).toList = first :: rest ∧ first ≠ 'E' := by
  unfold Expr.Evaluation.shown
  split
  · simp only [Expr.Evaluation.stepLines, String.append_assoc]
    rw [String.toList_append]
    exact ⟨'T', _, rfl, by decide⟩
  · obtain ⟨first, rest, hcons, hfirst⟩ := exists_resultText_eq_cons evaluation.value
    refine ⟨first, rest, hcons, ?_⟩
    rintro rfl
    exact absurd hfirst (by decide)

/-- The answer to an expression tells whether it was refused. -/
theorem reportsError_respond (settings : Settings) (files : Files) (line : String) :
    reportsError (respond settings files .expression (.line line)).text = isRefused line := by
  show reportsError (replyToExpression settings line).text = isRefused line
  rw [replyToExpression_eq]
  unfold isRefused Expr.report reportsError
  cases (Expr.Evaluation.ofText line : Except Expr.Error (Expr.Evaluation Float)) with
  | error error =>
      simp only [Except.map, endTurn_eq]
      have hprefix : "Error: ".toList <+:
          ("Error: " ++ error.message ++ "\n" ++ turnEnd settings).toList := by
        rw [String.append_assoc, String.append_assoc, String.toList_append]
        exact List.prefix_append _ _
      rw [List.isPrefixOf_iff_prefix.mpr hprefix]
      rfl
  | ok evaluation =>
      obtain ⟨first, rest, hcons, hfirst⟩ := exists_shown_eq_cons settings.showSteps evaluation
      have hother : ('E' == first) = false := by
        simpa using hfirst.symm
      simp only [Except.map, endTurn_eq]
      rw [String.append_assoc, String.toList_append, hcons]
      show ('E' == first && _) = false
      rw [hother, Bool.false_and]

section

variable {settings : Settings} {files : Files} {flushFails : Bool} {script : List Event}
  {read : Nat}

theorem text?_of_expression {line : String}
    (hexpression : (run settings files { flushFails } script).expression? script read =
      some line) :
    (run settings files { flushFails } script).text? (read + 1) =
      some (respond settings files .expression (.line line)).text := by
  obtain ⟨prompt, hprompt, event, hevent, hline⟩ :
      ∃ prompt, (run settings files { flushFails } script).prompt? read = some prompt ∧
        ∃ event, script[read]? = some event ∧ expressionAt? prompt event = some line := by
    simpa [Transcript.expression?, Option.bind_eq_some_iff] using hexpression
  obtain ⟨rfl, rfl⟩ := expressionAt?_eq_some_iff.mp hline
  obtain ⟨question, hquestion, hreplies⟩ := exists_question_agreeButReply hevent hprompt
  obtain rfl := eq_expression_of_prompt hquestion
  have hnext : (respond settings files .expression (.line line)).next =
      .ask (turnNext settings) := by
    obtain ⟨answer, hanswer⟩ := exists_respond_expression_eq settings files line
    rw [hanswer, endTurn_eq]
  exact (hreplies (.line line) _ hnext hnext).text

/-- A read takes an expression without a value just when it takes one and is
followed by the report of an error. -/
theorem any_isRefused_expression? :
    ((run settings files { flushFails } script).expression? script read).any isRefused =
      (((run settings files { flushFails } script).expression? script read).isSome &&
        ((run settings files { flushFails } script).text? (read + 1)).any reportsError) := by
  cases hexpression : (run settings files { flushFails } script).expression? script read with
  | none => rfl
  | some line =>
      rw [text?_of_expression hexpression, Option.any_some, Option.any_some, reportsError_respond]
      rfl

end

/-! ## Sessions -/

section

variable {settings : Settings} {files : Files} {console : Console} {script : List Event}

/-- Whether the console accepts all that a session has to write, so that no write
fails. -/
def WritesAll (settings : Settings) (files : Files) (console : Console) (script : List Event) :
    Prop :=
  ∀ limit, console.capacity = some limit →
    (run settings files { console with capacity := none } script).bytes.size ≤ limit

theorem run_of_writesAll (hwrites : WritesAll settings files console script) :
    run settings files console script =
      run settings files { console with capacity := none } script := by
  obtain ⟨capacity, flushFails⟩ := console
  cases capacity with
  | none => rfl
  | some limit =>
      exact (converse_isLimited settings files flushFails {} menu .choice script limit).eq_of_fits
        (hwrites limit rfl)

theorem errors_of_writesAll (hwrites : WritesAll settings files console script) :
    (run settings files console script).tally.errors =
      (run settings files console script).errorsShown script := by
  rw [tally_run, run_of_writesAll hwrites]
  exact List.countP_congr fun read _ => by rw [any_isRefused_expression?]

end

/-- **The counters count the expressions that were read.**  On any console, and
however a session ends, it has counted an evaluation for every line that was read
at the prompt for an expression, and an error for each of these lines that has no
value.  If no write failed, these are the lines after which the text starts with
`Error: `.  A read that takes no expression, whatever is wrong with what it takes,
leaves the counters as they are. -/
theorem run_counters (settings : Settings) (files : Files) (console : Console)
    (script : List Event) :
    (run settings files console script).tally.evaluations =
        (run settings files console script).expressionsRead script ∧
      (run settings files console script).tally.errors =
        (run settings files console script).expressionsRefused script ∧
      (WritesAll settings files console script →
        (run settings files console script).tally.errors =
          (run settings files console script).errorsShown script) ∧
      ∀ read, (run settings files console script).expression? script read = none →
        (run settings files console (script.take (read + 1))).tally =
          (run settings files console (script.take read)).tally := by
  have htally := tally_run settings files console script
  refine ⟨congrArg Tally.evaluations htally, congrArg Tally.errors htally, errors_of_writesAll,
    fun read hnone => ?_⟩
  rw [tally_run_take_succ, hnone]
  rfl

/-- An unfinished sum is counted and shown as an error, on a console where it fits;
the choice before it counts for nothing. -/
theorem run_counters_unfinishedSum :
    (run {} (fun _ => .error .notFound) { capacity := some 500 }
        [.line "3", .line "2+"]).tally.evaluations = 1 ∧
      (run {} (fun _ => .error .notFound) { capacity := some 500 }
        [.line "3", .line "2+"]).tally.errors = 1 ∧
      (run {} (fun _ => .error .notFound) { capacity := some 500 }
        [.line "3", .line "2+"]).errorsShown [.line "3", .line "2+"] = 1 ∧
      (run {} (fun _ => .error .notFound) { capacity := some 500 } [.line "3"]).tally =
        (run {} (fun _ => .error .notFound) { capacity := some 500 } []).tally := by
  obtain ⟨hevaluations, herrors, hshown, hunchanged⟩ :=
    run_counters {} (fun _ => .error .notFound) { capacity := some 500 } [.line "3", .line "2+"]
  have hwrites : WritesAll {} (fun _ => .error .notFound) { capacity := some 500 }
      [.line "3", .line "2+"] := by
    rintro limit ⟨rfl⟩
    decide +kernel
  have hrefused : (run {} (fun _ => .error .notFound) { capacity := some 500 }
      [.line "3", .line "2+"]).tally.errors = 1 := herrors.trans (by decide +kernel)
  refine ⟨hevaluations.trans (by decide +kernel), hrefused, ?_, ?_⟩
  · exact (hshown hwrites).symm.trans hrefused
  · exact hunchanged 0 (by decide +kernel)

end CipherCalc.Session
