import CipherCalc.Proofs.Session.Agreement
import CipherCalc.Proofs.Session.Reply
import CipherCalc.Proofs.Session.Succession

/-!
# What is typed in one turn stays in it

When an expression is replaced by another one, or a shift by another shift, or a
text to be worked on by another text, one text of the session changes, which is
the answer, and everything else stays as it is (`run_isolated`).

An expression and a shift are answered at once, and every answer to them asks the
same question, so the sessions agree but for that answer.  A text is carried along
until its shift is known: two sessions with different texts ask questions that
differ in them (`Twins`) until both report at the same read.
-/

namespace CipherCalc.Session

variable {settings : Settings} {files : Files} {flushFails : Bool}

/-! ## Questions that carry a text -/

/-- A line read at a prompt settles how a task is done with a text, and what is
reported. -/
inductive Reports (task : Task) (text : String) : String → String → String → Prop
  | shift {line : String} {shift : Int64} : shiftOfLine? line = some shift →
      Reports task text "Enter shift value: " line (cipherReport task (task.result shift text))
  | unknown {line : String} : task = .decipher → Consent.ofLine line ≠ .yes →
      Reports task text "Is shift value known? (y/n): " line
        (cipherReport .decipher (Cipher.reveal .unknown text))

/-- Two questions of a task that differ in the text that they carry. -/
inductive Twins (task : Task) (old new : String) : Question → Question → Prop
  | shift : Twins task old new (.shift task old) (.shift task new)
  | shiftKnown : task = .decipher → Twins task old new (.shiftKnown old) (.shiftKnown new)

theorem Twins.prompt_eq {task : Task} {old new : String} {question other : Question}
    (htwins : Twins task old new question other) : other.prompt = question.prompt := by
  cases htwins <;> rfl

/-- Twins are answered alike, unless the answer is the report. -/
theorem Twins.step {task : Task} {old new : String} {question other : Question}
    (htwins : Twins task old new question other) (settings : Settings) (files : Files)
    (event : Event) :
    (∃ ending, (respond settings files question event).next = .finish ending ∧
        respond settings files other event = respond settings files question event) ∨
      (∃ next otherNext, Twins task old new next otherNext ∧
        (respond settings files question event).next = .ask next ∧
        respond settings files other event =
          { respond settings files question event with next := .ask otherNext }) ∨
      ∃ line report otherReport, event = .line line ∧
        Reports task old question.prompt line report ∧
        Reports task new question.prompt line otherReport ∧
        respond settings files question event = endTurn settings report {} ∧
        respond settings files other event = endTurn settings otherReport {} := by
  cases event with
  | interrupt => exact .inl ⟨_, rfl, rfl⟩
  | endOfInput => exact .inl ⟨_, rfl, rfl⟩
  | failure message => exact .inl ⟨_, rfl, rfl⟩
  | line line =>
      right
      cases htwins with
      | shift =>
          cases hshift : shiftOfLine? line with
          | none =>
              have hreply := respond_shift_of_none hshift settings files task
              left
              refine ⟨.shift task old, .shift task new, .shift, ?_, ?_⟩
              · rw [hreply]
              · rw [hreply, hreply]
          | some shift =>
              have hreply := respond_shift_of_some hshift settings files task
              exact .inr ⟨line, _, _, rfl, .shift hshift, .shift hshift, hreply old, hreply new⟩
      | shiftKnown htask =>
          subst htask
          by_cases hyes : Consent.ofLine line = .yes
          · have hreply := respond_shiftKnown_of_yes hyes settings files
            left
            refine ⟨.shift .decipher old, .shift .decipher new, .shift, ?_, ?_⟩
            · rw [hreply]
              rfl
            · rw [hreply, hreply]
              rfl
          · have hreply := respond_shiftKnown_of_ne_yes hyes settings files
            exact .inr ⟨line, _, _, rfl, .unknown rfl hyes, .unknown rfl hyes, hreply old,
              hreply new⟩

/-! ## The report of a task -/

/-- A transcript reports what a task makes of a text when a line is read that
settles it, and with that the turn ends. -/
def ReportsAt (settings : Settings) (task : Task) (text line : String) (read : Nat)
    (transcript : Transcript) : Prop :=
  ∃ prompt report, transcript.prompt? read = some prompt ∧ Reports task text prompt line report ∧
    transcript.text? (read + 1) = some (report ++ turnEnd settings)

/-- Two transcripts are the same but for the report of a task on two texts.  From
a first read on, nothing is asked until then but how to do the task. -/
structure ReportsApart (settings : Settings) (task : Task) (old new line : String)
    (start read : Nat) (first second : Transcript) : Prop
    extends AgreeBut (read + 1) first second where
  tally : second.tally = first.tally
  asked : ∀ between, start ≤ between → between ≤ read →
    first.prompt? between = some "Is shift value known? (y/n): " ∨
      first.prompt? between = some "Enter shift value: "
  report : ReportsAt settings task old line read first
  otherReport : ReportsAt settings task new line read second

theorem Twins.asked {task : Task} {old new : String} {question other : Question}
    (htwins : Twins task old new question other) :
    question.prompt = "Is shift value known? (y/n): " ∨
      question.prompt = "Enter shift value: " := by
  cases htwins with
  | shift => exact .inr rfl
  | shiftKnown => exact .inl rfl

theorem ReportsApart.after {task : Task} {old new line : String} {start read : Nat}
    {first second : Transcript}
    (hapart : ReportsApart settings task old new line start read first second)
    (exchange : Exchange) :
    ReportsApart settings task old new line (start + 1) (read + 1) (first.after exchange)
      (second.after exchange) where
  toAgreeBut := hapart.toAgreeBut.after exchange
  tally := hapart.tally
  asked between hstart hread := by
    cases between with
    | zero => exact absurd hstart (Nat.not_succ_le_zero start)
    | succ between =>
        exact hapart.asked between (Nat.le_of_succ_le_succ hstart) (Nat.le_of_succ_le_succ hread)
  report := hapart.report
  otherReport := hapart.otherReport

theorem ReportsApart.of_first {task : Task} {old new line : String} {read : Nat}
    {first second : Transcript}
    (hapart : ReportsApart settings task old new line 1 read first second)
    (hfirst : first.prompt? 0 = some "Is shift value known? (y/n): " ∨
      first.prompt? 0 = some "Enter shift value: ") :
    ReportsApart settings task old new line 0 read first second :=
  { hapart with
    asked := fun between _ hread => by
      cases between with
      | zero => exact hfirst
      | succ between => exact hapart.asked _ (Nat.succ_le_succ (Nat.zero_le _)) hread }

/-- Replies that end the turn with a report of each text. -/
theorem reportsApart_of_endTurn {task : Task} {old new line report otherReport : String}
    {question other : Question} (htwins : Twins task old new question other)
    (hreports : Reports task old question.prompt line report)
    (hother : Reports task new question.prompt line otherReport)
    (hreply : respond settings files question (.line line) = endTurn settings report {})
    (hotherReply : respond settings files other (.line line) = endTurn settings otherReport {})
    (flushFails : Bool) (tally : Tally) (text : String) (script : List Event) :
    ReportsApart settings task old new line 0 0
      (converse settings files { flushFails } tally text question (.line line :: script))
      (converse settings files { flushFails } tally text other (.line line :: script)) := by
  rw [endTurn_eq] at hreply hotherReply
  have hnext : (respond settings files question (.line line)).next = .ask (turnNext settings) := by
    rw [hreply]
  have hotherNext : (respond settings files other (.line line)).next =
      .ask (turnNext settings) := by rw [hotherReply]
  have hagree := agreeButReply_of_ask htwins.prompt_eq hnext hotherNext flushFails tally text script
  rw [hreply, hotherReply] at hagree
  have hprompt : (converse settings files { flushFails } tally text question
      (.line line :: script)).prompt? 0 = some question.prompt := by
    rw [converse_of_ask (write_none text) hnext]
    rfl
  obtain ⟨base, htally, hotherTally⟩ := hagree.tally
  refine ⟨hagree.toAgreeBut, hotherTally.trans htally.symm, ?_, ?_, ?_⟩
  · intro between _ hread
    obtain rfl := Nat.le_zero.mp hread
    exact htwins.asked.imp (fun h => hprompt.trans (congrArg some h))
      fun h => hprompt.trans (congrArg some h)
  · exact ⟨question.prompt, report, hprompt, hreports, hagree.text⟩
  · exact ⟨question.prompt, otherReport, (hagree.prompts 0).trans hprompt, hother, hagree.otherText⟩

/-- Sessions that go on from twins are the same, or they report apart. -/
theorem Twins.run {task : Task} {old new : String} {question other : Question}
    (htwins : Twins task old new question other) (settings : Settings) (files : Files)
    (flushFails : Bool) (tally : Tally) (text : String) (script : List Event) :
    converse settings files { flushFails } tally text other script =
        converse settings files { flushFails } tally text question script ∨
      ∃ read line, script[read]? = some (.line line) ∧
        ReportsApart settings task old new line 0 read
          (converse settings files { flushFails } tally text question script)
          (converse settings files { flushFails } tally text other script) := by
  -- twins stay twins until a reply ends the session, the same for both, or is the report
  induction script generalizing question other tally text with
  | nil =>
      left
      rw [converse_nil (write_none text), converse_nil (write_none text), htwins.prompt_eq]
  | cons event script ih =>
      rcases htwins.step settings files event with
        ⟨ending, hnext, hsame⟩ | ⟨next, otherNext, hnexts, hnext, hsame⟩ |
          ⟨line, report, otherReport, rfl, hreports, hother, hreply, hotherReply⟩
      · left
        have hotherNext : (respond settings files other event).next = .finish ending := by
          rw [hsame, hnext]
        rw [converse_of_finish (write_none text) hnext,
          converse_of_finish (write_none text) hotherNext, hsame, htwins.prompt_eq]
      · have hotherNext : (respond settings files other event).next = .ask otherNext := by
          rw [hsame]
        rw [converse_of_ask (write_none text) hnext, converse_of_ask (write_none text) hotherNext,
          hsame, htwins.prompt_eq]
        rcases ih hnexts (tally + (respond settings files question event).gain)
          (respond settings files question event).text with heq | ⟨read, line, hline, hapart⟩
        · exact .inl (congrArg (Transcript.after _) heq)
        · refine .inr ⟨read + 1, line, hline, (hapart.after _).of_first ?_⟩
          exact htwins.asked.imp (congrArg some) (congrArg some)
      · exact .inr ⟨0, line, rfl, reportsApart_of_endTurn htwins hreports hother hreply hotherReply
          flushFails tally text script⟩

theorem ReportsApart.afterAll {task : Task} {old new line : String} {start read : Nat}
    {first second : Transcript}
    (hapart : ReportsApart settings task old new line start (start + read) first second)
    (exchanges : List Exchange) :
    ReportsApart settings task old new line (start + exchanges.length)
      (start + exchanges.length + read) (first.afterAll exchanges) (second.afterAll exchanges) := by
  refine afterAll_induction
    (motive := fun index => ReportsApart settings task old new line index (index + read))
    (fun index first second exchange hapart => ?_) hapart exchanges
  have hafter := hapart.after exchange
  rwa [Nat.add_right_comm] at hafter

/-! ## Replies to what is replaced -/

/-- Two texts that are not blank lead to twins. -/
theorem exists_twins_of_text {task : Task} {old new : String} (hold : ¬ Text.isBlankText old)
    (hnew : ¬ Text.isBlankText new) (settings : Settings) :
    ∃ question other, Twins task old new question other ∧
      replyToText settings task old = askNext question ∧
      replyToText settings task new = askNext other := by
  unfold replyToText
  rw [if_neg hold, if_neg hnew]
  cases task with
  | encipher => exact ⟨_, _, .shift, rfl, rfl⟩
  | decipher => exact ⟨_, _, .shiftKnown rfl, rfl, rfl⟩

/-! ## Sessions -/

/-- Two transcripts are the same but for the answer to the expression that was
read at an index, and the errors that the two expressions count for. -/
structure AnswersApart (old new : String) (index : Nat) (first second : Transcript) : Prop
    extends AgreeBut (index + 1) first second where
  evaluations : second.tally.evaluations = first.tally.evaluations
  errors : second.tally.errors + errorsOf old = first.tally.errors + errorsOf new

/-- Two transcripts are the same but for the report on the text for which two
shifts were read at an index. -/
structure ShiftsApart (settings : Settings) (old new : String) (index : Nat)
    (first second : Transcript) : Prop extends AgreeBut (index + 1) first second where
  tally : second.tally = first.tally
  reports : ∃ task text, ReportsAt settings task text old index first ∧
    ReportsAt settings task text new index second

variable {script : List Event} {index : Nat} {old new : String}

theorem run_answersApart (hline : script[index]? = some (.line old))
    (hprompt : (run settings files { flushFails } script).prompt? index =
      some "Enter the expression: ") (new : String) :
    AnswersApart old new index (run settings files { flushFails } script)
      (run settings files { flushFails } (script.set index (.line new))) := by
  obtain ⟨question, hquestion, hreplies⟩ := exists_question_agreeButReply hline hprompt
  obtain rfl := eq_expression_of_prompt hquestion
  obtain ⟨answer, hanswer⟩ := exists_respond_expression_eq settings files old
  obtain ⟨other, hother⟩ := exists_respond_expression_eq settings files new
  rw [endTurn_eq] at hanswer hother
  have hagree := hreplies (.line new) (turnNext settings) (by rw [hanswer]) (by rw [hother])
  obtain ⟨base, htally, hotherTally⟩ := hagree.tally
  refine ⟨hagree.toAgreeBut, ?_, ?_⟩
  · rw [htally, hotherTally, hanswer, hother]
    rfl
  · rw [htally, hotherTally, hanswer, hother]
    exact Nat.add_right_comm _ _ _

theorem run_shiftsApart (hline : script[index]? = some (.line old))
    (hprompt : (run settings files { flushFails } script).prompt? index =
      some "Enter shift value: ") {shift newShift : Int64} (hold : shiftOfLine? old = some shift)
    (hnew : shiftOfLine? new = some newShift) :
    ShiftsApart settings old new index (run settings files { flushFails } script)
      (run settings files { flushFails } (script.set index (.line new))) := by
  obtain ⟨question, hquestion, hreplies⟩ := exists_question_agreeButReply hline hprompt
  obtain ⟨task, text, rfl⟩ := exists_eq_shift_of_prompt hquestion
  have hfirst := respond_shift_of_some hold settings files task text
  have hsecond := respond_shift_of_some hnew settings files task text
  rw [endTurn_eq] at hfirst hsecond
  have hagree := hreplies (.line new) (turnNext settings) (by rw [hfirst]) (by rw [hsecond])
  obtain ⟨base, htally, hotherTally⟩ := hagree.tally
  have htext := hagree.text
  have hotherText := hagree.otherText
  rw [hfirst] at htally htext
  rw [hsecond] at hotherTally hotherText
  refine ⟨hagree.toAgreeBut, hotherTally.trans htally.symm, task, text, ?_, ?_⟩
  · exact ⟨_, _, hprompt, .shift hold, htext⟩
  · exact ⟨_, _, (hagree.prompts index).trans hprompt, .shift hnew, hotherText⟩

/-- Where a text is read that is not blank, the session goes on with a question
that carries it. -/
theorem converse_text {task : Task} {line : String} {next : Question}
    (hreply : replyToText settings task line = askNext next) (flushFails : Bool) (tally : Tally)
    (text : String) (script : List Event) :
    converse settings files { flushFails } tally text (.text task) (.line line :: script) =
      (converse settings files { flushFails } tally "" next script).after
        ⟨text, (Question.text task).prompt⟩ := by
  have hrespond : respond settings files (.text task) (.line line) = askNext next := hreply
  exact converse_of_reply hrespond tally text script

theorem run_reportsApart {task : Task} (hline : script[index]? = some (.line old))
    (hprompt : (run settings files { flushFails } script).prompt? index =
      some ("Enter text to " ++ task.verb ++ ": "))
    (hold : Text.trim old ≠ "") (hnew : Text.trim new ≠ "") :
    run settings files { flushFails } (script.set index (.line new)) =
        run settings files { flushFails } script ∨
      ∃ read line, index < read ∧ script[read]? = some (.line line) ∧
        ReportsApart settings task old new line (index + 1) read
          (run settings files { flushFails } script)
          (run settings files { flushFails } (script.set index (.line new))) := by
  obtain ⟨exchanges, tally, text, question, hlength, hquestion, hrun⟩ :=
    exists_question_of_read hline hprompt
  obtain rfl := eq_text_of_prompt hquestion
  have hself := hrun (.line old)
  rw [set_self_of_getElem? hline] at hself
  rw [Ne, Text.trim_eq_empty_iff] at hold hnew
  obtain ⟨next, other, htwins, hnext, hother⟩ := exists_twins_of_text hold hnew settings
  rw [hself, hrun, converse_text hnext, converse_text hother]
  rcases htwins.run settings files flushFails tally "" (script.drop (index + 1)) with
    heq | ⟨read, line, hread, hapart⟩
  · left
    rw [heq]
  · right
    -- the read of the report was counted from behind the text, and is now counted from the start
    have hafter := hapart.after ⟨text, (Question.text task).prompt⟩
    rw [Nat.zero_add, Nat.add_comm read] at hafter
    have hall := hafter.afterAll exchanges
    rw [hlength, Nat.add_comm 1 index] at hall
    rw [List.getElem?_drop] at hread
    exact ⟨index + 1 + read, line, by omega, hread, hall⟩

/-- **What is typed in one turn stays in it.**  On a console that takes every
byte, a line that was read as an expression can be replaced by any other one: the
session asks, writes, reads and ends as before but for the answer, and only the
counter of errors moves, by what the two lines count for.  A shift can be replaced
by another shift, and a text to be worked on by another one that is not blank; then
at most the report of that task changes. -/
theorem run_isolated (hline : script[index]? = some (.line old)) (settings : Settings)
    (files : Files) (flushFails : Bool) (new : String) :
    ((run settings files { flushFails } script).prompt? index = some "Enter the expression: " →
      AnswersApart old new index (run settings files { flushFails } script)
        (run settings files { flushFails } (script.set index (.line new)))) ∧
    (∀ task : Task, (run settings files { flushFails } script).prompt? index =
        some ("Enter text to " ++ task.verb ++ ": ") →
      Text.trim old ≠ "" → Text.trim new ≠ "" →
      run settings files { flushFails } (script.set index (.line new)) =
          run settings files { flushFails } script ∨
        ∃ read line, index < read ∧ script[read]? = some (.line line) ∧
          ReportsApart settings task old new line (index + 1) read
            (run settings files { flushFails } script)
            (run settings files { flushFails } (script.set index (.line new)))) ∧
    ((run settings files { flushFails } script).prompt? index = some "Enter shift value: " →
      (shiftOfLine? old).isSome → (shiftOfLine? new).isSome →
      ShiftsApart settings old new index (run settings files { flushFails } script)
        (run settings files { flushFails } (script.set index (.line new)))) := by
  refine ⟨fun hprompt => run_answersApart hline hprompt new,
    fun task hprompt hold hnew => run_reportsApart hline hprompt hold hnew,
    fun hprompt hold hnew => ?_⟩
  obtain ⟨shift, hshift⟩ := Option.isSome_iff_exists.mp hold
  obtain ⟨newShift, hnewShift⟩ := Option.isSome_iff_exists.mp hnew
  exact run_shiftsApart hline hprompt hshift hnewShift

/-- One shift for another: the two sessions differ in the hidden text alone. -/
theorem run_isolated_shiftBack :
    ShiftsApart {} "3" "-1" 3
      (run {} (fun _ => .error .notFound) {}
        [.line "1", .line "console", .line "abc", .line "3", .line "n"])
      (run {} (fun _ => .error .notFound) {}
        [.line "1", .line "console", .line "abc", .line "-1", .line "n"]) := by
  have hline : [Event.line "1", .line "console", .line "abc", .line "3", .line "n"][3]? =
      some (.line "3") := rfl
  have hprompt : (run {} (fun _ => .error .notFound) {}
      [.line "1", .line "console", .line "abc", .line "3", .line "n"]).prompt? 3 =
        some "Enter shift value: " := by decide +kernel
  obtain ⟨-, -, hshift⟩ := run_isolated hline {} (fun _ => .error .notFound) false "-1"
  exact hshift hprompt (by decide +kernel) (by decide +kernel)

end CipherCalc.Session
