import CipherCalc.Proofs.Session.Succession

/-!
# A session ends as its last read says

Every question may find the input at its end, be interrupted or fail to be read,
however deep in an action it is asked.  Of the lines, only a choice and an answer
to whether the session goes on can end it.  `Ends` lists these reads, each by the
prompt and by what was read there, with the last text and the ending.

`ends_iff` compares the list with the reply to a read, and `run_ending` says of a
whole session that it ends at just these reads.
-/

namespace CipherCalc.Session

/-- What is read at a prompt ends a session, with a last text and an ending. -/
inductive Ends : String → Option Event → String → Ending → Prop
  | exhausted {prompt : String} : Ends prompt none "" (.exit .normal)
  | endOfInput {prompt : String} : Ends prompt (some .endOfInput) "" (.exit .normal)
  | interrupt {prompt : String} : Ends prompt (some .interrupt) "" (.exit .interrupted)
  | failure {prompt message : String} : Ends prompt (some (.failure message)) "" (.failed message)
  | leave {line : String} : Text.trim line = "4" →
      Ends "Enter your choice: " (some (.line line)) "Exiting...\n" (.exit .normal)
  | no {line : String} {char : Char} : Text.firstVisible? line = some char → char ∈ ['n', 'N'] →
      Ends "Continue? (y/n): " (some (.line line)) "" (.exit .normal)
  | unclear {line : String} {char : Char} : Text.firstVisible? line = some char →
      char ∉ ['y', 'Y', 'n', 'N'] →
      Ends "Continue? (y/n): " (some (.line line)) "Error: unexpected character.\n"
        (.exit .unexpected)

variable {settings : Settings} {files : Files} {line text : String} {ending : Ending}

/-! ## One read -/

/-- Only a choice and an answer to whether the session goes on can end it. -/
theorem eq_choice_or_again_of_stage? {question : Question}
    (hstage : (reply settings files question line).stage? = none) :
    question = .choice ∨ question = .again := by
  unfold reply at hstage
  cases question with
  | choice => exact .inl rfl
  | again => exact .inr rfl
  | source task =>
      dsimp only [replyToSource] at hstage
      split at hstage <;> simp at hstage
  | text task =>
      dsimp only at hstage
      rw [stage?_replyToText] at hstage
      cases hstage
  | path task =>
      dsimp only [replyToPath] at hstage
      split at hstage <;> simp [stage?_replyToText] at hstage
  | shiftKnown text =>
      dsimp only at hstage
      rw [stage?_replyToShiftKnown] at hstage
      cases hstage
  | shift task text =>
      dsimp only [replyToShift] at hstage
      split at hstage
      · rw [stage?_endTurn] at hstage
        cases hstage
      · cases hstage
  | expression =>
      dsimp only at hstage
      rw [stage?_replyToExpression] at hstage
      cases hstage

theorem ends_choice_iff (settings : Settings) (files : Files) :
    Ends "Enter your choice: " (some (.line line)) text ending ↔
      (respond settings files .choice (.line line)).next = .finish ending ∧
        (respond settings files .choice (.line line)).text = text := by
  show _ ↔ (replyToChoice settings line).next = .finish ending ∧
    (replyToChoice settings line).text = text
  unfold replyToChoice
  constructor
  · generalize hprompt : "Enter your choice: " = prompt
    intro hends
    cases hends with
    | leave hline =>
        have hchoice : Choice.ofLine? line = some .leave := Choice.ofLine?_eq_some_iff.mpr hline
        rw [hchoice]
        exact ⟨rfl, rfl⟩
    | no => exact absurd hprompt (by decide)
    | unclear => exact absurd hprompt (by decide)
  · rintro ⟨hnext, rfl⟩
    cases hchoice : Choice.ofLine? line with
    | none =>
        have hstage : (endTurn settings "Invalid choice.\n" {}).stage? =
            some (.afterTurn settings) := stage?_endTurn _ _
        rw [hchoice] at hnext
        rw [Reply.stage?, hnext] at hstage
        cases hstage
    | some choice =>
        have hline := Choice.ofLine?_eq_some_iff.mp hchoice
        rw [hchoice] at hnext
        cases choice with
        | leave =>
            cases hnext
            exact .leave hline
        | _ => cases hnext

theorem ends_again_iff (settings : Settings) (files : Files) :
    Ends "Continue? (y/n): " (some (.line line)) text ending ↔
      (respond settings files .again (.line line)).next = .finish ending ∧
        (respond settings files .again (.line line)).text = text := by
  show _ ↔ (replyToAgain line).next = .finish ending ∧ (replyToAgain line).text = text
  unfold replyToAgain
  constructor
  · generalize hprompt : "Continue? (y/n): " = prompt
    intro hends
    cases hends with
    | leave => exact absurd hprompt (by decide)
    | no hfirst hno =>
        rw [if_neg (Text.not_isBlankText_of_firstVisible? hfirst),
          Consent.ofLine_eq_no_iff.mpr ⟨_, hfirst, hno⟩]
        exact ⟨rfl, rfl⟩
    | @unclear _ first hfirst hunclear =>
        have hconsent : Consent.ofLine line = .unclear := by
          refine Consent.ofLine_eq_unclear_iff.mpr fun char hchar => ?_
          rw [hfirst] at hchar
          exact Option.some.inj hchar ▸ hunclear
        rw [if_neg (Text.not_isBlankText_of_firstVisible? hfirst), hconsent]
        exact ⟨rfl, rfl⟩
  · rintro ⟨hnext, rfl⟩
    by_cases hline : Text.isBlankText line
    · rw [if_pos hline] at hnext
      cases hnext
    · rw [if_neg hline] at hnext ⊢
      obtain ⟨first, hfirst⟩ := Option.ne_none_iff_exists'.mp
        fun hnone => hline (Text.firstVisible?_eq_none_iff.mp hnone)
      cases hconsent : Consent.ofLine line with
      | yes =>
          rw [hconsent] at hnext
          cases hnext
      | no =>
          rw [hconsent] at hnext
          cases hnext
          obtain ⟨char, hchar, hno⟩ := Consent.ofLine_eq_no_iff.mp hconsent
          exact .no hchar hno
      | unclear =>
          rw [hconsent] at hnext
          cases hnext
          exact .unclear hfirst (Consent.ofLine_eq_unclear_iff.mp hconsent first hfirst)

/-- A read ends a session just when its reply does, with the same text. -/
theorem ends_iff (settings : Settings) (files : Files) {question : Question} {event : Event} :
    Ends question.prompt (some event) text ending ↔
      (respond settings files question event).next = .finish ending ∧
        (respond settings files question event).text = text := by
  constructor
  · generalize hprompt : question.prompt = prompt
    intro hends
    cases hends with
    | endOfInput => exact ⟨rfl, rfl⟩
    | interrupt => exact ⟨rfl, rfl⟩
    | failure => exact ⟨rfl, rfl⟩
    | leave hline =>
        obtain rfl := eq_choice_of_prompt hprompt
        exact (ends_choice_iff settings files).mp (.leave hline)
    | no hfirst hno =>
        obtain rfl := eq_again_of_prompt hprompt
        exact (ends_again_iff settings files).mp (.no hfirst hno)
    | unclear hfirst hunclear =>
        obtain rfl := eq_again_of_prompt hprompt
        exact (ends_again_iff settings files).mp (.unclear hfirst hunclear)
  · rintro ⟨hnext, rfl⟩
    cases event with
    | line line =>
        have hfinish : (reply settings files question line).next = .finish ending := hnext
        have hstage : (reply settings files question line).stage? = none := by
          rw [Reply.stage?, hfinish]
        rcases eq_choice_or_again_of_stage? hstage with rfl | rfl
        · exact (ends_choice_iff settings files).mpr ⟨hfinish, rfl⟩
        · exact (ends_again_iff settings files).mpr ⟨hfinish, rfl⟩
    | interrupt =>
        cases hnext
        exact .interrupt
    | endOfInput =>
        cases hnext
        exact .endOfInput
    | failure message =>
        cases hnext
        exact .failure

theorem ends_none_iff {prompt : String} :
    Ends prompt none text ending ↔ "" = text ∧ .exit .normal = ending := by
  constructor
  · rintro ⟨⟩
    exact ⟨rfl, rfl⟩
  · rintro ⟨rfl, rfl⟩
    exact .exhausted

/-- What is read at a prompt leaves no choice of the last text and the ending. -/
theorem Ends.unique {prompt : String} {event : Option Event} {other : String}
    {otherEnding : Ending} (hends : Ends prompt event text ending)
    (hother : Ends prompt event other otherEnding) : text = other ∧ ending = otherEnding := by
  generalize hprompt : prompt = same at hother
  generalize hevent : event = read at hother
  cases hends <;> cases hother <;> simp_all

/-! ## Sessions -/

/-- A session ends at a read just when the read ends it, and as the read says. -/
structure EndsAsRead (script : List Event) (transcript : Transcript) : Prop where
  exchanges_ne_nil : transcript.exchanges ≠ []
  rest_is_text : ∃ last : String, transcript.rest = last.toUTF8
  ends_iff_last : ∀ index exchange, transcript.exchanges[index]? = some exchange →
    ∀ last ending, Ends exchange.prompt script[index]? last ending ↔
      index + 1 = transcript.exchanges.length ∧ transcript.rest = last.toUTF8 ∧
        transcript.ending = ending

theorem endsAsRead_finished {script : List Event} {tally : Tally} {exchange : Exchange}
    {last : String} {ending : Ending} {unread : List Event}
    (hends : ∀ otherLast otherEnding, Ends exchange.prompt script[0]? otherLast otherEnding ↔
      last = otherLast ∧ ending = otherEnding) :
    EndsAsRead script ((close {} tally last ending unread).after exchange) := by
  refine ⟨List.cons_ne_nil _ _, ⟨last, rfl⟩, fun index other hother otherLast otherEnding => ?_⟩
  cases index with
  | zero =>
      obtain rfl := Option.some.inj hother
      have hclose : close {} tally last ending unread =
          { exchanges := [], rest := last.toUTF8, tally, unread, ending } := by
        rw [close_of_write (write_none last), flushed_false]
      have hrest : last.toUTF8 = otherLast.toUTF8 ↔ last = otherLast := String.toByteArray_inj
      simp only [hends, hclose, Transcript.exchanges_after, List.length_singleton,
        Transcript.rest_after, Transcript.ending_after, hrest, true_and]
  | succ index => cases hother

theorem EndsAsRead.after {event : Event} {later : List Event} {question next : Question}
    {transcript : Transcript} (hnext : (respond settings files question event).next = .ask next)
    (hends : EndsAsRead later transcript) (text : String) :
    EndsAsRead (event :: later) (transcript.after ⟨text, question.prompt⟩) := by
  refine ⟨List.cons_ne_nil _ _, hends.rest_is_text, fun index exchange hexchange last ending => ?_⟩
  cases index with
  | zero =>
      obtain rfl := Option.some.inj hexchange
      have hlength := List.length_pos_of_ne_nil hends.exchanges_ne_nil
      constructor
      · intro hread
        have hfinish := ((ends_iff settings files).mp hread).1
        rw [hnext] at hfinish
        cases hfinish
      · rintro ⟨hlast, -⟩
        simp only [Transcript.exchanges_after, List.length_cons] at hlast
        omega
  | succ index =>
      rw [List.getElem?_cons_succ, hends.ends_iff_last index exchange hexchange]
      simp only [Transcript.exchanges_after, List.length_cons, Nat.add_right_cancel_iff,
        Transcript.rest_after, Transcript.ending_after]

theorem converse_endsAsRead (tally : Tally) (text : String) (question : Question)
    (script : List Event) :
    EndsAsRead script (converse settings files {} tally text question script) := by
  refine converse_induction settings files false
    (motive := fun _ _ _ script transcript => EndsAsRead script transcript)
    ?exhausted ?finished ?asked tally text question script
  case exhausted =>
    intro tally text question
    exact endsAsRead_finished fun last ending => ends_none_iff
  case finished =>
    intro tally text question event later ending hnext
    refine endsAsRead_finished fun last otherEnding => ?_
    rw [List.getElem?_cons_zero, ends_iff settings files, hnext, Next.finish.injEq, and_comm]
  case asked =>
    intro tally text question event later next transcript hnext ih
    exact ih.after hnext text

/-! ## Sessions that do not ask whether to go on -/

theorem prompt_of_ends_unexpected {prompt : String} {event : Option Event}
    (hends : Ends prompt event text (.exit .unexpected)) : prompt = "Continue? (y/n): " := by
  cases hends
  rfl

theorem eq_again_of_succeeds {stage : Stage} (hask : settings.askContinue = false)
    (hnext : Succeeds settings files stage line .again) : stage = .again := by
  have hturn : Stage.afterTurn settings = .choice := by
    rw [Stage.afterTurn, hask, if_neg Bool.false_ne_true]
  have htext : ∀ task : Task, Stage.again ≠ .withText task := by
    intro task
    cases task <;> decide
  generalize hagain : Stage.again = next at hnext
  cases hnext <;>
    first
      | rfl
      | cases hagain
      | exact absurd hagain (htext _)
      | exact absurd (hagain.trans hturn) (by decide)

theorem converse_prompts_ne_again (hask : settings.askContinue = false) (tally : Tally)
    (text : String) (question : Question) (script : List Event) :
    question ≠ .again →
      ∀ exchange ∈ (converse settings files {} tally text question script).exchanges,
        exchange.prompt ≠ "Continue? (y/n): " := by
  refine converse_induction settings files false
    (motive := fun _ _ question _ transcript => question ≠ .again →
      ∀ exchange ∈ transcript.exchanges, exchange.prompt ≠ "Continue? (y/n): ")
    ?exhausted ?finished ?asked tally text question script
  case exhausted =>
    intro tally text question hquestion exchange hexchange
    obtain rfl := List.mem_singleton.mp hexchange
    exact fun hprompt => hquestion (eq_again_of_prompt hprompt)
  case finished =>
    intro tally text question event later ending _ hquestion exchange hexchange
    obtain rfl := List.mem_singleton.mp hexchange
    exact fun hprompt => hquestion (eq_again_of_prompt hprompt)
  case asked =>
    intro tally text question event later next transcript hnext ih hquestion exchange hexchange
    rcases List.mem_cons.mp hexchange with rfl | hexchange
    · exact fun hprompt => hquestion (eq_again_of_prompt hprompt)
    · refine ih ?_ exchange hexchange
      rintro rfl
      obtain ⟨line, -, hsucceeds⟩ := succeeds_of_respond hnext
      have hprompt : question.prompt = "Continue? (y/n): " := by
        rw [← question.prompt_stage, eq_again_of_succeeds hask hsucceeds]
        rfl
      exact hquestion (eq_again_of_prompt hprompt)

/-- **A session ends as its last read says, and at no other.**  On a console that
takes and writes out everything, a session asks at least once, what it writes
after the last read is a text, and the reads that end it are just the ends of
input, the interrupts, the failures, the choice of `4` and the answers to whether
it goes on that are not blank and not a yes, each with a last text and an ending
that depend on nothing else.  A session that does not ask whether to go on never
ends for an unclear answer. -/
theorem run_ending (settings : Settings) (files : Files) (script : List Event) :
    EndsAsRead script (run settings files {} script) ∧
    (∀ prompt event text ending other otherEnding, Ends prompt event text ending →
      Ends prompt event other otherEnding → text = other ∧ ending = otherEnding) ∧
    (settings.askContinue = false →
      (run settings files {} script).ending ≠ .exit .unexpected) := by
  have hends : EndsAsRead script (run settings files {} script) :=
    converse_endsAsRead {} menu .choice script
  refine ⟨hends, fun _ _ _ _ _ _ hread hother => hread.unique hother,
    fun hask hunexpected => ?_⟩
  obtain ⟨last, hlast⟩ := hends.rest_is_text
  have hlength := List.length_pos_of_ne_nil hends.exchanges_ne_nil
  obtain ⟨exchange, hexchange⟩ : ∃ exchange,
      (run settings files {} script).exchanges[(run settings files {} script).exchanges.length - 1]? =
        some exchange :=
    ⟨_, List.getElem?_eq_getElem (by omega)⟩
  have hread := (hends.ends_iff_last _ exchange hexchange last (.exit .unexpected)).mpr
    ⟨by omega, hlast, hunexpected⟩
  exact converse_prompts_ne_again hask {} menu .choice script (by decide) exchange
    (List.mem_of_getElem? hexchange) (prompt_of_ends_unexpected hread)

end CipherCalc.Session
