import CipherCalc.Proofs.Session.Answer
import CipherCalc.Proofs.Session.Exchanges

/-!
# The prompts follow a fixed protocol

A session is written as nested questions, with retries and early ends.  Seen from
outside it is a flat system: `Stage` is a prompt together with the task under
way, and `Succeeds` lists which line read at a stage leads to which other one.
The texts that a session carries along do not matter for that.

`succeeds_iff` compares the list with the reply to a line, one question at a time,
and `run_succession` follows a whole session.
-/

namespace CipherCalc.Session

/-! ## Stages -/

/-- A question without the text that it carries: a prompt, with the task under
way. -/
inductive Stage where
  | choice
  | source (task : Task)
  | text (task : Task)
  | path (task : Task)
  | shiftKnown
  | shift (task : Task)
  | expression
  | again
  deriving DecidableEq

/-- The words that are shown at a stage. -/
def Stage.prompt : Stage → String
  | .choice => "Enter your choice: "
  | .source _ => "Where is the text? (console/file): "
  | .text .encipher => "Enter text to encrypt: "
  | .text .decipher => "Enter text to decrypt: "
  | .path _ => "Enter the file path: "
  | .shiftKnown => "Is shift value known? (y/n): "
  | .shift _ => "Enter shift value: "
  | .expression => "Enter the expression: "
  | .again => "Continue? (y/n): "

/-- The task under way at a stage, if there is one. -/
def Stage.task? : Stage → Option Task
  | .source task | .text task | .path task | .shift task => some task
  | .shiftKnown => some .decipher
  | .choice | .expression | .again => none

/-- Where a turn leads that is over. -/
def Stage.afterTurn (settings : Settings) : Stage :=
  if settings.askContinue then .again else .choice

/-- Where a task goes on that has a text. -/
def Stage.withText : Task → Stage
  | .encipher => .shift .encipher
  | .decipher => .shiftKnown

/-- A line read at a stage leads to another stage. -/
inductive Succeeds (settings : Settings) (files : Files) : Stage → String → Stage → Prop
  | encipher {line : String} : Text.trim line = "1" →
      Succeeds settings files .choice line (.source .encipher)
  | decipher {line : String} : Text.trim line = "2" →
      Succeeds settings files .choice line (.source .decipher)
  | evaluate {line : String} : Text.trim line = "3" →
      Succeeds settings files .choice line .expression
  | noChoice {line : String} : Text.trim line ∉ ["1", "2", "3", "4"] →
      Succeeds settings files .choice line (.afterTurn settings)
  | typed {task : Task} {line : String} : Text.trim line = "console" →
      Succeeds settings files (.source task) line (.text task)
  | file {task : Task} {line : String} : Text.trim line = "file" →
      Succeeds settings files (.source task) line (.path task)
  | noSource {task : Task} {line : String} : Text.trim line ∉ ["console", "file"] →
      Succeeds settings files (.source task) line (.afterTurn settings)
  | text {task : Task} {line : String} : Text.trim line ≠ "" →
      Succeeds settings files (.text task) line (.withText task)
  | blankText {task : Task} {line : String} : Text.trim line = "" →
      Succeeds settings files (.text task) line (.afterTurn settings)
  | textOfFile {task : Task} {line text : String} :
      files (Text.trim line) = .ok text → Text.trim text ≠ "" →
      Succeeds settings files (.path task) line (.withText task)
  | blankFile {task : Task} {line text : String} :
      files (Text.trim line) = .ok text → Text.trim text = "" →
      Succeeds settings files (.path task) line (.afterTurn settings)
  | noFile {task : Task} {line : String} {error : FileError} :
      files (Text.trim line) = .error error →
      Succeeds settings files (.path task) line (.afterTurn settings)
  | shiftKnown {line : String} {char : Char} :
      Text.firstVisible? line = some char → char ∈ ['y', 'Y'] →
      Succeeds settings files .shiftKnown line (.shift .decipher)
  | shiftUnknown {line : String} :
      (∀ char, Text.firstVisible? line = some char → char ∉ ['y', 'Y']) →
      Succeeds settings files .shiftKnown line (.afterTurn settings)
  | shift {task : Task} {line : String} {shift : Int64} : shiftOfLine? line = some shift →
      Succeeds settings files (.shift task) line (.afterTurn settings)
  | noShift {task : Task} {line : String} : shiftOfLine? line = none →
      Succeeds settings files (.shift task) line (.shift task)
  | expression {line : String} :
      Succeeds settings files .expression line (.afterTurn settings)
  | goOn {line : String} {char : Char} :
      Text.firstVisible? line = some char → char ∈ ['y', 'Y'] →
      Succeeds settings files .again line .choice
  | askAgain {line : String} : Text.trim line = "" →
      Succeeds settings files .again line .again

/-- The stage of a question. -/
def Question.stage : Question → Stage
  | .choice => .choice
  | .source task => .source task
  | .text task => .text task
  | .path task => .path task
  | .shiftKnown _ => .shiftKnown
  | .shift task _ => .shift task
  | .expression => .expression
  | .again => .again

/-- The stage that a reply asks for, if it asks. -/
def Reply.stage? (reply : Reply) : Option Stage :=
  match reply.next with
  | .ask question => some question.stage
  | .finish _ => none

theorem Question.prompt_stage (question : Question) : question.stage.prompt = question.prompt := by
  cases question with
  | text task => cases task <;> decide
  | _ => rfl

variable {settings : Settings} {files : Files} {next : Stage} {line : String}

@[simp] theorem stage?_askNext (question : Question) :
    (askNext question).stage? = some question.stage := rfl

@[simp] theorem stage?_endTurn (text : String) (gain : Tally) :
    (endTurn settings text gain).stage? = some (.afterTurn settings) := by
  unfold endTurn Stage.afterTurn
  by_cases hask : settings.askContinue = true
  · rw [if_pos hask, if_pos hask]
    rfl
  · rw [if_neg hask, if_neg hask]
    rfl

theorem succeeds_choice_iff :
    Succeeds settings files .choice line next ↔
      (replyToChoice settings line).stage? = some next := by
  unfold replyToChoice
  constructor
  · intro hnext
    cases hnext with
    | encipher hline =>
        have hchoice : Choice.ofLine? line = some .encipher := Choice.ofLine?_eq_some_iff.mpr hline
        rw [hchoice]
        rfl
    | decipher hline =>
        have hchoice : Choice.ofLine? line = some .decipher := Choice.ofLine?_eq_some_iff.mpr hline
        rw [hchoice]
        rfl
    | evaluate hline =>
        have hchoice : Choice.ofLine? line = some .evaluate := Choice.ofLine?_eq_some_iff.mpr hline
        rw [hchoice]
        rfl
    | noChoice hline =>
        rw [Choice.ofLine?_eq_none_iff.mpr hline]
        exact stage?_endTurn _ _
  · intro hstage
    cases hchoice : Choice.ofLine? line with
    | none =>
        rw [hchoice, stage?_endTurn] at hstage
        obtain rfl := Option.some.inj hstage
        exact .noChoice (Choice.ofLine?_eq_none_iff.mp hchoice)
    | some choice =>
        have hline := Choice.ofLine?_eq_some_iff.mp hchoice
        rw [hchoice] at hstage
        cases choice with
        | encipher => obtain rfl := Option.some.inj hstage; exact .encipher hline
        | decipher => obtain rfl := Option.some.inj hstage; exact .decipher hline
        | evaluate => obtain rfl := Option.some.inj hstage; exact .evaluate hline
        | leave => cases hstage

theorem succeeds_source_iff {task : Task} :
    Succeeds settings files (.source task) line next ↔
      (replyToSource settings task line).stage? = some next := by
  unfold replyToSource
  constructor
  · intro hnext
    cases hnext with
    | typed hline =>
        have hsource : Source.ofLine? line = some .typed := Source.ofLine?_eq_some_iff.mpr hline
        rw [hsource]
        rfl
    | file hline =>
        have hsource : Source.ofLine? line = some .file := Source.ofLine?_eq_some_iff.mpr hline
        rw [hsource]
        rfl
    | noSource hline =>
        rw [Source.ofLine?_eq_none_iff.mpr hline]
        exact stage?_endTurn _ _
  · intro hstage
    cases hsource : Source.ofLine? line with
    | none =>
        rw [hsource, stage?_endTurn] at hstage
        obtain rfl := Option.some.inj hstage
        exact .noSource (Source.ofLine?_eq_none_iff.mp hsource)
    | some source =>
        have hline := Source.ofLine?_eq_some_iff.mp hsource
        rw [hsource] at hstage
        cases source with
        | typed => obtain rfl := Option.some.inj hstage; exact .typed hline
        | file => obtain rfl := Option.some.inj hstage; exact .file hline

/-- What becomes of a text is the same for a typed one and for one of a file. -/
theorem stage?_replyToText (settings : Settings) (task : Task) (text : String) :
    (replyToText settings task text).stage? =
      some (if Text.trim text = "" then .afterTurn settings else .withText task) := by
  unfold replyToText
  by_cases hblank : Text.trim text = ""
  · rw [if_pos hblank, if_pos (Text.trim_eq_empty_iff.mp hblank), stage?_endTurn]
  · rw [if_neg hblank, if_neg fun hall => hblank (Text.trim_eq_empty_iff.mpr hall)]
    cases task <;> rfl

theorem succeeds_text_iff {task : Task} :
    Succeeds settings files (.text task) line next ↔
      (replyToText settings task line).stage? = some next := by
  rw [stage?_replyToText, Option.some_inj]
  constructor
  · intro hnext
    cases hnext with
    | text hline => rw [if_neg hline]
    | blankText hline => rw [if_pos hline]
  · intro hstage
    subst hstage
    by_cases hline : Text.trim line = ""
    · rw [if_pos hline]
      exact .blankText hline
    · rw [if_neg hline]
      exact .text hline

theorem succeeds_path_iff {task : Task} :
    Succeeds settings files (.path task) line next ↔
      (replyToPath settings files task line).stage? = some next := by
  unfold replyToPath
  constructor
  · intro hnext
    cases hnext with
    | textOfFile hfile htext =>
        simp only [hfile]
        rw [stage?_replyToText, if_neg htext]
    | blankFile hfile htext =>
        simp only [hfile]
        rw [stage?_replyToText, if_pos htext]
    | noFile hfile =>
        simp only [hfile]
        rw [stage?_endTurn]
  · intro hstage
    cases hfile : files (Text.trim line) with
    | error error =>
        rw [hfile] at hstage
        obtain rfl := Option.some.inj ((stage?_endTurn _ _).symm.trans hstage)
        exact .noFile hfile
    | ok text =>
        rw [hfile] at hstage
        obtain rfl := Option.some.inj ((stage?_replyToText settings task text).symm.trans hstage)
        by_cases htext : Text.trim text = ""
        · rw [if_pos htext]
          exact .blankFile hfile htext
        · rw [if_neg htext]
          exact .textOfFile hfile htext

theorem stage?_replyToShiftKnown (settings : Settings) (text line : String) :
    (replyToShiftKnown settings text line).stage? =
      some (if Consent.ofLine line = .yes then .shift .decipher else .afterTurn settings) := by
  unfold replyToShiftKnown
  cases Consent.ofLine line with
  | yes => rfl
  | no => exact stage?_endTurn _ _
  | unclear => exact stage?_endTurn _ _

theorem succeeds_shiftKnown_iff {text : String} :
    Succeeds settings files .shiftKnown line next ↔
      (replyToShiftKnown settings text line).stage? = some next := by
  rw [stage?_replyToShiftKnown, Option.some_inj]
  constructor
  · intro hnext
    cases hnext with
    | shiftKnown hfirst hyes => rw [if_pos (Consent.ofLine_eq_yes_iff.mpr ⟨_, hfirst, hyes⟩)]
    | shiftUnknown hnot =>
        refine if_neg fun hyes => ?_
        obtain ⟨char, hfirst, hmem⟩ := Consent.ofLine_eq_yes_iff.mp hyes
        exact hnot char hfirst hmem
  · intro hstage
    subst hstage
    by_cases hyes : Consent.ofLine line = .yes
    · rw [if_pos hyes]
      obtain ⟨char, hfirst, hmem⟩ := Consent.ofLine_eq_yes_iff.mp hyes
      exact .shiftKnown hfirst hmem
    · rw [if_neg hyes]
      exact .shiftUnknown fun char hfirst hmem =>
        hyes (Consent.ofLine_eq_yes_iff.mpr ⟨char, hfirst, hmem⟩)

theorem succeeds_shift_iff {task : Task} {text : String} :
    Succeeds settings files (.shift task) line next ↔
      (replyToShift settings task text line).stage? = some next := by
  unfold replyToShift
  constructor
  · intro hnext
    cases hnext with
    | shift hshift =>
        rw [hshift]
        exact stage?_endTurn _ _
    | noShift hshift =>
        rw [hshift]
        rfl
  · intro hstage
    cases hshift : shiftOfLine? line with
    | none =>
        rw [hshift] at hstage
        obtain rfl := Option.some.inj hstage
        exact .noShift hshift
    | some shift =>
        rw [hshift] at hstage
        obtain rfl := Option.some.inj ((stage?_endTurn _ _).symm.trans hstage)
        exact .shift hshift

theorem stage?_replyToExpression (settings : Settings) (line : String) :
    (replyToExpression settings line).stage? = some (.afterTurn settings) := by
  unfold replyToExpression
  cases (Expr.Evaluation.ofText line : Except Expr.Error (Expr.Evaluation Float)) with
  | ok evaluation => exact stage?_endTurn _ _
  | error error => exact stage?_endTurn _ _

theorem succeeds_expression_iff :
    Succeeds settings files .expression line next ↔
      (replyToExpression settings line).stage? = some next := by
  rw [stage?_replyToExpression, Option.some_inj]
  constructor
  · intro hnext
    cases hnext with
    | expression => rfl
  · intro hstage
    subst hstage
    exact .expression

theorem succeeds_again_iff :
    Succeeds settings files .again line next ↔ (replyToAgain line).stage? = some next := by
  unfold replyToAgain
  constructor
  · intro hnext
    cases hnext with
    | askAgain hline =>
        rw [if_pos (Text.trim_eq_empty_iff.mp hline)]
        rfl
    | goOn hfirst hyes =>
        rw [if_neg (Text.not_isBlankText_of_firstVisible? hfirst),
          Consent.ofLine_eq_yes_iff.mpr ⟨_, hfirst, hyes⟩]
        rfl
  · intro hstage
    by_cases hline : Text.isBlankText line
    · rw [if_pos hline] at hstage
      obtain rfl := Option.some.inj hstage
      exact .askAgain (Text.trim_eq_empty_iff.mpr hline)
    · rw [if_neg hline] at hstage
      cases hconsent : Consent.ofLine line with
      | yes =>
          rw [hconsent] at hstage
          obtain rfl := Option.some.inj hstage
          obtain ⟨char, hfirst, hyes⟩ := Consent.ofLine_eq_yes_iff.mp hconsent
          exact .goOn hfirst hyes
      | no => rw [hconsent] at hstage; cases hstage
      | unclear => rw [hconsent] at hstage; cases hstage

/-- The stages follow each other as the replies ask. -/
theorem succeeds_iff (question : Question) :
    Succeeds settings files question.stage line next ↔
      (reply settings files question line).stage? = some next := by
  unfold Question.stage reply
  cases question with
  | choice => exact succeeds_choice_iff
  | source task => exact succeeds_source_iff
  | text task => exact succeeds_text_iff
  | path task => exact succeeds_path_iff
  | shiftKnown text => exact succeeds_shiftKnown_iff
  | shift task text => exact succeeds_shift_iff
  | expression => exact succeeds_expression_iff
  | again => exact succeeds_again_iff

theorem Stage.exists_question (stage : Stage) : ∃ question : Question, question.stage = stage := by
  cases stage with
  | choice => exact ⟨.choice, rfl⟩
  | source task => exact ⟨.source task, rfl⟩
  | text task => exact ⟨.text task, rfl⟩
  | path task => exact ⟨.path task, rfl⟩
  | shiftKnown => exact ⟨.shiftKnown "", rfl⟩
  | shift task => exact ⟨.shift task "", rfl⟩
  | expression => exact ⟨.expression, rfl⟩
  | again => exact ⟨.again, rfl⟩

theorem Succeeds.unique {stage first second : Stage}
    (hfirst : Succeeds settings files stage line first)
    (hsecond : Succeeds settings files stage line second) : first = second := by
  obtain ⟨question, rfl⟩ := stage.exists_question
  rw [succeeds_iff] at hfirst hsecond
  exact Option.some.inj (hfirst.symm.trans hsecond)

theorem Stage.eq_of_prompt {first second : Stage} (hprompt : first.prompt = second.prompt)
    (htask : first.task? = second.task?) : first = second := by
  rcases first with _ | task | ⟨_ | _⟩ | task | _ | task | _ | _ <;>
    rcases second with _ | task | ⟨_ | _⟩ | task | _ | task | _ | _ <;>
      simp_all [Stage.prompt, Stage.task?]

/-! ## Questions by their prompts -/

/-- Questions that differ at most in what they carry and their prompts do not
name. -/
inductive Question.Alike : Question → Question → Prop
  | refl (question : Question) : Alike question question
  | source (task other : Task) : Alike (.source task) (.source other)
  | path (task other : Task) : Alike (.path task) (.path other)
  | shiftKnown (text other : String) : Alike (.shiftKnown text) (.shiftKnown other)
  | shift (task other : Task) (text otherText : String) :
      Alike (.shift task text) (.shift other otherText)

/-- A question is known by its prompt, but for what it carries. -/
theorem Question.alike_of_prompt {question other : Question}
    (hprompt : question.prompt = other.prompt) : question.Alike other := by
  rcases question with _ | task | ⟨_ | _⟩ | task | text | ⟨task, text⟩ | _ | _ <;>
    rcases other with _ | other | ⟨_ | _⟩ | other | other | ⟨other, otherText⟩ | _ | _ <;>
      first
        | constructor
        | simp [Question.prompt, Task.verb] at hprompt

section

variable {question : Question} {task : Task}

theorem eq_choice_of_prompt (hprompt : question.prompt = "Enter your choice: ") :
    question = .choice := by
  have halike : question.Alike .choice := Question.alike_of_prompt hprompt
  cases halike
  rfl

theorem eq_again_of_prompt (hprompt : question.prompt = "Continue? (y/n): ") :
    question = .again := by
  have halike : question.Alike .again := Question.alike_of_prompt hprompt
  cases halike
  rfl

theorem eq_expression_of_prompt (hprompt : question.prompt = "Enter the expression: ") :
    question = .expression := by
  have halike : question.Alike .expression := Question.alike_of_prompt hprompt
  cases halike
  rfl

theorem eq_text_of_prompt (hprompt : question.prompt = "Enter text to " ++ task.verb ++ ": ") :
    question = .text task := by
  have halike : question.Alike (.text task) := Question.alike_of_prompt hprompt
  cases halike
  rfl

theorem exists_eq_source_of_prompt
    (hprompt : question.prompt = "Where is the text? (console/file): ") :
    ∃ task, question = .source task := by
  have halike : question.Alike (.source .encipher) := Question.alike_of_prompt hprompt
  cases halike <;> exact ⟨_, rfl⟩

theorem exists_eq_shift_of_prompt (hprompt : question.prompt = "Enter shift value: ") :
    ∃ task text, question = .shift task text := by
  have halike : question.Alike (.shift .encipher "") := Question.alike_of_prompt hprompt
  cases halike <;> exact ⟨_, _, rfl⟩

end

/-! ## Sessions -/

/-- A row of stages that follow each other through the lines of a script, from a
first one to one that has no successor. -/
structure IsPath (settings : Settings) (files : Files) (first : Stage) (script : List Event)
    (stages : List Stage) : Prop where
  start : stages[0]? = some first
  step : ∀ index stage next, stages[index]? = some stage →
    (stages[index + 1]? = some next ↔
      ∃ line, script[index]? = some (.line line) ∧ Succeeds settings files stage line next)

theorem isPath_singleton {first : Stage} {script : List Event}
    (hlast : ∀ line next, script[0]? = some (.line line) →
      ¬ Succeeds settings files first line next) :
    IsPath settings files first script [first] := by
  refine ⟨rfl, fun index stage next hstage => ?_⟩
  cases index with
  | zero =>
      obtain rfl := Option.some.inj hstage
      constructor
      · intro hnext
        cases hnext
      · rintro ⟨line, hline, hnext⟩
        exact absurd hnext (hlast line next hline)
  | succ index => cases hstage

theorem IsPath.cons {first second : Stage} {line : String} {later : List Event}
    {stages : List Stage} (hnext : Succeeds settings files first line second)
    (hpath : IsPath settings files second later stages) :
    IsPath settings files first (.line line :: later) (first :: stages) := by
  refine ⟨rfl, fun index stage next hstage => ?_⟩
  cases index with
  | zero =>
      obtain rfl := Option.some.inj hstage
      rw [List.getElem?_cons_succ, hpath.start, List.getElem?_cons_zero]
      constructor
      · intro hsecond
        obtain rfl := Option.some.inj hsecond
        exact ⟨line, rfl, hnext⟩
      · rintro ⟨other, hline, hother⟩
        cases hline
        rw [hnext.unique hother]
  | succ index => exact hpath.step index stage next hstage

/-- A line that is answered with another question leads to its stage. -/
theorem succeeds_of_respond {question asked : Question} {event : Event}
    (hnext : (respond settings files question event).next = .ask asked) :
    ∃ line, event = .line line ∧ Succeeds settings files question.stage line asked.stage := by
  cases event with
  | line line =>
      refine ⟨line, rfl, (succeeds_iff question).mpr ?_⟩
      have hasked : (reply settings files question line).next = .ask asked := hnext
      rw [Reply.stage?, hasked]
  | interrupt => cases hnext
  | endOfInput => cases hnext
  | failure message => cases hnext

/-- An event that ends a session is no line that leads on. -/
theorem not_succeeds_of_respond {question : Question} {event : Event} {ending : Ending}
    (hnext : (respond settings files question event).next = .finish ending) {line : String}
    (hline : event = .line line) (next : Stage) :
    ¬ Succeeds settings files question.stage line next := by
  subst hline
  intro hsucceeds
  have hstage := (succeeds_iff question).mp hsucceeds
  have hfinish : (reply settings files question line).next = .finish ending := hnext
  rw [Reply.stage?, hfinish] at hstage
  cases hstage

theorem converse_stages (flushFails : Bool) (tally : Tally) (text : String) (question : Question)
    (script : List Event) :
    ∃ stages, IsPath settings files question.stage script stages ∧
      stages.map Stage.prompt =
        (converse settings files { flushFails } tally text question script).exchanges.map
          Exchange.prompt := by
  refine converse_induction settings files flushFails
    (motive := fun _ _ question script transcript =>
      ∃ stages, IsPath settings files question.stage script stages ∧
        stages.map Stage.prompt = transcript.exchanges.map Exchange.prompt)
    ?exhausted ?finished ?asked tally text question script
  case exhausted =>
    intro tally text question
    refine ⟨[question.stage], isPath_singleton fun line next hline => ?_, ?_⟩
    · cases hline
    · exact congrArg (fun prompt => [prompt]) question.prompt_stage
  case finished =>
    intro tally text question event later ending hnext
    refine ⟨[question.stage], isPath_singleton fun line next hline => ?_, ?_⟩
    · exact not_succeeds_of_respond hnext (Option.some.inj hline) next
    · exact congrArg (fun prompt => [prompt]) question.prompt_stage
  case asked =>
    intro tally text question event later next transcript hnext ih
    obtain ⟨line, rfl, hsucceeds⟩ := succeeds_of_respond hnext
    obtain ⟨stages, hpath, hprompts⟩ := ih
    refine ⟨question.stage :: stages, hpath.cons hsucceeds, ?_⟩
    rw [List.map_cons, hprompts, question.prompt_stage]
    rfl

/-- **The prompts of a session follow a fixed protocol.**  A session on a console
that takes everything goes through a row of stages: it starts with the choice,
and after a stage comes just what a line read there leads to, if anything was
read there that leads on.  A stage is known by its prompt and the task under
way, and a line leads from it to one stage at most. -/
theorem run_succession (settings : Settings) (files : Files) (flushFails : Bool)
    (script : List Event) :
    (∃ stages : List Stage,
      IsPath settings files .choice script stages ∧
      stages.map Stage.prompt =
        (run settings files { flushFails } script).exchanges.map Exchange.prompt) ∧
    (∀ stage first second line, Succeeds settings files stage line first →
      Succeeds settings files stage line second → first = second) ∧
    ∀ first second : Stage, first.prompt = second.prompt → first.task? = second.task? →
      first = second :=
  ⟨converse_stages flushFails {} menu .choice script,
    fun _ _ _ _ hfirst hsecond => hfirst.unique hsecond,
    fun _ _ hprompt htask => Stage.eq_of_prompt hprompt htask⟩

end CipherCalc.Session
