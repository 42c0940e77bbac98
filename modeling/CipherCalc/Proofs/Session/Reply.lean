import CipherCalc.Session.Reply

/-!
# Replies in one equation

What `respond` makes of a line that was recognized, without the cases that it
goes through.  Most replies end a turn, and these differ in what they show and
count, not in what comes next (`endTurn_eq`).

Of the settings, a reply takes into account whether to ask on, and for an expression
whether to show steps, and nothing else (`respond_congr`).
-/

namespace CipherCalc.Session

/-! ## The end of a turn -/

/-- What is written at the end of a turn: the menu, unless it is asked first
whether to go on. -/
def turnEnd (settings : Settings) : String :=
  if settings.askContinue then "" else menu

/-- What is asked when a turn is over. -/
def turnNext (settings : Settings) : Question :=
  if settings.askContinue then .again else .choice

theorem endTurn_eq (settings : Settings) (text : String) (gain : Tally) :
    endTurn settings text gain =
      { text := text ++ turnEnd settings, gain, next := .ask (turnNext settings) } := by
  unfold endTurn turnEnd turnNext
  cases settings.askContinue with
  | false => rfl
  | true => simp

/-! ## Lines that are recognized -/

/-- The entry of the menu for a task. -/
def Task.choice : Task → Choice
  | .encipher => .encipher
  | .decipher => .decipher

theorem respond_choice_of_task {line : String} {task : Task}
    (hchoice : Choice.ofLine? line = some task.choice) (settings : Settings) (files : Files) :
    respond settings files .choice (.line line) = askNext (.source task) := by
  show replyToChoice settings line = _
  rw [replyToChoice, hchoice]
  cases task <;> rfl

/-- What is asked about a text at a source. -/
def Source.question (task : Task) : Source → Question
  | .typed => .text task
  | .file => .path task

theorem respond_source {line : String} {source : Source}
    (hsource : Source.ofLine? line = some source) (settings : Settings) (files : Files)
    (task : Task) :
    respond settings files (.source task) (.line line) = askNext (source.question task) := by
  show replyToSource settings task line = _
  rw [replyToSource, hsource]
  cases source <;> rfl

theorem replyToText_of_blank {text : String} (hblank : Text.isBlankText text)
    (settings : Settings) (task : Task) :
    replyToText settings task text = endTurn settings "Error: input text is empty.\n" {} :=
  if_pos hblank

theorem respond_shift_of_none {line : String} (hshift : shiftOfLine? line = none)
    (settings : Settings) (files : Files) (task : Task) (text : String) :
    respond settings files (.shift task text) (.line line) =
      { text := "Invalid input. Enter an integer for the shift.\n"
        next := .ask (.shift task text) } := by
  show replyToShift settings task text line = _
  rw [replyToShift, hshift]

theorem respond_shift_of_some {line : String} {shift : Int64}
    (hshift : shiftOfLine? line = some shift) (settings : Settings) (files : Files) (task : Task)
    (text : String) :
    respond settings files (.shift task text) (.line line) =
      endTurn settings (cipherReport task (task.result shift text)) {} := by
  show replyToShift settings task text line = _
  rw [replyToShift, hshift]

theorem respond_shiftKnown_of_yes {line : String} (hyes : Consent.ofLine line = .yes)
    (settings : Settings) (files : Files) (text : String) :
    respond settings files (.shiftKnown text) (.line line) = askNext (.shift .decipher text) := by
  show replyToShiftKnown settings text line = _
  rw [replyToShiftKnown, hyes]

theorem respond_shiftKnown_of_ne_yes {line : String} (hyes : Consent.ofLine line ≠ .yes)
    (settings : Settings) (files : Files) (text : String) :
    respond settings files (.shiftKnown text) (.line line) =
      endTurn settings (cipherReport .decipher (Cipher.reveal .unknown text)) {} := by
  show replyToShiftKnown settings text line = _
  unfold replyToShiftKnown
  split
  · next hconsent => exact absurd hconsent hyes
  · rfl

/-- What is written about an expression piece by piece is its report. -/
theorem replyToExpression_eq (settings : Settings) (line : String) :
    replyToExpression settings line = match Expr.report settings.showSteps line with
      | .ok shown => endTurn settings (shown ++ "\n") { evaluations := 1 }
      | .error error =>
          endTurn settings ("Error: " ++ error.message ++ "\n") { evaluations := 1, errors := 1 } := by
  unfold replyToExpression Expr.report Expr.Evaluation.shown
  cases (Expr.Evaluation.ofText line : Except Expr.Error (Expr.Evaluation Float)) with
  | error error => rfl
  | ok evaluation =>
      dsimp only [Except.map]
      cases settings.showSteps with
      | false => rw [if_neg Bool.false_ne_true, if_neg Bool.false_ne_true, String.empty_append]
      | true => rw [if_pos rfl, if_pos rfl]

/-- How many errors an expression counts for. -/
def errorsOf (line : String) : Nat :=
  match (Expr.value line : Except Expr.Error Float) with
  | .ok _ => 0
  | .error _ => 1

/-- The answer to an expression ends its turn, whether it has a value or not. -/
theorem exists_respond_expression_eq (settings : Settings) (files : Files) (line : String) :
    ∃ answer, respond settings files .expression (.line line) =
      endTurn settings answer { evaluations := 1, errors := errorsOf line } := by
  show ∃ answer, replyToExpression settings line = _
  unfold replyToExpression errorsOf Expr.value
  cases (Expr.Evaluation.ofText line : Except Expr.Error (Expr.Evaluation Float)) with
  | error error => exact ⟨_, rfl⟩
  | ok evaluation => exact ⟨_, rfl⟩

/-! ## Settings -/

/-- Settings that ask on alike give the same replies, but for the steps of an
expression. -/
theorem respond_congr {settings other : Settings} {question : Question}
    (hask : other.askContinue = settings.askContinue)
    (hsteps : question = .expression → other.showSteps = settings.showSteps) (files : Files)
    (event : Event) : respond other files question event = respond settings files question event := by
  obtain ⟨askContinue, showSteps, size⟩ := settings
  obtain ⟨otherAsk, otherSteps, otherSize⟩ := other
  obtain rfl : otherAsk = askContinue := hask
  cases event with
  | line line =>
      cases question with
      | expression =>
          obtain rfl : otherSteps = showSteps := hsteps rfl
          rfl
      | shift task text =>
          -- both sides would be unfolded as far as the shift if `rfl` had to compare them
          cases hshift : shiftOfLine? line with
          | none => rw [respond_shift_of_none hshift, respond_shift_of_none hshift]
          | some shift =>
              rw [respond_shift_of_some hshift, respond_shift_of_some hshift]
              rfl
      | _ => rfl
  | _ => rfl

theorem respond_historySize (settings : Settings) (files : Files) (size : Nat)
    (question : Question) (event : Event) :
    respond { settings with historySize := size } files question event =
      respond settings files question event := by
  refine respond_congr ?_ (fun _ => ?_) files event
  · rfl
  · rfl

end CipherCalc.Session
