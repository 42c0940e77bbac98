import CipherCalc.Cipher.Listing
import CipherCalc.Expr.Evaluation
import CipherCalc.Files
import CipherCalc.Session.Answer
import CipherCalc.Session.Question
import CipherCalc.Settings

/-!
# How a session answers

`respond` takes what a reader does at a question and gives the reply: the text
that is written, what the counters gain, and the next question or the end.  It
is the whole behaviour of the menu; a session is nothing but its repetition.

An action that is over, with or without a result, ends its turn.  Then the user
is asked whether to go on, or the menu is shown again at once.
-/

namespace CipherCalc.Session

/-! ## Counters and ends -/

/-- How many expressions were read, and how many of them had no value. -/
structure Tally where
  evaluations : Nat := 0
  errors : Nat := 0
  deriving DecidableEq

instance : Add Tally where
  add first second :=
    { evaluations := first.evaluations + second.evaluations
      errors := first.errors + second.errors }

@[simp] theorem Tally.evaluations_add (first second : Tally) :
    (first + second).evaluations = first.evaluations + second.evaluations := rfl

@[simp] theorem Tally.errors_add (first second : Tally) :
    (first + second).errors = first.errors + second.errors := rfl

/-- How a session ends that did not fail. -/
inductive ExitStatus where
  /-- By choice, by a no, or for want of input. -/
  | normal
  /-- By an interrupt. -/
  | interrupted
  /-- By an answer that is neither yes nor no. -/
  | unexpected
  deriving DecidableEq

/-- The exit code of a status. -/
def ExitStatus.code : ExitStatus → Nat
  | .normal => 0
  | .interrupted => 1
  | .unexpected => 2

/-- How a session ends. -/
inductive Ending where
  | exit (status : ExitStatus)
  /-- Reading or writing failed. -/
  | failed (message : String)
  deriving DecidableEq

/-- What comes after a reply. -/
inductive Next where
  | ask (question : Question)
  | finish (ending : Ending)
  deriving DecidableEq

/-- What a session does about a line. -/
structure Reply where
  /-- The text that is written. -/
  text : String := ""
  /-- What the counters gain. -/
  gain : Tally := {}
  next : Next
  deriving DecidableEq

/-! ## Turns -/

/-- What a reader does at a question. -/
inductive Event where
  | line (text : String)
  | interrupt
  | endOfInput
  /-- Reading fails, with a message. -/
  | failure (message : String)
  deriving DecidableEq

/-- Writes what is left of a turn and starts the next one. -/
def endTurn (settings : Settings) (text : String) (gain : Tally) : Reply :=
  if settings.askContinue then { text, gain, next := .ask .again }
  else { text := text ++ menu, gain, next := .ask .choice }

/-- Asks without writing. -/
def askNext (question : Question) : Reply :=
  { next := .ask question }

/-- The answer to a choice. -/
def replyToChoice (settings : Settings) (line : String) : Reply :=
  match Choice.ofLine? line with
  | some .encipher => askNext (.source .encipher)
  | some .decipher => askNext (.source .decipher)
  | some .evaluate => askNext .expression
  | some .leave => { text := "Exiting...\n", next := .finish (.exit .normal) }
  | none => endTurn settings "Invalid choice.\n" {}

/-- The answer to where a text is. -/
def replyToSource (settings : Settings) (task : Task) (line : String) : Reply :=
  match Source.ofLine? line with
  | some .typed => askNext (.text task)
  | some .file => askNext (.path task)
  | none => endTurn settings "Error: unexpected text source.\n" {}

/-- The answer to a text, typed or from a file. -/
def replyToText (settings : Settings) (task : Task) (text : String) : Reply :=
  if Text.isBlankText text then endTurn settings "Error: input text is empty.\n" {}
  else
    match task with
    | .encipher => askNext (.shift .encipher text)
    | .decipher => askNext (.shiftKnown text)

/-- The answer to a path. -/
def replyToPath (settings : Settings) (files : Files) (task : Task) (line : String) : Reply :=
  match files (Text.trim line) with
  | .ok text => replyToText settings task text
  | .error error => endTurn settings ("Error reading file: " ++ error.message ++ "\n") {}

/-- The report of a hidden text or of a revealed one.  Line feeds at its end are
dropped, since one follows. -/
def cipherReport (task : Task) (result : String) : String :=
  let lead := match task with
    | .encipher => "Result: "
    | .decipher => "Result:\n"
  lead ++ Text.dropFinalNewlines result ++ "\n"

/-- The answer to whether a shift is known; without it, all are tried. -/
def replyToShiftKnown (settings : Settings) (text line : String) : Reply :=
  match Consent.ofLine line with
  | .yes => askNext (.shift .decipher text)
  | _ => endTurn settings (cipherReport .decipher (Cipher.reveal .unknown text)) {}

/-- The text that a task makes of another one under a shift. -/
def Task.result (task : Task) (shift : Int64) (text : String) : String :=
  match task with
  | .encipher => Cipher.encipher shift text
  | .decipher => Cipher.reveal (.known shift) text

/-- The answer to a shift; anything else is asked for again. -/
def replyToShift (settings : Settings) (task : Task) (text line : String) : Reply :=
  match shiftOfLine? line with
  | some shift => endTurn settings (cipherReport task (task.result shift text)) {}
  | none =>
      { text := "Invalid input. Enter an integer for the shift.\n"
        next := .ask (.shift task text) }

/-- The answer to an expression, which is counted whether it has a value or not.
The steps are written before the result if they are to be shown. -/
def replyToExpression (settings : Settings) (line : String) : Reply :=
  match Expr.Evaluation.ofText line with
  | .ok evaluation =>
      let steps := if settings.showSteps then evaluation.stepLines ++ "\n" else ""
      endTurn settings (steps ++ resultText evaluation.value ++ "\n") { evaluations := 1 }
  | .error error =>
      endTurn settings ("Error: " ++ error.message ++ "\n") { evaluations := 1, errors := 1 }

/-- The answer to whether the session goes on; a blank line is no answer. -/
def replyToAgain (line : String) : Reply :=
  if Text.isBlankText line then askNext .again
  else
    match Consent.ofLine line with
    | .yes => { text := menu, next := .ask .choice }
    | .no => { next := .finish (.exit .normal) }
    | .unclear =>
        { text := "Error: unexpected character.\n", next := .finish (.exit .unexpected) }

/-- The answer to a line at a question. -/
def reply (settings : Settings) (files : Files) (question : Question) (line : String) : Reply :=
  match question with
  | .choice => replyToChoice settings line
  | .source task => replyToSource settings task line
  | .text task => replyToText settings task line
  | .path task => replyToPath settings files task line
  | .shiftKnown text => replyToShiftKnown settings text line
  | .shift task text => replyToShift settings task text line
  | .expression => replyToExpression settings line
  | .again => replyToAgain line

/-- The answer to whatever a reader does at a question. -/
def respond (settings : Settings) (files : Files) (question : Question) : Event → Reply
  | .line line => reply settings files question line
  | .interrupt => { next := .finish (.exit .interrupted) }
  | .endOfInput => { next := .finish (.exit .normal) }
  | .failure message => { next := .finish (.failed message) }

end CipherCalc.Session
