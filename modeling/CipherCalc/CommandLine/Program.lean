import CipherCalc.CommandLine.Options
import CipherCalc.Session.Transcript
import CipherCalc.Settings.File

/-!
# The program

The arguments decide what the program does: it evaluates one expression, or it
opens the menu on standard input.  Settings that cannot be loaded come before
either.

How arguments, settings documents and lines are read is not decided here: the
program is told by its `Readers`, and works with any.
-/

namespace CipherCalc.CommandLine

/-- What a run of the program leaves behind.  What it logs is left out. -/
structure Outcome where
  code : Nat
  stdout : String := ""
  /-- The first line of what is reported as an error. -/
  stderr : String := ""
  deriving DecidableEq

/-- A line editor for the standard input. -/
structure LineReader where
  /-- What it shows of the prompt when it reads a line. -/
  shown : String → String
  /-- What its reads of an input give, one after another, up to the end. -/
  events : List UInt8 → List Session.Event

/-- How the program reads what it is given. -/
structure Readers where
  /-- The options that arguments ask for.  Arguments that are refused end the
  program with an outcome of the reader's own. -/
  options : List String → Except Outcome Options
  /-- The settings that a document gives, when it is well formed. -/
  settings? : String → Option Settings
  /-- The line editor that remembers a number of lines. -/
  lineReader : Nat → LineReader

/-- A text up to its first line feed, without a carriage return right before that. -/
def firstLine (text : String) : String :=
  let line := text.toList.takeWhile (· != '\n')
  String.ofList
    (if line.length < text.length ∧ line.getLast? = some '\r' then line.dropLast else line)

namespace Outcome

/-- A run that stops with a reported error.  The report ends with a line feed. -/
def failure (message : String) : Outcome :=
  { code := 1, stderr := firstLine ("Error: " ++ message ++ "\n") }

/-- A run that evaluates one expression. -/
def ofExpression (showSteps : Bool) (expression : String) : Outcome :=
  match Expr.report showSteps expression with
  | .ok shown => { code := 0, stdout := shown ++ "\n" }
  | .error error => failure error.message

/-- A run that opened the menu, with what was shown of the prompts. -/
def ofTranscript (shown : String → String) (transcript : Session.Transcript) : Outcome :=
  match transcript.ending with
  | .exit status => { code := status.code, stdout := transcript.text shown }
  | .failed message => { failure message with stdout := transcript.text shown }

end Outcome

/-- The settings of a run: those of the settings file if one is named, with the
steps shown if the arguments ask for them. -/
def settingsFor (settings? : String → Option Settings) (options : Options) (files : Files) :
    Except Settings.LoadError Settings := do
  let settings ←
    match options.config with
    | none => pure {}
    | some path => Settings.ofFile settings? path (files path)
  return { settings with showSteps := settings.showSteps || options.showSteps }

/-- Runs the program.  The verbosity is only asked for by the log, which is left
out. -/
def run (readers : Readers) (arguments : List String) (files : Files) (stdin : List UInt8) :
    Outcome :=
  match readers.options arguments with
  | .error outcome => outcome
  | .ok options =>
      match settingsFor readers.settings? options files with
      | .error error => Outcome.failure error.message
      | .ok settings =>
          match options.expression with
          | some expression => Outcome.ofExpression settings.showSteps expression
          | none =>
              let reader := readers.lineReader settings.historySize
              Outcome.ofTranscript reader.shown
                (Session.run settings files {} (reader.events stdin))

end CipherCalc.CommandLine
