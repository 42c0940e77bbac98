/-!
# The questions of the menu

A session is a sequence of questions.  A question carries what the action under
way has collected, and this is all that a session remembers between two lines.
-/

namespace CipherCalc.Session

/-- What is to be done with a text. -/
inductive Task where
  | encipher
  | decipher
  deriving DecidableEq

/-- How a task is named in a prompt. -/
def Task.verb : Task → String
  | .encipher => "encrypt"
  | .decipher => "decrypt"

/-- What the next line answers. -/
inductive Question where
  /-- Which entry of the menu is chosen. -/
  | choice
  /-- Where the text of a task comes from. -/
  | source (task : Task)
  /-- The text of a task. -/
  | text (task : Task)
  /-- The path of the file with the text of a task. -/
  | path (task : Task)
  /-- Whether the shift of a hidden text is known. -/
  | shiftKnown (text : String)
  /-- The shift for a text. -/
  | shift (task : Task) (text : String)
  /-- The expression to be evaluated. -/
  | expression
  /-- Whether the session goes on. -/
  | again
  deriving DecidableEq

/-- The words that ask a question. -/
def Question.prompt : Question → String
  | .choice => "Enter your choice: "
  | .source _ => "Where is the text? (console/file): "
  | .text task => "Enter text to " ++ task.verb ++ ": "
  | .path _ => "Enter the file path: "
  | .shiftKnown _ => "Is shift value known? (y/n): "
  | .shift _ _ => "Enter shift value: "
  | .expression => "Enter the expression: "
  | .again => "Continue? (y/n): "

/-- The menu, as it is shown before a choice. -/
def menu : String :=
  "Please choose an option:\n" ++
    "1. Caesar Cipher Encryption\n" ++
    "2. Caesar Cipher Decryption\n" ++
    "3. Arithmetic Expression Evaluation\n" ++
    "4. Exit\n" ++
    "\n"

end CipherCalc.Session
