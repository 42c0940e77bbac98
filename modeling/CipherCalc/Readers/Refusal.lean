import CipherCalc.CommandLine.Program
import CipherCalc.Readers.ControlSequence

/-!
# Refused arguments

Why arguments may be refused, and what a run leaves behind then.  Asking for the
help or the version also ends the reading of the arguments, so both count among
the refusals.
-/

namespace CipherCalc.CommandLine

open Text (withoutControls)

/-- How an option is written in messages. -/
def Item.usage : Item → String
  | .valued .config => "--config <CONFIG>"
  | .valued .expression => "--expr <EXPR>"
  | .flag .showSteps => "--show-steps"
  | .flag .verbose => "--verbose..."
  | .flag .help => "--help"
  | .flag .version => "--version"

/-- Why the arguments are not turned into options. -/
inductive Refusal where
  | unknownArgument (argument : String)
  | missingValue (option : Valued)
  | repeated (option : Item)
  | unexpectedValue (value : String) (flag : Flag)
  /-- The help was asked for. -/
  | help
  /-- The version was asked for. -/
  | version
  deriving DecidableEq

/-- What the program is for. -/
def summary : String :=
  "Caesar cipher and arithmetic expression evaluator"

/-- The name and the version of the program. -/
def versionText : String :=
  "calcul_cesar 0.1.0"

/-- What the help shows. -/
def helpText : String :=
  summary ++ "\n" ++
    "\n" ++
    "Usage: calcul_cesar [OPTIONS]\n" ++
    "\n" ++
    "Options:\n" ++
    "  -c, --config <CONFIG>  TOML configuration file\n" ++
    "  -e, --expr <EXPR>      Evaluate one expression and exit instead of opening the menu\n" ++
    "      --show-steps       Print the token and postfix sequences before each result\n" ++
    "  -v, --verbose...       More logging on stderr (repeatable)\n" ++
    "  -h, --help             Print help\n" ++
    "  -V, --version          Print version\n"

namespace Refusal

/-- The beginning of what is printed instead of running.  What it takes from the
arguments loses its terminal controls. -/
def message : Refusal → String
  | .unknownArgument argument =>
      "error: unexpected argument '" ++ withoutControls argument ++ "' found"
  | .missingValue option =>
      "error: a value is required for '" ++ (Item.valued option).usage ++
        "' but none was supplied"
  | .repeated option =>
      "error: the argument '" ++ option.usage ++ "' cannot be used multiple times"
  | .unexpectedValue value flag =>
      "error: unexpected value '" ++ withoutControls value ++ "' for '" ++ (Item.flag flag).usage ++
        "' found; no more were expected"
  | .help => summary
  | .version => versionText

/-- The exit code: asking for help or the version is no error. -/
def code : Refusal → Nat
  | .help | .version => 0
  | _ => 2

/-- What a run leaves behind that ends with the arguments. -/
def outcome (refusal : Refusal) : Outcome :=
  match refusal with
  | .help => { code := refusal.code, stdout := helpText }
  | .version => { code := refusal.code, stdout := versionText ++ "\n" }
  | _ => { code := refusal.code, stderr := firstLine refusal.message }

end Refusal

end CipherCalc.CommandLine
