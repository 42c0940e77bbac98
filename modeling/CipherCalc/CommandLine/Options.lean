/-!
# Command line options

What the program can be asked for, and how its options are declared: by which
names, and what an option does when it is there.  How arguments are taken apart
is left to the reader of the arguments (`Readers`).
-/

namespace CipherCalc.CommandLine

/-- What the arguments ask for. -/
structure Options where
  /-- The path of the settings document. -/
  config : Option String := none
  /-- The expression to evaluate. -/
  expression : Option String := none
  showSteps : Bool := false
  /-- How much is to be logged. -/
  verbosity : Nat := 0
  deriving DecidableEq

/-- An option that takes a value. -/
inductive Valued where
  | config
  | expression
  deriving DecidableEq

/-- An option without a value. -/
inductive Flag where
  | showSteps
  | verbose
  | help
  | version
  deriving DecidableEq

/-- An option. -/
inductive Item where
  | valued (option : Valued)
  | flag (flag : Flag)
  deriving DecidableEq

/-! ## Names -/

/-- The long name of an option with a value. -/
def Valued.name : Valued → String
  | .config => "config"
  | .expression => "expr"

/-- The short name of an option with a value. -/
def Valued.letter : Valued → Char
  | .config => 'c'
  | .expression => 'e'

/-- The long name of a flag. -/
def Flag.name : Flag → String
  | .showSteps => "show-steps"
  | .verbose => "verbose"
  | .help => "help"
  | .version => "version"

/-- The short name of a flag, if it has one. -/
def Flag.letter? : Flag → Option Char
  | .showSteps => none
  | .verbose => some 'v'
  | .help => some 'h'
  | .version => some 'V'

/-! ## Occurrences -/

/-- An option that is asked for once. -/
inductive Occurrence where
  | valued (option : Valued) (value : String)
  | showSteps
  | verbose
  deriving DecidableEq

/-- The option that is asked for. -/
def Occurrence.item : Occurrence → Item
  | .valued option _ => .valued option
  | .showSteps => .flag .showSteps
  | .verbose => .flag .verbose

namespace Options

/-- The value of an option. -/
def value? (options : Options) : Valued → Option String
  | .config => options.config
  | .expression => options.expression

/-- The options with a value in place of another. -/
def put (options : Options) (option : Valued) (value : String) : Options :=
  match option with
  | .config => { options with config := some value }
  | .expression => { options with expression := some value }

/-- The highest verbosity that is counted. -/
def maxVerbosity : Nat := 255

/-- The options with one occurrence more.  Only the verbosity may be asked for
again. -/
def add? (options : Options) : Occurrence → Option Options
  | .valued option value =>
      if (options.value? option).isSome then none else some (options.put option value)
  | .showSteps => if options.showSteps then none else some { options with showSteps := true }
  | .verbose => some { options with verbosity := min (options.verbosity + 1) maxVerbosity }

end Options

/-! ## Logging -/

/-- The least severity that is logged at a verbosity.  What is logged is no part
of an `Outcome`, so no run of the program asks for it. -/
def logLevel (verbosity : Nat) : String :=
  match verbosity with
  | 0 => "error"
  | 1 => "warn"
  | 2 => "info"
  | 3 => "debug"
  | _ => "trace"

end CipherCalc.CommandLine
