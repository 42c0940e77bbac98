import CipherCalc.Readers.Refusal

/-!
# Reading the arguments

`Options.ofArguments` reads the arguments of the program from left to right.  An
option may be written long or short, short ones may be grouped behind one dash,
and a value may follow in the next argument or be attached.

An option whose value is to follow stays *pending* until the next option or the
end.  Only then is it stored, so an argument that makes no sense is reported
before a value that is missing or given twice.
-/

namespace CipherCalc.CommandLine

/-! ## Options by name -/

/-- All options. -/
def items : List Item :=
  [.valued .config, .valued .expression, .flag .showSteps, .flag .verbose, .flag .help,
    .flag .version]

/-- The long name of an option. -/
def Item.name : Item → String
  | .valued option => option.name
  | .flag option => option.name

/-- The short name of an option, if it has one. -/
def Item.letter? : Item → Option Char
  | .valued option => some option.letter
  | .flag option => option.letter?

/-- The option with a long name. -/
def Item.ofName? (name : String) : Option Item :=
  items.find? (·.name = name)

/-- The option with a short name. -/
def Item.ofLetter? (letter : Char) : Option Item :=
  items.find? (·.letter? = some letter)

/-! ## Storing options -/

namespace Options

/-- Adds an occurrence; one too many is refused. -/
def add (options : Options) (occurrence : Occurrence) : Except Refusal Options :=
  match options.add? occurrence with
  | none => .error (.repeated occurrence.item)
  | some next => .ok next

/-- Stores a value.  An empty path is none. -/
def store (options : Options) (option : Valued) (value : String) : Except Refusal Options := do
  let next ← options.add (.valued option value)
  if option = .config ∧ value = "" then .error (.missingValue .config) else .ok next

/-- Raises a flag. -/
def raise (options : Options) : Flag → Except Refusal Options
  | .showSteps => options.add .showSteps
  | .verbose => options.add .verbose
  | .help => .error .help
  | .version => .error .version

end Options

/-! ## Reading -/

/-- What has been read of the arguments. -/
structure Reading where
  options : Options := {}
  /-- An option whose value is a separate argument, and that argument once it
  was read. -/
  pending : Option (Valued × Option String) := none
  deriving DecidableEq

namespace Reading

/-- The options, with the pending one stored. -/
def settle (reading : Reading) : Except Refusal Options :=
  match reading.pending with
  | none => .ok reading.options
  | some (option, none) => .error (.missingValue option)
  | some (option, some value) => reading.options.store option value

/-- Stores a value that is attached to its option. -/
def attach (reading : Reading) (option : Valued) (value : String) : Except Refusal Reading := do
  return { options := ← (← reading.settle).store option value }

/-- Waits for the value of an option. -/
def await (reading : Reading) (option : Valued) : Except Refusal Reading := do
  return { options := ← reading.settle, pending := some (option, none) }

/-- Raises a flag. -/
def raise (reading : Reading) (flag : Flag) : Except Refusal Reading := do
  return { options := ← (← reading.settle).raise flag }

/-- Reads a long option, after its dashes. -/
def long (reading : Reading) (text : List Char) : Except Refusal Reading :=
  let (letters, rest) := text.span (· != '=')
  let name := String.ofList letters
  match Item.ofName? name, rest with
  | none, _ => .error (.unknownArgument ("--" ++ name))
  | some (.valued option), [] => reading.await option
  | some (.valued option), _ :: value => reading.attach option (String.ofList value)
  | some (.flag flag), [] => reading.raise flag
  | some (.flag flag), _ :: value => .error (.unexpectedValue (String.ofList value) flag)

/-- The value attached to a short option, without an equals sign in front. -/
def attachedValue : List Char → String
  | '=' :: value => String.ofList value
  | value => String.ofList value

/-- Reads short options, after their dash.  What follows one that takes a value
is that value. -/
def short (reading : Reading) : List Char → Except Refusal Reading
  | [] => .ok reading
  | letter :: rest =>
      match Item.ofLetter? letter, rest with
      | none, _ => .error (.unknownArgument ("-" ++ letter.toString))
      | some (.valued option), [] => reading.await option
      | some (.valued option), value => reading.attach option (attachedValue value)
      -- the letters after a flag are flags too, or the group ends in an option with a value
      | some (.flag flag), _ =>
          match reading.raise flag with
          | .error refusal => .error refusal
          | .ok next => next.short rest

/-- Reads an argument that is no option: the value that is waited for. -/
def plain (reading : Reading) (argument : String) : Except Refusal Reading :=
  match reading.pending with
  | some (option, none) => .ok { reading with pending := some (option, some argument) }
  | _ => .error (.unknownArgument argument)

/-- Reads one argument.  A single dash is no option. -/
def argument (reading : Reading) (argument : String) : Except Refusal Reading :=
  match argument.toList with
  | '-' :: '-' :: text => reading.long text
  | '-' :: letter :: rest => reading.short (letter :: rest)
  | _ => reading.plain argument

/-- Reads the remaining arguments.  Two dashes end the options, and nothing may
follow them. -/
def arguments (reading : Reading) : List String → Except Refusal Options
  | [] => reading.settle
  | argument :: rest =>
      if argument = "--" then
        match rest with
        | [] => reading.settle
        | extra :: _ => .error (.unknownArgument extra)
      else
        match reading.argument argument with
        | .error refusal => .error refusal
        | .ok next => next.arguments rest

end Reading

/-- The options that arguments ask for. -/
def Options.ofArguments (arguments : List String) : Except Refusal Options :=
  Reading.arguments {} arguments

end CipherCalc.CommandLine
