import CipherCalc.CommandLine.Options

/-!
# Options and their spellings

An option can be written long or short, and a value can follow it in an argument of its own
or be attached to it (`Spells`).  Flags can share an argument with a short option behind them
(`IsWord`), and `Spelled` puts such words in a row.

The program leaves it to a reader to make options of its arguments.  `ReadsOptions` is what
it relies on: each spelling stands for its option wherever it stands, and a flag may share
the dash of the option behind it.  Therefore spelled arguments are read as their occurrences,
added one after another (`Spelled.readInto_eq`).
-/

namespace CipherCalc.CommandLine

/-! ## Spellings -/

/-- A value that may stand in an argument of its own. -/
def IsSeparate (value : String) : Prop :=
  value ≠ "" ∧ value.toList.head? ≠ some '-'

instance (value : String) : Decidable (IsSeparate value) :=
  inferInstanceAs (Decidable (_ ∧ _))

/-- An argument with one dash in front. -/
def dashed (text : List Char) : String :=
  String.ofList ('-' :: text)

/-- How one option may be written in arguments that it does not share.  A value stands in an
argument of its own, or behind an equals sign, or right behind the short name of its option. -/
inductive Spells : Occurrence → List String → Prop
  | showSteps : Spells .showSteps ["--" ++ Flag.showSteps.name]
  | longVerbose : Spells .verbose ["--" ++ Flag.verbose.name]
  | shortVerbose : Spells .verbose [dashed ['v']]
  | longSeparate (option : Valued) {value : String} (hvalue : IsSeparate value) :
      Spells (.valued option value) ["--" ++ option.name, value]
  | longEquals (option : Valued) {value : String} (hvalue : value ≠ "") :
      Spells (.valued option value) ["--" ++ option.name ++ "=" ++ value]
  | shortSeparate (option : Valued) {value : String} (hvalue : IsSeparate value) :
      Spells (.valued option value) [dashed [option.letter], value]
  | shortAttached (option : Valued) {value : String} (hvalue : value ≠ "")
      (hfirst : value.toList.head? ≠ some '=') :
      Spells (.valued option value) [dashed (option.letter :: value.toList)]
  | shortEquals (option : Valued) {value : String} (hvalue : value ≠ "") :
      Spells (.valued option value) [dashed (option.letter :: '=' :: value.toList)]

/-- The short names of the options that can be asked for. -/
def IsShortName (letter : Char) : Prop :=
  letter = 'v' ∨ ∃ option : Valued, letter = option.letter

/-- The options that one or two arguments ask for: one option, or flags in front of a short
option that share its dash. -/
inductive IsWord : List Occurrence → List String → Prop
  | alone {occurrence : Occurrence} {word : List String} (hspells : Spells occurrence word) :
      IsWord [occurrence] word
  | behindFlag {occurrences : List Occurrence} {letter : Char} {text : List Char}
      {values : List String} (hletter : IsShortName letter)
      (hword : IsWord occurrences (dashed (letter :: text) :: values)) :
      IsWord (.verbose :: occurrences) (dashed ('v' :: letter :: text) :: values)

/-- The options that arguments ask for, from left to right. -/
inductive Spelled : List Occurrence → List String → Prop
  | nil : Spelled [] []
  | append {first rest : List Occurrence} {word arguments : List String} (hword : IsWord first word)
      (hrest : Spelled rest arguments) : Spelled (first ++ rest) (word ++ arguments)

/-! ## Readers of options -/

/-- What a reader of arguments does with these options.  It reads arguments from left to
right into the options that it has, and refuses them as soon as an option cannot be added.
A spelling stands for its option, whatever follows; a flag in front of another short name
stands for the flag and that name.  Of other arguments nothing is said. -/
structure ReadsOptions {ε : Type} (parse : List String → Except ε Options)
    (readInto : Options → List String → Option Options) : Prop where
  toOption_eq (arguments : List String) : (parse arguments).toOption = readInto {} arguments
  nil (options : Options) : readInto options [] = some options
  spells {occurrence : Occurrence} {word : List String} (hspells : Spells occurrence word)
      (options : Options) (rest : List String) :
    readInto options (word ++ rest) =
      (options.add? occurrence).bind fun next => readInto next rest
  behindFlag {letter : Char} (hletter : IsShortName letter) (text : List Char) (options : Options)
      (rest : List String) :
    readInto options (dashed ('v' :: letter :: text) :: rest) =
      readInto options (dashed ['v'] :: dashed (letter :: text) :: rest)

section

variable {ε : Type} {parse : List String → Except ε Options}
  {readInto : Options → List String → Option Options} {occurrences : List Occurrence}

theorem IsWord.readInto_append (hparse : ReadsOptions parse readInto) {word : List String}
    (hword : IsWord occurrences word) (options : Options) (rest : List String) :
    readInto options (word ++ rest) =
      (occurrences.foldlM Options.add? options).bind fun next => readInto next rest := by
  induction hword generalizing options with
  | alone hspells =>
      rw [hparse.spells hspells, List.foldlM_cons]
      simp only [List.foldlM_nil, bind_pure]
  | behindFlag hletter _ ih =>
      rw [List.cons_append, hparse.behindFlag hletter]
      refine (hparse.spells .shortVerbose options _).trans ?_
      rw [List.foldlM_cons, Option.bind_eq_bind, Option.bind_assoc]
      exact Option.bind_congr fun next _ => ih next

/-- Spelled options are added one after another. -/
theorem Spelled.readInto_eq (hparse : ReadsOptions parse readInto) {arguments : List String}
    (hspelled : Spelled occurrences arguments) (options : Options) :
    readInto options arguments = occurrences.foldlM Options.add? options := by
  induction hspelled generalizing options with
  | nil => exact hparse.nil options
  | append hword _ ih =>
      rw [hword.readInto_append hparse, List.foldlM_append]
      exact Option.bind_congr fun next _ => ih next

end

end CipherCalc.CommandLine
