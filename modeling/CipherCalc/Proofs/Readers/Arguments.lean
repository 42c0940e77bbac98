import CipherCalc.Proofs.CommandLine.Spelling
import CipherCalc.Proofs.Fallible
import CipherCalc.Readers

/-!
# The reader of arguments

The reader of arguments of this library reads options as the program relies on
(`readsOptions_standard`).

What an argument does depends on what is pending when it is read, since a value in an
argument of its own is stored late.  But whatever comes next begins by storing what is
pending, or is refused; so, but for the refusal, a value may as well be stored at once
(`settles_arguments`).
-/

namespace CipherCalc.CommandLine

open Fallible (ok_bind toOption_bind)

/-! ## Adding options -/

theorem toOption_add (options : Options) (occurrence : Occurrence) :
    (options.add occurrence).toOption = options.add? occurrence := by
  unfold Options.add
  cases options.add? occurrence <;> rfl

theorem store_eq_add (options : Options) (option : Valued) {value : String} (hvalue : value ≠ "") :
    options.store option value = options.add (.valued option value) := by
  unfold Options.store
  simp only [hvalue, and_false, if_false]
  exact bind_pure _

namespace Reading

variable {α : Type} {reading : Reading} {options : Options} {option : Valued} {value : String}
  {rest : List String}

/-! ## Pending values -/

/-- But for the refusal, a step can be made after what is pending was stored. -/
def Settles (step : Reading → Except Refusal α) (reading : Reading) : Prop :=
  (step reading).toOption = reading.settle.toOption.bind fun options => (step { options }).toOption

theorem settles_of_eq {step : Reading → Except Refusal α} (hstep : step reading =
    reading.settle >>= fun options => step { options }) : Settles step reading := by
  rw [Settles, hstep, toOption_bind]

theorem settles_error (refusal : Refusal) :
    Settles (fun _ => (.error refusal : Except _ α)) reading := by
  rw [Settles]
  cases reading.settle <;> rfl

theorem settles_attach (reading : Reading) (option : Valued) (value : String) :
    Settles (·.attach option value) reading :=
  settles_of_eq rfl

theorem settles_await (reading : Reading) (option : Valued) : Settles (·.await option) reading :=
  settles_of_eq rfl

theorem settles_raise (reading : Reading) (flag : Flag) : Settles (·.raise flag) reading :=
  settles_of_eq rfl

theorem settles_long (reading : Reading) (text : List Char) : Settles (·.long text) reading := by
  unfold long
  dsimp only
  split
  · exact settles_error _
  · exact settles_await reading _
  · exact settles_attach reading _ _
  · exact settles_raise reading _
  · exact settles_error _

theorem settles_short (reading : Reading) (letter : Char) (text : List Char) :
    Settles (·.short (letter :: text)) reading := by
  unfold short
  split
  · exact settles_error _
  · exact settles_await reading _
  · exact settles_attach reading _ _
  · refine settles_of_eq ?_
    unfold Reading.raise
    cases reading.settle <;> rfl

/-- A value that is pending may be stored before the next argument is read. -/
theorem settles_argument (hpending : reading.pending = some (option, some value))
    (argument : String) : Settles (·.argument argument) reading := by
  unfold Reading.argument
  split
  · exact settles_long reading _
  · exact settles_short reading _ _
  · unfold plain
    rw [Settles]
    simp only [hpending]
    cases reading.settle <;> rfl

theorem arguments_cons (reading : Reading) {argument : String} (hargument : argument ≠ "--")
    (rest : List String) : reading.arguments (argument :: rest) =
      reading.argument argument >>= fun next => next.arguments rest := by
  rw [arguments.eq_def]
  simp only [if_neg hargument]
  cases reading.argument argument <;> rfl

/-- A value that is pending may be stored before the rest is read. -/
theorem settles_arguments (hpending : reading.pending = some (option, some value))
    (rest : List String) : Settles (·.arguments rest) reading := by
  cases rest with
  | nil => exact settles_of_eq (bind_pure reading.settle).symm
  | cons argument rest =>
      by_cases hdashes : argument = "--"
      · subst hdashes
        cases rest with
        | nil => exact settles_of_eq (bind_pure reading.settle).symm
        | cons extra rest => exact settles_error _
      · have hargument := settles_argument hpending argument
        unfold Settles at hargument ⊢
        simp only [arguments_cons _ hdashes, toOption_bind, hargument, Option.bind_assoc]

/-! ## Single arguments -/

theorem argument_long (reading : Reading) (text : String) :
    reading.argument ("--" ++ text) = reading.long text.toList := by
  rw [argument, String.toList_append]
  rfl

theorem argument_dashed (reading : Reading) {letter : Char} (hletter : letter ≠ '-')
    (text : List Char) : reading.argument (dashed (letter :: text)) =
      reading.short (letter :: text) := by
  rw [Reading.argument, dashed, String.toList_ofList]
  split
  · next heq =>
      simp only [List.cons.injEq, true_and] at heq
      exact absurd heq.1 hletter
  · next heq =>
      simp only [List.cons.injEq, true_and] at heq
      rw [heq.1, heq.2]
  · next _ hshort => exact (hshort _ _ rfl).elim

theorem argument_separate (reading : Reading) (hvalue : IsSeparate value) :
    reading.argument value = reading.plain value := by
  rw [Reading.argument]
  split
  · next heq => exact absurd (by rw [heq, List.head?_cons]) hvalue.2
  · next heq => exact absurd (by rw [heq, List.head?_cons]) hvalue.2
  · rfl

theorem long_name (reading : Reading) (option : Valued) :
    reading.long option.name.toList = reading.await option := by
  cases option <;> rfl

theorem long_equals (reading : Reading) (option : Valued) (value : List Char) :
    reading.long (option.name.toList ++ '=' :: value) =
      reading.attach option (String.ofList value) := by
  cases option <;> rfl

theorem long_flag (reading : Reading) (flag : Flag) :
    reading.long flag.name.toList = reading.raise flag := by
  cases flag <;> rfl

theorem short_letter (reading : Reading) (option : Valued) :
    reading.short [option.letter] = reading.await option := by
  cases option <;> rfl

theorem short_attached (reading : Reading) (option : Valued) {text : List Char} (htext : text ≠ []) :
    reading.short (option.letter :: text) = reading.attach option (attachedValue text) := by
  obtain ⟨first, rest, rfl⟩ := List.exists_cons_of_ne_nil htext
  cases option <;> rfl

theorem short_verbose (reading : Reading) (text : List Char) :
    reading.short ('v' :: text) = reading.raise .verbose >>= fun next => next.short text := by
  have hletter : Item.ofLetter? 'v' = some (.flag .verbose) := rfl
  rw [short.eq_def]
  simp only [hletter]
  cases reading.raise .verbose <;> rfl

theorem attachedValue_of_head? (hfirst : value.toList.head? ≠ some '=') :
    attachedValue value.toList = value := by
  unfold attachedValue
  split
  · next heq => exact absurd (by rw [heq, List.head?_cons]) hfirst
  · exact String.ofList_toList

/-! ## Arguments that do not end the options -/

theorem dashes_append_ne {text : String} (htext : text ≠ "") : "--" ++ text ≠ "--" := by
  intro hdashes
  have hlist := congrArg String.toList hdashes
  rw [String.toList_append] at hlist
  exact htext (String.toList_eq_nil_iff.mp (List.append_right_eq_self.mp hlist))

theorem dashed_ne_dashes {letter : Char} (hletter : letter ≠ '-') (text : List Char) :
    dashed (letter :: text) ≠ "--" := by
  intro hdashes
  have hlist := congrArg String.toList hdashes
  rw [dashed, String.toList_ofList] at hlist
  exact hletter (List.cons.inj (List.cons.inj hlist).2).1

theorem letter_ne_dash (option : Valued) : option.letter ≠ '-' := by
  cases option <;> decide

theorem name_ne_empty (option : Valued) : option.name ≠ "" := by
  cases option <;> decide

/-! ## Words -/

/-- What the rest is read into, when nothing is pending. -/
def readInto (options : Options) (arguments : List String) : Option Options :=
  (Reading.arguments { options } arguments).toOption

/-- An argument that adds an occurrence by itself. -/
theorem readInto_of_add {argument : String} {occurrence : Occurrence} (hdashes : argument ≠ "--")
    (hargument : ({ options } : Reading).argument argument =
      options.add occurrence >>= fun next => .ok { options := next }) (rest : List String) :
    readInto options (argument :: rest) =
      (options.add? occurrence).bind fun next => readInto next rest := by
  rw [readInto, arguments_cons _ hdashes, hargument, bind_assoc, toOption_bind, toOption_add]
  rfl

/-- An option with its value in the next argument. -/
theorem readInto_of_await {argument : String} (hdashes : argument ≠ "--")
    (hargument : ({ options } : Reading).argument argument =
      .ok { options, pending := some (option, none) })
    (hvalue : IsSeparate value) (rest : List String) :
    readInto options (argument :: value :: rest) =
      (options.add? (.valued option value)).bind fun next => readInto next rest := by
  have hvalueDashes : value ≠ "--" := by
    rintro rfl
    exact hvalue.2 rfl
  have hsettles : Settles (·.arguments rest) { options, pending := some (option, some value) } :=
    settles_arguments rfl rest
  have hsettle : ({ options, pending := some (option, some value) } : Reading).settle =
      options.add (.valued option value) := store_eq_add options option hvalue.1
  rw [readInto, arguments_cons _ hdashes, hargument, ok_bind, arguments_cons _ hvalueDashes,
    argument_separate _ hvalue]
  exact hsettles.trans (by rw [hsettle, toOption_add]; rfl)

theorem attach_eq_add (options : Options) (option : Valued) (hvalue : value ≠ "") :
    ({ options } : Reading).attach option value =
      options.add (.valued option value) >>= fun next => .ok { options := next } := by
  rw [← store_eq_add options option hvalue]
  rfl

theorem readInto_spells {occurrence : Occurrence} {word : List String}
    (hspells : Spells occurrence word) (options : Options) (rest : List String) :
    readInto options (word ++ rest) =
      (options.add? occurrence).bind fun next => readInto next rest := by
  cases hspells with
  | showSteps =>
      refine readInto_of_add (by decide) ?_ rest
      rw [argument_long, long_flag]
      rfl
  | longVerbose =>
      refine readInto_of_add (by decide) ?_ rest
      rw [argument_long, long_flag]
      rfl
  | shortVerbose =>
      refine readInto_of_add (by decide) ?_ rest
      rw [argument_dashed _ (by decide), short_verbose]
      exact bind_pure _
  | longSeparate option hvalue =>
      refine readInto_of_await (dashes_append_ne (name_ne_empty option)) ?_ hvalue rest
      rw [argument_long, long_name]
      rfl
  | @longEquals option value hvalue =>
      have htext : (option.name ++ "=" ++ value).toList =
          option.name.toList ++ '=' :: value.toList := by
        rw [String.toList_append, String.toList_append, List.append_assoc]
        rfl
      have hword : "--" ++ option.name ++ "=" ++ value = "--" ++ (option.name ++ "=" ++ value) := by
        simp only [String.append_assoc]
      rw [hword]
      refine readInto_of_add (dashes_append_ne (by simp)) ?_ rest
      rw [argument_long, htext, long_equals, String.ofList_toList, attach_eq_add _ _ hvalue]
  | shortSeparate option hvalue =>
      refine readInto_of_await (dashed_ne_dashes (letter_ne_dash option) _) ?_ hvalue rest
      rw [argument_dashed _ (letter_ne_dash option), short_letter]
      rfl
  | @shortAttached option value hvalue hfirst =>
      refine readInto_of_add (dashed_ne_dashes (letter_ne_dash option) _) ?_ rest
      rw [argument_dashed _ (letter_ne_dash option),
        short_attached _ _ (mt String.toList_eq_nil_iff.mp hvalue), attachedValue_of_head? hfirst,
        attach_eq_add _ _ hvalue]
  | @shortEquals option value hvalue =>
      refine readInto_of_add (dashed_ne_dashes (letter_ne_dash option) _) ?_ rest
      rw [argument_dashed _ (letter_ne_dash option), short_attached _ _ (List.cons_ne_nil _ _),
        attachedValue, String.ofList_toList, attach_eq_add _ _ hvalue]

theorem readInto_behindFlag {letter : Char} (hletter : IsShortName letter) (text : List Char)
    (options : Options) (rest : List String) :
    readInto options (dashed ('v' :: letter :: text) :: rest) =
      readInto options (dashed ['v'] :: dashed (letter :: text) :: rest) := by
  have hflag : 'v' ≠ '-' := by decide
  have hletter : letter ≠ '-' := by
    rcases hletter with rfl | ⟨option, rfl⟩
    · exact hflag
    · exact letter_ne_dash option
  unfold readInto
  rw [arguments_cons _ (dashed_ne_dashes hflag _), arguments_cons _ (dashed_ne_dashes hflag _),
    argument_dashed _ hflag, argument_dashed _ hflag, short_verbose, short_verbose, bind_assoc,
    bind_assoc]
  refine congrArg Except.toOption (bind_congr fun next => ?_)
  show _ = next.arguments (dashed (letter :: text) :: rest)
  rw [arguments_cons _ (dashed_ne_dashes hletter _), argument_dashed _ hletter]

end Reading

/-- The reader of arguments of this library reads options as the program relies on. -/
theorem readsOptions_standard : ReadsOptions Readers.standard.options Reading.readInto where
  toOption_eq _ := Fallible.toOption_mapError ..
  nil _ := rfl
  spells := Reading.readInto_spells
  behindFlag := Reading.readInto_behindFlag

end CipherCalc.CommandLine
