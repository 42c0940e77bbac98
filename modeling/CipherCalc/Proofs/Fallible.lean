/-!
# Results that may be errors

How mapping a result, mapping its error and going on from it combine.  The
laws are about the functions of `Except` and not about its monad, since these
are what recursive definitions are written with; `ok_bind` opens a definition
that is written as a row of steps.  `Except.toOption` forgets which error it was.
-/

namespace CipherCalc.Fallible

variable {ε ε' α β γ : Type}

theorem map_eq_ok_iff {result : Except ε α} {f : α → β} {value : β} :
    result.map f = .ok value ↔ ∃ inner, result = .ok inner ∧ f inner = value := by
  cases result <;> simp [Except.map]

theorem map_eq_error_iff {result : Except ε α} {f : α → β} {error : ε} :
    result.map f = .error error ↔ result = .error error := by
  cases result <;> simp [Except.map]

theorem map_map (result : Except ε α) (f : α → β) (g : β → γ) :
    (result.map f).map g = result.map fun value => g (f value) := by
  cases result <;> rfl

theorem mapError_map (result : Except ε α) (f : α → β) (g : ε → ε') :
    (result.map f).mapError g = (result.mapError g).map f := by
  cases result <;> rfl

theorem map_bind (result : Except ε α) (f : α → β) (g : β → Except ε γ) :
    (result.map f).bind g = result.bind fun value => g (f value) := by
  cases result <;> rfl

theorem ok_bind (value : α) (f : α → Except ε β) :
    ((Except.ok value : Except ε α) >>= f) = f value := rfl

theorem bind_map (result : Except ε α) (f : α → Except ε β) (g : β → γ) :
    (result.bind f).map g = result.bind fun value => (f value).map g := by
  cases result <;> rfl

theorem toOption_bind (result : Except ε α) (f : α → Except ε β) :
    (result >>= f).toOption = result.toOption.bind fun value => (f value).toOption := by
  cases result <;> rfl

theorem toOption_mapError (result : Except ε α) (f : ε → ε') :
    (result.mapError f).toOption = result.toOption := by
  cases result <;> rfl

theorem toOption_eq_some_iff {result : Except ε α} {value : α} :
    result.toOption = some value ↔ result = .ok value := by
  cases result <;> simp [Except.toOption]

theorem toOption_eq_none_iff {result : Except ε α} :
    result.toOption = none ↔ ∃ error, result = .error error := by
  cases result <;> simp [Except.toOption]

end CipherCalc.Fallible
