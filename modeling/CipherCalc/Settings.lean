/-!
# Settings

What a user may set: whether the menu asks to continue after each action,
whether the steps of an evaluation are shown, and how many lines a line editor
remembers.
-/

namespace CipherCalc

/-- The settings of a run, with their defaults. -/
structure Settings where
  askContinue : Bool := true
  showSteps : Bool := false
  historySize : Nat := 100
  deriving DecidableEq

end CipherCalc
