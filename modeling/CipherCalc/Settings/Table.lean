import CipherCalc.Settings

/-!
# Tables of settings

What a settings document says is a table: values of keys.  Here is which keys
there are and which values they take.  How a document is turned into a table is
left to the reader of the documents.
-/

namespace CipherCalc.Settings

/-- A value in a document, as far as settings can have it. -/
inductive Value where
  | switch (value : Bool)
  | whole (value : Int)
  /-- A value of any other kind. -/
  | other
  deriving DecidableEq

/-- Keys with their values. -/
abbrev Table := List (List Char × Value)

/-- A table with one more key, which must be new. -/
def Table.add? (key : List Char) (value : Value) (table : Table) : Option Table :=
  if key ∈ table.map Prod.fst then none else some ((key, value) :: table)

/-! ## Fields -/

/-- What can be set. -/
inductive Field where
  | askContinue
  | showSteps
  | historySize
  deriving DecidableEq

/-- The key of a field. -/
def Field.key : Field → List Char
  | .askContinue => "ask_continue".toList
  | .showSteps => "show_steps".toList
  | .historySize => "history_size".toList

/-- The settings with a value in a field, if the field takes it: a switch for the
first two, and a number that is not negative for the size. -/
def Field.put? (field : Field) (value : Value) (settings : Settings) : Option Settings :=
  match field, value with
  | .askContinue, .switch value => some { settings with askContinue := value }
  | .showSteps, .switch value => some { settings with showSteps := value }
  | .historySize, .whole value =>
      if 0 ≤ value then some { settings with historySize := value.toNat } else none
  | _, _ => none

end CipherCalc.Settings
