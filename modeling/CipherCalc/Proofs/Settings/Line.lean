import CipherCalc.Proofs.Settings.Value
import Mathlib.Data.List.Basic

/-!
# Lines of settings documents

A line either gives nothing (`IsTail`) or assigns a value to a key (`IsAssignment`); around
its parts there may be spacing, and a comment behind them.

The program leaves it to a reader to make a table of such lines (`ReadsTables`), and to fill
the settings from it (`FillsSettings`).  Both are described by what one line, and one key,
does in front of any others.
-/

namespace CipherCalc.Settings

/-! ## Parts of lines -/

/-- Spaces and tabs. -/
def IsSpacing (text : List Char) : Prop :=
  ∀ char ∈ text, char = ' ' ∨ char = '\t'

instance (text : List Char) : Decidable (IsSpacing text) :=
  List.decidableBAll _ text

/-- No control characters but tabs. -/
def IsComment (text : List Char) : Prop :=
  ∀ char ∈ text, char.toNat < 0x20 ∨ char.toNat = 0x7F → char = '\t'

instance (text : List Char) : Decidable (IsComment text) :=
  List.decidableBAll _ text

/-- Spacing, and perhaps a comment behind it. -/
inductive IsTail : List Char → Prop where
  | spacing (text : List Char) (hspacing : IsSpacing text) : IsTail text
  | comment (text comment : List Char) (hspacing : IsSpacing text) (hcomment : IsComment comment) :
      IsTail (text ++ '#' :: comment)

/-- A key that needs no quotes. -/
def IsBareKey (key : List Char) : Prop :=
  key ≠ [] ∧ ∀ char ∈ key, char.isAlphanum ∨ char = '_' ∨ char = '-'

instance (key : List Char) : Decidable (IsBareKey key) :=
  @instDecidableAnd _ _ inferInstance (List.decidableBAll _ key)

theorem Field.isBareKey_key (field : Field) : IsBareKey field.key := by
  cases field <;> decide

theorem Field.key_injective {field other : Field} (hkey : field.key = other.key) :
    field = other := by
  cases field <;> cases other <;> first | rfl | exact absurd hkey (by decide)

/-- A line that assigns a text to a key. -/
def IsAssignment (key text line : List Char) : Prop :=
  ∃ before after gap tail, IsSpacing before ∧ IsSpacing after ∧ IsSpacing gap ∧ IsTail tail ∧
    line = before ++ key ++ after ++ '=' :: (gap ++ text ++ tail)

/-- A text of the characters of switches, numbers and dates.  A reader of values takes it as
a whole. -/
def IsToken (text : List Char) : Prop :=
  text ≠ [] ∧ ∀ char ∈ text, char.isAlphanum ∨ char ∈ ['_', '+', '-', '.', ':']

instance (text : List Char) : Decidable (IsToken text) :=
  @instDecidableAnd _ _ inferInstance (List.decidableBAll _ text)

/-- A text that is a value, or at least a token. -/
def IsLegible (value? : List Char → Option Value) (text : List Char) : Prop :=
  IsToken text ∨ (value? text).isSome

/-! ## Lines of a text -/

/-- A text without line ends. -/
def IsUnbroken (text : List Char) : Prop :=
  ∀ char ∈ text, char ≠ '\n' ∧ char ≠ '\r'

instance (text : List Char) : Decidable (IsUnbroken text) :=
  List.decidableBAll _ text

/-- A line end: a line feed, or a carriage return and a line feed. -/
def IsNewline (text : List Char) : Prop :=
  text = ['\n'] ∨ text = ['\r', '\n']

/-- The byte order mark, which is dropped in front of a text and nowhere else. -/
def mark : Char := '\uFEFF'

/-- A line that is found in a text as it is. -/
structure IsRow (line : List Char) : Prop where
  isUnbroken : IsUnbroken line
  head?_ne : line.head? ≠ some mark

/-- Lines, with a line end after each of them but the last. -/
inductive Joins : List (List Char) → List Char → Prop where
  | last (line : List Char) : Joins [line] line
  | cons (line : List Char) {newline : List Char} (hnewline : IsNewline newline)
      {rows : List (List Char)} {rest : List Char} (hrest : Joins rows rest) :
      Joins (line :: rows) (line ++ newline ++ rest)

variable {key text rest line : List Char} {rows : List (List Char)}

/-! ## Integers are tokens -/

theorem IsDigit.isAlphanum {char : Char} (hdigit : IsDigit 16 char) : char.isAlphanum = true := by
  have hdigits : ∀ value < 16, value.digitChar.isAlphanum = true ∧
      value.digitChar.toUpper.isAlphanum = true := by decide
  obtain ⟨value, hlt, rfl | rfl⟩ := hdigit
  · exact (hdigits value hlt).1
  · exact (hdigits value hlt).2

theorem IsInteger.isToken (hinteger : IsInteger text) : IsToken text := by
  constructor
  · rintro rfl
    cases hinteger with
    | unsigned hdigits => cases hdigits.1
  · exact hinteger.forall_char (fun char hdigit => .inl hdigit.isAlphanum)
      (by simp [Char.isAlphanum])

/-! ## Lines that are rows -/

theorem isUnbroken_append_iff :
    IsUnbroken (text ++ rest) ↔ IsUnbroken text ∧ IsUnbroken rest :=
  List.forall_mem_append

/-- A text has no line ends when its characters have a property that line ends lack. -/
theorem isUnbroken_of_forall {property : Char → Prop} (htext : ∀ char ∈ text, property char)
    (hlineFeed : ¬ property '\n') (hcarriageReturn : ¬ property '\r') : IsUnbroken text := by
  intro char hmem
  constructor
  · rintro rfl
    exact hlineFeed (htext _ hmem)
  · rintro rfl
    exact hcarriageReturn (htext _ hmem)

theorem IsSpacing.isUnbroken (hspacing : IsSpacing text) : IsUnbroken text :=
  isUnbroken_of_forall hspacing (by decide) (by decide)

theorem IsComment.isUnbroken (hcomment : IsComment text) : IsUnbroken text :=
  isUnbroken_of_forall hcomment (by decide) (by decide)

theorem IsBareKey.isUnbroken (hkey : IsBareKey key) : IsUnbroken key :=
  isUnbroken_of_forall hkey.2 (by decide) (by decide)

theorem IsToken.isUnbroken (htoken : IsToken text) : IsUnbroken text :=
  isUnbroken_of_forall htoken.2 (by decide) (by decide)

theorem IsTail.isUnbroken (htail : IsTail text) : IsUnbroken text := by
  cases htail with
  | spacing _ hspacing => exact hspacing.isUnbroken
  | comment _ _ hspacing hcomment =>
      exact isUnbroken_append_iff.mpr ⟨hspacing.isUnbroken,
        List.forall_mem_cons.mpr ⟨by decide, hcomment.isUnbroken⟩⟩

theorem IsAssignment.isUnbroken (hassigns : IsAssignment key text line) (hkey : IsBareKey key)
    (htext : IsUnbroken text) : IsUnbroken line := by
  obtain ⟨before, after, gap, tail, hbefore, hafter, hgap, htail, rfl⟩ := hassigns
  simp only [isUnbroken_append_iff]
  refine ⟨⟨⟨hbefore.isUnbroken, hkey.isUnbroken⟩, hafter.isUnbroken⟩,
    List.forall_mem_cons.mpr ⟨by decide, ?_⟩⟩
  exact isUnbroken_append_iff.mpr ⟨isUnbroken_append_iff.mpr ⟨hgap.isUnbroken, htext⟩,
    htail.isUnbroken⟩

theorem IsTail.isRow (htail : IsTail line) : IsRow line where
  isUnbroken := htail.isUnbroken
  head?_ne hmark := by
    cases htail with
    | spacing _ hspacing => exact absurd (hspacing _ (List.mem_of_mem_head? hmark)) (by decide)
    | comment text comment hspacing _ =>
        rw [List.head?_append, Option.or_eq_some_iff] at hmark
        rcases hmark with hmark | ⟨-, hmark⟩
        · exact absurd (hspacing _ (List.mem_of_mem_head? hmark)) (by decide)
        · exact absurd (Option.some.inj hmark) (by decide)

theorem IsAssignment.isRow (hassigns : IsAssignment key text line) (hkey : IsBareKey key)
    (hline : IsUnbroken line) : IsRow line where
  isUnbroken := hline
  head?_ne hmark := by
    obtain ⟨before, after, gap, tail, hbefore, -, -, -, rfl⟩ := hassigns
    obtain ⟨hne, hbare⟩ := hkey
    rw [List.append_assoc, List.append_assoc, List.head?_append, Option.or_eq_some_iff,
      List.head?_append_of_ne_nil _ hne] at hmark
    rcases hmark with hmark | ⟨-, hmark⟩
    · exact absurd (hbefore _ (List.mem_of_mem_head? hmark)) (by decide)
    · exact absurd (hbare _ (List.mem_of_mem_head? hmark)) (by decide)

theorem Joins.head?_ne_mark (hjoins : Joins rows text) (hrows : ∀ row ∈ rows, IsRow row) :
    text.head? ≠ some mark := by
  cases hjoins with
  | last => exact (hrows text List.mem_cons_self).head?_ne
  | cons line hnewline hrest =>
      intro hmark
      rw [List.append_assoc, List.head?_append, Option.or_eq_some_iff] at hmark
      rcases hmark with hmark | ⟨-, hmark⟩
      · exact (hrows line List.mem_cons_self).head?_ne hmark
      · rcases hnewline with rfl | rfl <;> exact absurd (Option.some.inj hmark) (by decide)

/-! ## Readers of documents -/

/-- What a reader of documents makes of lines in front of a text.  A line that gives nothing
is skipped, and an assignment adds its value to the table of the rest; its key must be new
there.  A last line needs no line end. -/
structure ReadsTables (table? : List Char → Option Table) (value? : List Char → Option Value) :
    Prop where
  nil : table? [] = some []
  tail {line newline rest : List Char} (hline : IsTail line) (hnewline : IsNewline newline)
      (hrest : rest.head? ≠ some mark) :
    table? (line ++ newline ++ rest) = table? rest
  assignment {key text line newline rest : List Char} (hkey : IsBareKey key)
      (hassigns : IsAssignment key text line) (hlegible : IsLegible value? text)
      (hline : IsUnbroken line) (hnewline : IsNewline newline) (hrest : rest.head? ≠ some mark) :
    table? (line ++ newline ++ rest) =
      (value? text).bind fun value => (table? rest).bind (Table.add? key value)
  unended {line : List Char} (hline : IsRow line) : table? line = table? (line ++ ['\n'])

/-- How settings are filled from a table with different keys.  Keys that are not there keep
their defaults, a key that is no field is refused, and a field must take its value. -/
structure FillsSettings (ofTable? : Table → Option Settings) : Prop where
  nil : ofTable? [] = some {}
  unknown {key : List Char} (hunknown : ∀ field : Field, field.key ≠ key) (value : Value)
      (table : Table) :
    ofTable? ((key, value) :: table) = none
  field (field : Field) (value : Value) {table : Table} (hnew : field.key ∉ table.map Prod.fst) :
    ofTable? ((field.key, value) :: table) = (ofTable? table).bind (field.put? value)

/-- What the program relies on in a reader of settings documents: it reads a document as a
table, and fills the settings from that. -/
structure ReadsDocuments (settings? : String → Option Settings)
    (table? : List Char → Option Table) (value? : List Char → Option Value)
    (ofTable? : Table → Option Settings) : Prop where
  settings?_eq (document : String) : settings? document = (table? document.toList).bind ofTable?
  tables : ReadsTables table? value?
  values : ReadsValues value?
  fills : FillsSettings ofTable?

end CipherCalc.Settings
