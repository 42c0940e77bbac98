import CipherCalc.Proofs.Text.Trim
import CipherCalc.Session.Answer

/-!
# What the answers look for

The entries of the menu and the sources of a text each have their own word, and a
line names them by that word between blank characters.  Consent depends on the
first character that is not blank, and on nothing else of the line.
-/

namespace CipherCalc.Text

/-- The first character of a text that is not blank. -/
def firstVisible? (text : String) : Option Char :=
  text.toList.find? fun char => !isBlank char

theorem firstVisible?_eq_head? (text : String) :
    firstVisible? text = (text.toList.dropWhile isBlank).head? :=
  List.find?_not_eq_head?_dropWhile _ _

theorem firstVisible?_eq_none_iff {text : String} :
    firstVisible? text = none ↔ isBlankText text := by
  rw [firstVisible?, List.find?_eq_none, isBlankText, List.all_eq_true]
  simp only [Bool.not_eq_true', Bool.not_eq_false]

theorem not_isBlankText_of_firstVisible? {text : String} {char : Char}
    (hfirst : firstVisible? text = some char) : ¬ isBlankText text := by
  rw [← firstVisible?_eq_none_iff, hfirst]
  exact Option.some_ne_none char

end CipherCalc.Text

namespace CipherCalc.Session

/-- The number of an entry of the menu. -/
def Choice.number : Choice → String
  | .encipher => "1"
  | .decipher => "2"
  | .evaluate => "3"
  | .leave => "4"

theorem Choice.ofLine?_eq_some_iff {line : String} {choice : Choice} :
    Choice.ofLine? line = some choice ↔ Text.trim line = choice.number := by
  unfold Choice.ofLine?
  constructor
  · grind [Choice.number]
  · intro hnumber
    rw [hnumber]
    cases choice <;> decide

theorem Choice.ofLine?_eq_none_iff {line : String} :
    Choice.ofLine? line = none ↔ Text.trim line ∉ ["1", "2", "3", "4"] := by
  unfold Choice.ofLine?
  grind

/-- The word for a source. -/
def Source.word : Source → String
  | .typed => "console"
  | .file => "file"

theorem Source.ofLine?_eq_some_iff {line : String} {source : Source} :
    Source.ofLine? line = some source ↔ Text.trim line = source.word := by
  unfold Source.ofLine?
  constructor
  · grind [Source.word]
  · intro hword
    rw [hword]
    cases source <;> decide

theorem Source.ofLine?_eq_none_iff {line : String} :
    Source.ofLine? line = none ↔ Text.trim line ∉ ["console", "file"] := by
  unfold Source.ofLine?
  grind

theorem Consent.ofLine_eq (line : String) :
    Consent.ofLine line = match Text.firstVisible? line with
      | none => .unclear
      | some char =>
          if char ∈ ['y', 'Y'] then .yes else if char ∈ ['n', 'N'] then .no else .unclear := by
  rw [Text.firstVisible?_eq_head?, Consent.ofLine]
  cases line.toList.dropWhile Text.isBlank with
  | nil => rfl
  | cons char rest => grind

theorem Consent.ofLine_eq_yes_iff {line : String} :
    Consent.ofLine line = .yes ↔
      ∃ char, Text.firstVisible? line = some char ∧ char ∈ ['y', 'Y'] := by
  rw [Consent.ofLine_eq]
  cases Text.firstVisible? line with
  | none => simp
  | some char => grind

theorem Consent.ofLine_eq_no_iff {line : String} :
    Consent.ofLine line = .no ↔
      ∃ char, Text.firstVisible? line = some char ∧ char ∈ ['n', 'N'] := by
  rw [Consent.ofLine_eq]
  cases Text.firstVisible? line with
  | none => simp
  | some char => grind

theorem Consent.ofLine_eq_unclear_iff {line : String} :
    Consent.ofLine line = .unclear ↔
      ∀ char, Text.firstVisible? line = some char → char ∉ ['y', 'Y', 'n', 'N'] := by
  rw [Consent.ofLine_eq]
  cases Text.firstVisible? line with
  | none => simp
  | some char => grind

end CipherCalc.Session
