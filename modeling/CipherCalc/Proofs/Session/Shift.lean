import CipherCalc.Proofs.Decimal.Positional
import CipherCalc.Proofs.Text.Trim
import CipherCalc.Session.Answer
import Mathlib.Data.Nat.Digits.Defs

/-!
# The shifts that lines give

A line gives a shift when it is a whole number in decimal digits between blank
characters, and the number has 32 bits (`shiftOfLine?_spelled`).  The number is that of
the digits by their places (`SpellsInteger`), however many there are, so zeros in front
do not count and nothing wraps around.

The blank characters are dealt with once: what is left of a line by trimming is its only
part that can be a number (`exists_spellsInteger_iff`).
-/

namespace CipherCalc

/-! ## Digits and their places -/

namespace Decimal

/-- The number of decimal digits by their places, the last one counting once. -/
def placeValue (digits : List Char) : Nat :=
  Nat.ofDigits 10 (digits.reverse.map fun digit => digit.toNat - '0'.toNat)

theorem ofDigits_eq_placeValue (digits : List Char) : ofDigits digits = placeValue digits := by
  rw [placeValue, Nat.ofDigits_eq_foldr, List.foldr_map, ofDigits, ← List.foldr_reverse]
  congr 1
  funext digit value
  exact Nat.add_comm _ _

end Decimal

namespace Session

/-- At least one character, and decimal digits only. -/
def IsDigits (text : List Char) : Prop :=
  text ≠ [] ∧ ∀ char ∈ text, '0' ≤ char ∧ char ≤ '9'

/-- A text is a whole number in decimal digits, with or without a sign. -/
inductive SpellsInteger : List Char → Int → Prop
  | unsigned {digits : List Char} : IsDigits digits →
      SpellsInteger digits (Decimal.placeValue digits)
  | plus {digits : List Char} : IsDigits digits →
      SpellsInteger ('+' :: digits) (Decimal.placeValue digits)
  | minus {digits : List Char} : IsDigits digits →
      SpellsInteger ('-' :: digits) (-Decimal.placeValue digits)

/-! ## Signs -/

theorem isDigits_iff {text : List Char} : IsDigits text ↔ text ≠ [] ∧ text.all Char.isDigit := by
  rw [IsDigits, List.all_eq_true]
  refine and_congr_right fun _ => forall₂_congr fun char _ => ?_
  rw [Char.isDigit, Bool.and_eq_true, decide_eq_true_eq, decide_eq_true_eq]
  rfl

theorem splitSign_of_isDigits {text : List Char} (hdigits : IsDigits text) :
    Numeral.splitSign text = (false, text) := by
  unfold Numeral.splitSign
  split
  · exact absurd (hdigits.2 '-' List.mem_cons_self).1 (by decide)
  · exact absurd (hdigits.2 '+' List.mem_cons_self).1 (by decide)
  · rfl

theorem spellsInteger_iff {text : List Char} {value : Int} :
    SpellsInteger text value ↔ IsDigits (Numeral.splitSign text).2 ∧
      (if (Numeral.splitSign text).1 then -(Decimal.ofDigits (Numeral.splitSign text).2 : Int)
        else Decimal.ofDigits (Numeral.splitSign text).2) = value := by
  constructor
  · intro hspells
    cases hspells with
    | unsigned hdigits =>
        rw [splitSign_of_isDigits hdigits, Decimal.ofDigits_eq_placeValue]
        exact ⟨hdigits, rfl⟩
    | plus hdigits => exact ⟨hdigits, by rw [Decimal.ofDigits_eq_placeValue]; rfl⟩
    | minus hdigits => exact ⟨hdigits, by rw [Decimal.ofDigits_eq_placeValue]; rfl⟩
  · rw [Decimal.ofDigits_eq_placeValue]
    rintro ⟨hdigits, rfl⟩
    unfold Numeral.splitSign at hdigits ⊢
    split at hdigits
    · exact .minus hdigits
    · exact .plus hdigits
    · exact .unsigned hdigits

/-! ## Lines -/

/-- A line is a whole number between blank characters. -/
def GivesInteger (line : String) (value : Int) : Prop :=
  ∃ before text after, line.toList = before ++ text ++ after ∧
    (∀ char ∈ before, Text.isBlank char) ∧ (∀ char ∈ after, Text.isBlank char) ∧
    SpellsInteger text value

theorem not_isBlank_of_digit {char : Char} (hchar : '0' ≤ char ∧ char ≤ '9') :
    ¬ Text.isBlank char := by
  obtain ⟨hlow, hhigh⟩ := hchar
  rw [Char.le_def, UInt32.le_iff_toNat_le] at hlow hhigh
  have hlow : 48 ≤ char.toNat := hlow
  have hhigh : char.toNat ≤ 57 := hhigh
  simp only [Text.isBlank, Text.blankRanges, List.any_cons, List.any_nil, Bool.or_eq_true,
    Bool.and_eq_true, decide_eq_true_eq, Bool.false_eq_true, or_false]
  omega

theorem IsDigits.not_isBlank {digits : List Char} (hdigits : IsDigits digits) {char : Char}
    (hmem : char ∈ digits) : ¬ Text.isBlank char :=
  not_isBlank_of_digit (hdigits.2 char hmem)

theorem SpellsInteger.not_isBlank_ends {text : List Char} {value : Int}
    (hspells : SpellsInteger text value) :
    (∀ char, text.head? = some char → ¬ Text.isBlank char) ∧
      ∀ char, text.getLast? = some char → ¬ Text.isBlank char := by
  -- a sign is not blank, and behind it there is a digit
  have hsigned : ∀ {sign : Char} {digits : List Char}, ¬ Text.isBlank sign → IsDigits digits →
      (∀ char, (sign :: digits).head? = some char → ¬ Text.isBlank char) ∧
        ∀ char, (sign :: digits).getLast? = some char → ¬ Text.isBlank char := by
    intro sign digits hsign hdigits
    refine ⟨fun char hfirst => Option.some.inj hfirst ▸ hsign, fun char hlast => ?_⟩
    rw [List.getLast?_cons_of_ne_nil hdigits.1] at hlast
    exact hdigits.not_isBlank (List.mem_of_getLast? hlast)
  cases hspells with
  | unsigned hdigits =>
      exact ⟨fun char hfirst => hdigits.not_isBlank (List.mem_of_head? hfirst),
        fun char hlast => hdigits.not_isBlank (List.mem_of_getLast? hlast)⟩
  | plus hdigits => exact hsigned (by decide) hdigits
  | minus hdigits => exact hsigned (by decide) hdigits

/-- A number has no blank characters at its ends, so it is what trimming leaves. -/
theorem givesInteger_iff {line : String} {value : Int} :
    GivesInteger line value ↔ SpellsInteger (Text.trim line).toList value := by
  constructor
  · rintro ⟨before, text, after, hline, hbefore, hafter, hspells⟩
    obtain ⟨hfirst, hlast⟩ := hspells.not_isBlank_ends
    rwa [Text.toList_trim_eq hline hbefore hafter hfirst hlast]
  · intro hspells
    obtain ⟨before, after, hbefore, hafter, hline⟩ := Text.exists_blank_append_trim line
    exact ⟨before, _, after, hline, hbefore, hafter, hspells⟩

theorem toInt_ofInt_of_bounds {value : Int} (hlow : -2 ^ 31 ≤ value) (hhigh : value ≤ 2 ^ 31 - 1) :
    (Int64.ofInt value).toInt = value :=
  Int64.toInt_ofInt_of_le (by omega) (by omega)

theorem shiftOfLine?_eq_some_iff {line : String} {shift : Int64} :
    shiftOfLine? line = some shift ↔ GivesInteger line shift.toInt ∧
      -2 ^ 31 ≤ shift.toInt ∧ shift.toInt ≤ 2 ^ 31 - 1 := by
  have hbounds : Int32.minValue.toInt = -2 ^ 31 ∧ Int32.maxValue.toInt = 2 ^ 31 - 1 := by decide
  rw [givesInteger_iff, spellsInteger_iff, isDigits_iff]
  simp only [shiftOfLine?, Option.ite_none_right_eq_some, Option.some_inj, hbounds]
  generalize hvalue : (if (Numeral.splitSign (Text.trim line).toList).1 then
    -(Decimal.ofDigits (Numeral.splitSign (Text.trim line).toList).2 : Int)
    else Decimal.ofDigits (Numeral.splitSign (Text.trim line).toList).2) = value
  constructor
  · rintro ⟨⟨hne, hdigits, hlow, hhigh⟩, rfl⟩
    rw [toInt_ofInt_of_bounds hlow hhigh]
    exact ⟨⟨⟨hne, hdigits⟩, rfl⟩, hlow, hhigh⟩
  · rintro ⟨⟨⟨hne, hdigits⟩, rfl⟩, hlow, hhigh⟩
    exact ⟨⟨hne, hdigits, hlow, hhigh⟩, Int64.ofInt_toInt shift⟩

theorem map_toInt_shiftOfLine?_eq_some_iff {line : String} {value : Int} :
    (shiftOfLine? line).map Int64.toInt = some value ↔
      GivesInteger line value ∧ -2 ^ 31 ≤ value ∧ value ≤ 2 ^ 31 - 1 := by
  rw [Option.map_eq_some_iff]
  constructor
  · rintro ⟨shift, hshift, rfl⟩
    exact shiftOfLine?_eq_some_iff.mp hshift
  · rintro ⟨hgives, hlow, hhigh⟩
    have hvalue := toInt_ofInt_of_bounds hlow hhigh
    refine ⟨Int64.ofInt value, shiftOfLine?_eq_some_iff.mpr ?_, hvalue⟩
    rw [hvalue]
    exact ⟨hgives, hlow, hhigh⟩

/-! ## Numbers that are written -/

/-- A whole number in decimal digits, behind a minus sign if it is negative, with zeros
in front of its digits. -/
def writtenInteger (zeros : Nat) (value : Int) : String :=
  (if value < 0 then "-" else "") ++ String.ofList (List.replicate zeros '0') ++
    toString value.natAbs

theorem isDigits_written (zeros number : Nat) :
    IsDigits (List.replicate zeros '0' ++ digitsOf number) := by
  rw [isDigits_iff, List.all_eq_true]
  constructor
  · rw [digitsOf]
    simp
  · intro char hmem
    rcases List.mem_append.mp hmem with hmem | hmem
    · rw [List.eq_of_mem_replicate hmem]
      rfl
    · exact Nat.isDigit_of_mem_toDigits (by decide) (by decide) hmem

theorem placeValue_written (zeros number : Nat) :
    Decimal.placeValue (List.replicate zeros '0' ++ digitsOf number) = number := by
  rw [← Decimal.ofDigits_eq_placeValue, Decimal.ofDigits_replicate_append,
    Decimal.ofDigits_digitsOf]

theorem spellsInteger_written (zeros : Nat) (value : Int) :
    SpellsInteger (writtenInteger zeros value).toList value := by
  have hdigits := isDigits_written zeros value.natAbs
  have hvalue := placeValue_written zeros value.natAbs
  by_cases hnegative : value < 0
  · have hspells := SpellsInteger.minus hdigits
    rw [hvalue, show -(value.natAbs : Int) = value by omega] at hspells
    simpa [writtenInteger, hnegative, digitsOf] using hspells
  · have hspells := SpellsInteger.unsigned hdigits
    rw [hvalue, show (value.natAbs : Int) = value by omega] at hspells
    simpa [writtenInteger, hnegative, digitsOf] using hspells

/-- **A line gives a shift when it is a whole number of 32 bits.**  The shift is that
number and no other, and a line that is no such number gives none.  Every number of 32
bits is given by its decimal text, with any zeros in front of the digits and any blank
characters around. -/
theorem shiftOfLine?_spelled :
    (∀ line value, (shiftOfLine? line).map Int64.toInt = some value ↔
      GivesInteger line value ∧ -2 ^ 31 ≤ value ∧ value ≤ 2 ^ 31 - 1) ∧
    (∀ line, shiftOfLine? line = none ↔
      ∀ value, GivesInteger line value → ¬ (-2 ^ 31 ≤ value ∧ value ≤ 2 ^ 31 - 1)) ∧
    ∀ (value : Int) (zeros : Nat) (before after : String),
      -2 ^ 31 ≤ value → value ≤ 2 ^ 31 - 1 → Text.isBlankText before → Text.isBlankText after →
      shiftOfLine? (before ++ writtenInteger zeros value ++ after) = some (Int64.ofInt value) := by
  refine ⟨fun line value => map_toInt_shiftOfLine?_eq_some_iff, fun line => ?_,
    fun value zeros before after hlow hhigh hbefore hafter => ?_⟩
  · rw [← Option.map_eq_none_iff (f := Int64.toInt), Option.eq_none_iff_forall_ne_some]
    simp only [ne_eq, map_toInt_shiftOfLine?_eq_some_iff, not_and]
  · have hvalue := toInt_ofInt_of_bounds hlow hhigh
    rw [shiftOfLine?_eq_some_iff, hvalue]
    refine ⟨⟨before.toList, _, after.toList, ?_, List.all_eq_true.mp hbefore,
      List.all_eq_true.mp hafter, spellsInteger_written zeros value⟩, hlow, hhigh⟩
    rw [String.toList_append, String.toList_append]

/-- The lowest shift with zeros in front, between blank characters.  One less is none. -/
theorem shiftOfLine?_spelled_lowest :
    Text.isBlankText "\u3000\t" ∧ Text.isBlankText "\r\n" ∧
      shiftOfLine? "\u3000\t-0002147483648\r\n" = some (-2147483648) ∧
      shiftOfLine? "-2147483649" = none := by
  have hbefore : Text.isBlankText "\u3000\t" := by decide
  have hafter : Text.isBlankText "\r\n" := by decide
  have hwritten : writtenInteger 3 (-2147483648) = "-0002147483648" := by decide +kernel
  obtain ⟨-, -, hread⟩ := shiftOfLine?_spelled
  have hshift := hread (-2147483648) 3 "\u3000\t" "\r\n" (by decide) (by decide) hbefore hafter
  rw [hwritten] at hshift
  exact ⟨hbefore, hafter, hshift, by decide +kernel⟩

end Session

end CipherCalc
