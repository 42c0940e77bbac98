import CipherCalc.Decimal.Positional
import CipherCalc.Proofs.Decimal.Literal
import CipherCalc.Proofs.Decimal.Rounding
import CipherCalc.Proofs.Decimal.Word
import CipherCalc.Proofs.Text.Trim

/-!
# Reading a number that was written

A decimal is written with its digits and a point among them, zeros being added in
front and left out at the end.  `Spells` is what remains of that for a reader:
there are digits before the point, nothing but digits besides, and as a decimal
they stand for the number that was written (`exists_spells`).

Whatever spells a decimal is a literal of an expression (`Spells.isLiteral`) and a
numeral whose magnitude is the same number (`Spells.ofString?_eq`), written with
other digits perhaps; since rounding looks at the number alone, a result is read as
the number it was (`read?_resultText`).
-/

namespace CipherCalc

open CipherCalc.Expr

namespace Decimal

/-! ## Digits -/

theorem ofDigits_digitsOf (number : Nat) : ofDigits (digitsOf number) = number :=
  Nat.ofDigitChars_ten_toDigits

theorem ofDigits_replicate_append (zeros : Nat) (digits : List Char) :
    ofDigits (List.replicate zeros '0' ++ digits) = ofDigits digits := by
  show Nat.ofDigitChars 10 (List.replicate zeros '0' ++ digits) 0 = Nat.ofDigitChars 10 digits 0
  rw [Nat.ofDigitChars_append, Nat.ofDigitChars_replicate_zero, Nat.mul_zero]

theorem ofDigits_append_replicate (digits : List Char) (zeros : Nat) :
    ofDigits (digits ++ List.replicate zeros '0') = Nat.pow 10 zeros * ofDigits digits := by
  show Nat.ofDigitChars 10 (digits ++ List.replicate zeros '0') 0 = _
  rw [Nat.ofDigitChars_append, Nat.ofDigitChars_replicate_zero]
  rfl

theorem exists_eq_append_replicate (digits : List Char) :
    ∃ zeros, digits = Text.dropEndWhile (· == '0') digits ++ List.replicate zeros '0' := by
  have hzeros : ∀ char ∈ digits.reverse.takeWhile (· == '0'), char = '0' := fun char hmem => by
    simpa using List.mem_takeWhile_imp hmem
  have hreplicate := List.eq_replicate_of_mem hzeros
  refine ⟨(digits.reverse.takeWhile (· == '0')).length, ?_⟩
  rw [← List.reverse_replicate, ← hreplicate, Text.dropEndWhile, ← List.reverse_append,
    List.takeWhile_append_dropWhile, List.reverse_reverse]

/-! ## Digits with a point -/

/-- Digits before a point and after it; the point is there only if digits follow. -/
def pointed (whole fraction : List Char) : List Char :=
  if fraction = [] then whole else whole ++ '.' :: fraction

/-- A text after an optional minus sign. -/
def signed (negative : Bool) (text : List Char) : List Char :=
  if negative then '-' :: text else text

/-- Digits, some of them before the point, that spell a decimal. -/
structure Spells (whole fraction : List Char) (decimal : Decimal) : Prop where
  whole_ne_nil : whole ≠ []
  isDigit_whole : ∀ char ∈ whole, char.isDigit = true
  isDigit_fraction : ∀ char ∈ fraction, char.isDigit = true
  toRat_eq : toRat ⟨ofDigits (whole ++ fraction), -fraction.length⟩ = decimal.toRat

/-! ## What is written -/

/-- The digits of a decimal without a point, at least one of them before the
places after it. -/
def padded (decimal : Decimal) : List Char :=
  let digits := digitsOf decimal.digits ++ List.replicate decimal.exponent.toNat '0'
  List.replicate ((-decimal.exponent).toNat + 1 - digits.length) '0' ++ digits

theorem positional_eq (decimal : Decimal) :
    decimal.positional =
      pointed (decimal.padded.take (decimal.padded.length - (-decimal.exponent).toNat))
        (Text.dropEndWhile (· == '0')
          (decimal.padded.drop (decimal.padded.length - (-decimal.exponent).toNat))) :=
  rfl

theorem isDigit_of_mem_padded {decimal : Decimal} :
    ∀ char ∈ decimal.padded, char.isDigit = true := by
  have hzero : ∀ {count : Nat}, ∀ char ∈ List.replicate count '0', char.isDigit = true := by
    intro count char hmem
    rw [List.eq_of_mem_replicate hmem]
    rfl
  intro char hmem
  rw [padded, List.mem_append, List.mem_append] at hmem
  rcases hmem with hmem | hmem | hmem
  · exact hzero char hmem
  · exact Nat.isDigit_of_mem_toDigits (by decide) (by decide) hmem
  · exact hzero char hmem

theorem lt_length_padded (decimal : Decimal) :
    (-decimal.exponent).toNat < decimal.padded.length := by
  rw [padded, List.length_append, List.length_replicate]
  omega

theorem ofDigits_padded (decimal : Decimal) :
    ofDigits decimal.padded = decimal.digits * Nat.pow 10 decimal.exponent.toNat := by
  rw [padded, ofDigits_replicate_append, ofDigits_append_replicate, ofDigits_digitsOf, Nat.mul_comm]

/-- The final zeros of a fraction can be left out. -/
theorem toRat_dropEndWhile {decimal : Decimal} {whole places : List Char}
    (hpadded : decimal.padded = whole ++ places)
    (hplaces : places.length = (-decimal.exponent).toNat) :
    toRat ⟨ofDigits (whole ++ Text.dropEndWhile (· == '0') places),
      -(Text.dropEndWhile (· == '0') places).length⟩ = decimal.toRat := by
  obtain ⟨zeros, hzeros⟩ := exists_eq_append_replicate places
  generalize Text.dropEndWhile (· == '0') places = fraction at hzeros ⊢
  have hvalue : Nat.pow 10 zeros * ofDigits (whole ++ fraction) =
      decimal.digits * Nat.pow 10 decimal.exponent.toNat := by
    rw [← ofDigits_padded, hpadded, hzeros, ← List.append_assoc, ofDigits_append_replicate]
  have hlength : (-decimal.exponent).toNat = fraction.length + zeros := by
    rw [← hplaces, hzeros, List.length_append, List.length_replicate]
  have hnone : (-(fraction.length : Int)).toNat = 0 := by omega
  have hsome : (-(-(fraction.length : Int))).toNat = fraction.length := by omega
  rw [toRat_eq_iff, ← hvalue, hlength, hnone, hsome]
  calc ofDigits (whole ++ fraction) * 1 * 10 ^ (fraction.length + zeros)
      = ofDigits (whole ++ fraction) * (10 ^ fraction.length * 10 ^ zeros) := by
        rw [Nat.mul_one, Nat.pow_add]
    _ = 10 ^ zeros * ofDigits (whole ++ fraction) * 10 ^ fraction.length := by
        rw [Nat.mul_comm (10 ^ zeros), Nat.mul_assoc, Nat.mul_comm (10 ^ zeros)]

/-- What is written spells the decimal. -/
theorem exists_spells (decimal : Decimal) :
    ∃ whole fraction, Spells whole fraction decimal ∧
      decimal.positional = pointed whole fraction := by
  have hlength := lt_length_padded decimal
  refine ⟨_, _, ⟨?_, ?_, ?_, ?_⟩, positional_eq decimal⟩
  · exact List.ne_nil_of_length_pos (by rw [List.length_take]; omega)
  · exact fun char hmem => isDigit_of_mem_padded char (List.mem_of_mem_take hmem)
  · intro char hmem
    rw [Text.dropEndWhile_eq_rdropWhile] at hmem
    exact isDigit_of_mem_padded char
      (List.mem_of_mem_drop ((List.rdropWhile_prefix _ _).mem hmem))
  · refine toRat_dropEndWhile (List.take_append_drop _ _).symm ?_
    rw [List.length_drop]
    omega

/-! ## What is read -/

theorem toLower_ne_of_isDigit_or_point {char : Char} (hchar : char.isDigit = true ∨ char = '.') :
    char.toLower ≠ 'n' := by
  rcases hchar with hdigit | rfl
  · have hupper : ¬ (char.val ≥ 'A'.val ∧ char.val ≤ 'Z'.val) := by
      grind [Char.isDigit]
    rw [Char.toLower, dif_neg hupper]
    rintro rfl
    exact absurd hdigit (by decide)
  · decide

section

variable {whole fraction : List Char} {decimal : Decimal} (hspells : Spells whole fraction decimal)

include hspells

theorem Spells.splitDigits_eq :
    Numeral.splitDigits (pointed whole fraction) = (whole, fraction, []) := by
  have hfraction := List.takeWhile_eq_self_iff.mpr hspells.isDigit_fraction
  have hrest := List.dropWhile_eq_nil_iff.mpr hspells.isDigit_fraction
  have hwhole := List.takeWhile_eq_self_iff.mpr hspells.isDigit_whole
  have hafter := List.dropWhile_eq_nil_iff.mpr hspells.isDigit_whole
  rw [pointed]
  split
  · next hnone => simp [Numeral.splitDigits, hwhole, hafter, hnone]
  · next hsome =>
      have hpoint : Char.isDigit '.' = false := rfl
      have htake : (whole ++ '.' :: fraction).takeWhile Char.isDigit = whole := by
        simp [List.takeWhile_append, hwhole, hpoint]
      have hdrop : (whole ++ '.' :: fraction).dropWhile Char.isDigit = '.' :: fraction := by
        simp [List.dropWhile_append, hafter, hpoint]
      simp only [Numeral.splitDigits, htake, hdrop, hfraction, hrest]

theorem Spells.decimal?_eq :
    Numeral.decimal? (pointed whole fraction) =
      some ⟨ofDigits (whole ++ fraction), -fraction.length⟩ := by
  simp [Numeral.decimal?, hspells.splitDigits_eq, hspells.whole_ne_nil, Numeral.exponent?]

theorem Spells.isDigit_or_point :
    ∀ char ∈ pointed whole fraction, char.isDigit = true ∨ char = '.' := by
  intro char hmem
  rw [pointed] at hmem
  split at hmem
  · exact Or.inl (hspells.isDigit_whole char hmem)
  · rcases List.mem_append.mp hmem with hmem | hmem
    · exact Or.inl (hspells.isDigit_whole char hmem)
    · rcases List.mem_cons.mp hmem with hpoint | hmem
      · exact Or.inr hpoint
      · exact Or.inl (hspells.isDigit_fraction char hmem)

/-- What is spelled starts with a digit. -/
theorem Spells.exists_cons :
    ∃ digit rest, pointed whole fraction = digit :: rest ∧ digit.isDigit = true := by
  obtain ⟨digit, rest, rfl⟩ := List.exists_cons_of_ne_nil hspells.whole_ne_nil
  have hdigit := hspells.isDigit_whole digit (by simp)
  rw [pointed]
  split
  · exact ⟨digit, rest, rfl, hdigit⟩
  · exact ⟨digit, _, rfl, hdigit⟩

theorem Spells.count_point_le : (pointed whole fraction).count '.' ≤ 1 := by
  have hnone : ∀ digits : List Char, (∀ char ∈ digits, char.isDigit = true) →
      digits.count '.' = 0 := fun digits hdigits =>
    List.count_eq_zero.mpr fun hmem => absurd (hdigits '.' hmem) (by decide)
  have hwhole := hnone whole hspells.isDigit_whole
  have hfraction := hnone fraction hspells.isDigit_fraction
  rw [pointed]
  split
  · omega
  · rw [List.count_append, List.count_cons_self]
    omega

theorem Spells.splitSign_eq (negative : Bool) :
    Numeral.splitSign (signed negative (pointed whole fraction)) =
      (negative, pointed whole fraction) := by
  obtain ⟨digit, rest, hcons, hdigit⟩ := hspells.exists_cons
  cases negative with
  | true => rfl
  | false =>
      rw [signed, if_neg Bool.false_ne_true, hcons]
      unfold Numeral.splitSign
      split
      · next more hminus =>
          obtain rfl := (List.cons.inj hminus).1
          exact absurd hdigit (by decide)
      · next more hplus =>
          obtain rfl := (List.cons.inj hplus).1
          exact absurd hdigit (by decide)
      · rfl

theorem Spells.isLiteral (negative : Bool) :
    IsLiteral (signed negative (pointed whole fraction)) := by
  obtain ⟨digit, rest, hcons, hdigit⟩ := hspells.exists_cons
  have hunsigned : unsigned (signed negative (pointed whole fraction)) =
      pointed whole fraction := by
    cases negative with
    | true => rfl
    | false =>
        refine unsigned_eq_self fun more hminus => ?_
        obtain rfl : digit = '-' := (List.cons.inj (hcons.symm.trans hminus)).1
        exact absurd hdigit (by decide)
  rw [IsLiteral, hunsigned]
  exact ⟨hspells.isDigit_or_point, hspells.count_point_le,
    digit, hcons ▸ List.mem_cons_self, hdigit⟩

/-- What is spelled is none of the words, since it has no letter. -/
theorem Spells.ofString?_eq (negative : Bool) :
    Numeral.ofString? (String.ofList (signed negative (pointed whole fraction))) =
      some (.finite negative ⟨ofDigits (whole ++ fraction), -fraction.length⟩) := by
  have hletter : 'n' ∉ (pointed whole fraction).map Char.toLower := by
    intro hmem
    obtain ⟨char, hchar, hlower⟩ := List.mem_map.mp hmem
    exact toLower_ne_of_isDigit_or_point (hspells.isDigit_or_point char hchar) hlower
  have hword : ∀ word : String, 'n' ∈ word.toList →
      (pointed whole fraction).map Char.toLower ≠ word.toList := fun word hn hword =>
    hletter (hword ▸ hn)
  simp only [Numeral.ofString?, String.toList_ofList, hspells.splitSign_eq]
  rw [if_neg (not_or.mpr ⟨hword "inf" (by decide), hword "infinity" (by decide)⟩),
    if_neg (hword "nan" (by decide)), hspells.decimal?_eq, Option.map_some]

end

end Decimal

/-! ## Results -/

/-- A result starts with a digit, with a sign or with a word. -/
theorem exists_resultText_eq_cons (value : Float) :
    ∃ first rest, (resultText value).toList = first :: rest ∧
      (first.isDigit = true ∨ first ∈ ['-', 'i', 'N']) := by
  unfold resultText
  simp only
  split
  · exact ⟨'0', [], rfl, .inl rfl⟩
  · split
    · exact ⟨'N', "aN".toList, rfl, .inr (by decide)⟩
    · rw [String.toList_ofList]
      split
      · exact ⟨'-', _, rfl, .inr (by decide)⟩
      · split
        · exact ⟨'i', "nf".toList, rfl, .inr (by decide)⟩
        · obtain ⟨whole, fraction, hspells, hpositional⟩ :=
            Decimal.exists_spells (Decimal.shortest (Binary64.code value))
          obtain ⟨digit, rest, hcons, hdigit⟩ := hspells.exists_cons
          exact ⟨digit, rest, hpositional.trans hcons, .inl hdigit⟩

section

variable {value : Float}

theorem resultText_eq_zero (hzero : Binary64.code value = 0) : resultText value = "0" := by
  simp only [resultText, hzero, if_true]

variable (hfinite : value.isFinite = true) (hnonzero : Binary64.code value ≠ 0)

include hfinite hnonzero

theorem exists_resultText_eq :
    ∃ whole fraction, Decimal.Spells whole fraction (Decimal.shortest (Binary64.code value)) ∧
      resultText value = String.ofList
        (Decimal.signed (Binary64.isNegative value) (Decimal.pointed whole fraction)) := by
  have hcode := Binary64.code_lt_infinity hfinite
  obtain ⟨whole, fraction, hspells, hpositional⟩ :=
    Decimal.exists_spells (Decimal.shortest (Binary64.code value))
  refine ⟨whole, fraction, hspells, ?_⟩
  simp only [resultText, hnonzero, if_false, Nat.lt_asymm hcode, Nat.ne_of_lt hcode, hpositional]
  rfl

theorem isLiteral_resultText : IsLiteral (resultText value).toList := by
  obtain ⟨whole, fraction, hspells, htext⟩ := exists_resultText_eq hfinite hnonzero
  rw [htext, String.toList_ofList]
  exact hspells.isLiteral _

/-- A result is read as the number that was written. -/
theorem read?_resultText : (Arithmetic.read? (resultText value) : Option Float) = some value := by
  obtain ⟨whole, fraction, hspells, htext⟩ := exists_resultText_eq hfinite hnonzero
  have hround := Decimal.round_shortest (Nat.le_of_lt (Binary64.code_lt_infinity hfinite))
  show (Numeral.ofString? (resultText value)).map Numeral.toFloat = some value
  rw [htext, hspells.ofString?_eq, Option.map_some, Numeral.toFloat,
    Decimal.round_congr hspells.toRat_eq, hround, Binary64.toFloat_code]

end

end CipherCalc
