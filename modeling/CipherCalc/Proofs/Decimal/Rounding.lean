import CipherCalc.Decimal.Shortest
import Mathlib.Algebra.Order.Field.Rat

/-!
# Rounding a decimal to a magnitude

The magnitude nearest to a ratio depends on the ratio alone (`nearest_congr`), so
it depends on the number that a decimal stands for and not on how many zeros are
written (`round_congr`); the two shortcuts of `Decimal.round` agree with the ratio
(`round_eq_roundExact`).

A magnitude is nearest to itself: its units have as many binary digits as its code
counts doublings (`log2_units`), so it is on the grid it is rounded to.  The decimal
that a magnitude is written as was asked whether it reads back, or is its exact
expansion, and reads back either way (`round_shortest`).
-/

namespace CipherCalc

namespace Binary64

/-- The number of units in one. -/
def unitsInOne : Nat := Nat.pow 2 1074

theorem unitsInOne_pos : 0 < unitsInOne := by
  decide +kernel

/-! ## Ratios -/

theorem roundHalfEven_mul_mul {scale : Nat} (hscale : 0 < scale) (numerator denominator : Nat) :
    roundHalfEven (numerator * scale) (denominator * scale) =
      roundHalfEven numerator denominator := by
  have htwice : 2 * (numerator % denominator * scale) = 2 * (numerator % denominator) * scale :=
    (Nat.mul_assoc _ _ _).symm
  simp only [roundHalfEven, Nat.mul_div_mul_right _ _ hscale, Nat.mul_mod_mul_right, htwice,
    Nat.mul_lt_mul_right hscale, Nat.mul_left_inj hscale.ne']

theorem roundHalfEven_mul_self (quotient : Nat) {denominator : Nat} (hpos : 0 < denominator) :
    roundHalfEven (quotient * denominator) denominator = quotient := by
  simp only [roundHalfEven, Nat.mul_div_cancel _ hpos, Nat.mul_mod_left, Nat.mul_zero, hpos,
    true_or, if_true]

theorem nearest_eq (numerator denominator : Nat) :
    nearest numerator denominator =
      let doublings := Nat.log2 (numerator * unitsInOne / denominator) - 52
      min (doublings * binade +
        roundHalfEven (numerator * unitsInOne) (denominator * Nat.pow 2 doublings)) infinity := by
  unfold nearest unitsInOne
  rfl

theorem nearest_mul_mul {scale : Nat} (hscale : 0 < scale) (numerator denominator : Nat) :
    nearest (numerator * scale) (denominator * scale) = nearest numerator denominator := by
  simp only [nearest_eq, Nat.mul_right_comm numerator scale, Nat.mul_div_mul_right _ _ hscale,
    Nat.mul_right_comm denominator scale, roundHalfEven_mul_mul hscale]

/-- The nearest magnitude depends on the ratio alone. -/
theorem nearest_congr {numerator other denominator divisor : Nat} (hpos : 0 < denominator)
    (hdivisor : 0 < divisor) (hratio : numerator * divisor = other * denominator) :
    nearest numerator denominator = nearest other divisor :=
  calc nearest numerator denominator
      = nearest (numerator * divisor) (denominator * divisor) :=
        (nearest_mul_mul hdivisor _ _).symm
    _ = nearest (other * denominator) (divisor * denominator) := by
        rw [hratio, Nat.mul_comm denominator]
    _ = nearest other divisor := nearest_mul_mul hpos _ _

/-- Less than half of the smallest magnitude is nothing. -/
theorem nearest_eq_zero {numerator denominator : Nat}
    (hsmall : 2 * (numerator * unitsInOne) < denominator) : nearest numerator denominator = 0 := by
  have hlt : numerator * unitsInOne < denominator := by omega
  have hlog : Nat.log2 0 - 52 = 0 := by decide
  have hone : Nat.pow 2 0 = 1 := rfl
  simp only [nearest_eq, Nat.div_eq_of_lt hlt, hlog, hone, Nat.zero_mul, Nat.mul_one,
    roundHalfEven, Nat.mod_eq_of_lt hlt, hsmall, true_or, if_true, Nat.zero_add, Nat.zero_min]

/-- A ratio that asks for `2047` doublings is too large. -/
theorem nearest_eq_infinity {numerator denominator bits : Nat} (hbits : 2099 ≤ bits)
    (hlarge : 2 ^ bits ≤ numerator * unitsInOne / denominator) :
    nearest numerator denominator = infinity := by
  have hne : numerator * unitsInOne / denominator ≠ 0 :=
    (Nat.lt_of_lt_of_le (Nat.two_pow_pos bits) hlarge).ne'
  have hlog : bits ≤ Nat.log2 (numerator * unitsInOne / denominator) := (Nat.le_log2 hne).mpr hlarge
  have hdoublings : 2047 ≤ Nat.log2 (numerator * unitsInOne / denominator) - 52 := by omega
  have hcode := Nat.mul_le_mul_right binade hdoublings
  rw [nearest_eq]
  exact Nat.min_eq_right (Nat.le_trans hcode (Nat.le_add_right _ _))

/-! ## Magnitudes -/

theorem doublings_of_lt {code : Nat} (hcode : code < binade) : doublings code = 0 := by
  rw [doublings, Nat.div_eq_of_lt hcode]

theorem doublings_mul_le (code : Nat) : doublings code * binade ≤ code :=
  Nat.le_trans (Nat.mul_le_mul_right _ (Nat.sub_le _ _)) (Nat.div_mul_le_self _ _)

/-- What a code counts on top of its doublings has `53` binary digits. -/
theorem significand_bounds {code : Nat} (hcode : binade ≤ code) :
    binade ≤ code - doublings code * binade ∧ code - doublings code * binade < 2 * binade := by
  have hpos : 0 < binade := by decide
  have hquotient : 1 ≤ code / binade := (Nat.le_div_iff_mul_le hpos).mpr (by omega)
  have hdoublings : doublings code + 1 = code / binade := Nat.sub_add_cancel hquotient
  have hdecompose := Nat.div_add_mod code binade
  have hrest := Nat.mod_lt code hpos
  rw [← hdoublings, Nat.mul_comm, Nat.add_mul, Nat.one_mul] at hdecompose
  omega

theorem log2_mul_pow {significand : Nat} (hlow : 2 ^ 52 ≤ significand)
    (hhigh : significand < 2 ^ 53) (doublings : Nat) :
    Nat.log2 (significand * 2 ^ doublings) = 52 + doublings := by
  have hspacing : 0 < 2 ^ doublings := Nat.two_pow_pos doublings
  have hatLeast : 2 ^ (52 + doublings) ≤ significand * 2 ^ doublings := by
    rw [Nat.pow_add]
    exact Nat.mul_le_mul_right _ hlow
  have hbelow : significand * 2 ^ doublings < 2 ^ (52 + doublings + 1) := by
    rw [Nat.add_right_comm, Nat.pow_add]
    exact Nat.mul_lt_mul_of_pos_right hhigh hspacing
  have hne : significand * 2 ^ doublings ≠ 0 :=
    (Nat.lt_of_lt_of_le (Nat.two_pow_pos _) hatLeast).ne'
  exact (Nat.log2_eq_iff hne).mpr ⟨hatLeast, hbelow⟩

/-- The binary digits of a magnitude tell how far the grid is doubled. -/
theorem log2_units (code : Nat) : Nat.log2 (units code) - 52 = doublings code := by
  have hbinade : binade = 2 ^ 52 := rfl
  rcases Nat.lt_or_ge code binade with hsmall | hlarge
  · have hunits : units code = code := by
      rw [units, doublings_of_lt hsmall, Nat.zero_mul, Nat.sub_zero]
      exact Nat.mul_one code
    rw [hunits, doublings_of_lt hsmall]
    rcases Nat.eq_zero_or_pos code with rfl | hpos
    · decide
    · have hlog := (Nat.log2_lt hpos.ne').mpr (hbinade ▸ hsmall)
      omega
  · obtain ⟨hlow, hhigh⟩ := significand_bounds hlarge
    have hlog : Nat.log2 (units code) = 52 + doublings code :=
      log2_mul_pow (by omega) (by omega) (doublings code)
    rw [hlog, Nat.add_sub_cancel_left]

/-- A magnitude is nearest to itself. -/
theorem nearest_units {code : Nat} (hcode : code ≤ infinity) :
    nearest (units code) unitsInOne = code := by
  have hspacing : 0 < unitsInOne * Nat.pow 2 (doublings code) :=
    Nat.mul_pos unitsInOne_pos (Nat.two_pow_pos _)
  have hsignificand : units code * unitsInOne =
      (code - doublings code * binade) * (unitsInOne * Nat.pow 2 (doublings code)) := by
    rw [units, Nat.mul_assoc, Nat.mul_comm unitsInOne]
  simp only [nearest_eq, Nat.mul_div_cancel _ unitsInOne_pos, log2_units]
  rw [hsignificand, roundHalfEven_mul_self _ hspacing, Nat.add_sub_cancel' (doublings_mul_le code),
    Nat.min_eq_left hcode]

end Binary64

namespace Decimal

open Binary64

/-! ## Decimals -/

/-- The number that a decimal stands for. -/
def toRat (decimal : Decimal) : ℚ :=
  decimal.digits * 10 ^ decimal.exponent

theorem toRat_eq_div (decimal : Decimal) :
    decimal.toRat = ((decimal.digits * Nat.pow 10 decimal.exponent.toNat : Nat) : ℚ) /
      ((Nat.pow 10 (-decimal.exponent).toNat : Nat) : ℚ) := by
  have hten : (10 : ℚ) ≠ 0 := by decide
  have hexponent : decimal.exponent = decimal.exponent.toNat - (-decimal.exponent).toNat := by
    omega
  have hpower : (10 : ℚ) ^ decimal.exponent =
      10 ^ decimal.exponent.toNat / 10 ^ (-decimal.exponent).toNat := by
    conv_lhs => rw [hexponent, zpow_sub₀ hten, zpow_natCast, zpow_natCast]
  rw [toRat, hpower, ← mul_div_assoc, Nat.pow_eq, Nat.pow_eq]
  push_cast
  rfl

/-- Whether two decimals stand for the same number, in natural numbers. -/
theorem toRat_eq_iff {first second : Decimal} :
    first.toRat = second.toRat ↔
      first.digits * Nat.pow 10 first.exponent.toNat * Nat.pow 10 (-second.exponent).toNat =
        second.digits * Nat.pow 10 second.exponent.toNat * Nat.pow 10 (-first.exponent).toNat := by
  have hpos (exponent : Nat) : ((Nat.pow 10 exponent : Nat) : ℚ) ≠ 0 := by
    exact_mod_cast (Nat.pow_pos (by decide)).ne'
  rw [toRat_eq_div, toRat_eq_div, div_eq_div_iff (hpos _) (hpos _)]
  exact_mod_cast Iff.rfl

/-- Decimals that stand for the same number are rounded alike. -/
theorem roundExact_congr {first second : Decimal} (hsame : first.toRat = second.toRat) :
    first.roundExact = second.roundExact :=
  nearest_congr (Nat.pow_pos (by decide)) (Nat.pow_pos (by decide)) (toRat_eq_iff.mp hsame)

theorem roundExact_eq_zero {decimal : Decimal}
    (hsmall : decimal.digits.log2 + decimal.exponent < -324) : decimal.roundExact = 0 := by
  have hdigits : decimal.digits < 10 ^ (decimal.digits.log2 + 1) :=
    Nat.lt_of_lt_of_le Nat.lt_log2_self (Nat.pow_le_pow_left (by decide) _)
  -- a power whose exponent is a variable is not computed
  obtain ⟨limit, hlimit, hunits⟩ : ∃ limit, limit = 324 ∧ 2 * unitsInOne ≤ 10 ^ limit :=
    ⟨324, rfl, by decide +kernel⟩
  have hexponent : decimal.exponent.toNat = 0 := by omega
  have hplaces : limit + (decimal.digits.log2 + 1) ≤ (-decimal.exponent).toNat := by omega
  have hone : Nat.pow 10 0 = 1 := rfl
  refine nearest_eq_zero ?_
  rw [hexponent, hone, Nat.mul_one]
  calc 2 * (decimal.digits * unitsInOne)
      = 2 * unitsInOne * decimal.digits := by rw [Nat.mul_comm decimal.digits, Nat.mul_assoc]
    _ ≤ 10 ^ limit * decimal.digits := Nat.mul_le_mul_right _ hunits
    _ < 10 ^ limit * 10 ^ (decimal.digits.log2 + 1) :=
        Nat.mul_lt_mul_of_pos_left hdigits (Nat.pow_pos (by decide))
    _ = 10 ^ (limit + (decimal.digits.log2 + 1)) := (Nat.pow_add _ _ _).symm
    _ ≤ 10 ^ (-decimal.exponent).toNat := Nat.pow_le_pow_right (by decide) hplaces

theorem roundExact_eq_infinity {decimal : Decimal} (hdigits : decimal.digits ≠ 0)
    (hlarge : 309 ≤ decimal.exponent) : decimal.roundExact = infinity := by
  obtain ⟨limit, bits, hlimit, hbits, hunits⟩ :
      ∃ limit bits, limit = 309 ∧ 2099 ≤ bits ∧ 2 ^ bits ≤ 10 ^ limit * unitsInOne :=
    ⟨309, 2099, rfl, Nat.le_refl _, by decide +kernel⟩
  have hexponent : limit ≤ decimal.exponent.toNat := by omega
  have hplaces : (-decimal.exponent).toNat = 0 := by omega
  have hone : Nat.pow 10 0 = 1 := rfl
  refine nearest_eq_infinity hbits ?_
  rw [hplaces, hone, Nat.div_one]
  calc 2 ^ bits ≤ 10 ^ limit * unitsInOne := hunits
    _ ≤ 10 ^ decimal.exponent.toNat * unitsInOne :=
        Nat.mul_le_mul_right _ (Nat.pow_le_pow_right (by decide) hexponent)
    _ ≤ decimal.digits * Nat.pow 10 decimal.exponent.toNat * unitsInOne :=
        Nat.mul_le_mul_right _ (Nat.le_mul_of_pos_left _ (Nat.pos_of_ne_zero hdigits))

/-- Neither shortcut changes what a decimal is rounded to. -/
theorem round_eq_roundExact (decimal : Decimal) : decimal.round = decimal.roundExact := by
  unfold round
  split
  · next hnothing =>
      rcases hnothing with hdigits | hsmall
      · have hpos : 2 * (0 * unitsInOne) < Nat.pow 10 (-decimal.exponent).toNat := by
          rw [Nat.zero_mul]
          exact Nat.pow_pos (by decide)
        rw [roundExact, hdigits, Nat.zero_mul, nearest_eq_zero hpos]
      · exact (roundExact_eq_zero hsmall).symm
  · next hsomething =>
      split
      · next hlarge => exact (roundExact_eq_infinity (not_or.mp hsomething).1 hlarge).symm
      · rfl

theorem round_congr {first second : Decimal} (hsame : first.toRat = second.toRat) :
    first.round = second.round := by
  rw [round_eq_roundExact, round_eq_roundExact, roundExact_congr hsame]

/-! ## Decimals that read back -/

theorem round_exact {code : Nat} (hcode : code ≤ infinity) : (exact code).round = code := by
  obtain ⟨scale, hscale, hten, hexact⟩ : ∃ scale, 0 < scale ∧
      Nat.pow 10 1074 = unitsInOne * scale ∧ exact code = ⟨units code * scale, -1074⟩ :=
    ⟨Nat.pow 5 1074, by decide +kernel, by decide +kernel, rfl⟩
  have hplaces : (exact code).roundExact = nearest (units code * scale * 1) (Nat.pow 10 1074) := by
    rw [hexact]
    rfl
  rw [round_eq_roundExact, hplaces, hten, Nat.mul_one, nearest_mul_mul hscale, nearest_units hcode]

/-- The decimal that a magnitude is written as reads back. -/
theorem round_shortest {code : Nat} (hcode : code ≤ infinity) : (shortest code).round = code := by
  unfold shortest
  simp only
  cases hfound : (List.range' 1 17).findSome? _ with
  | none => exact round_exact hcode
  | some candidate =>
      obtain ⟨count, -, hcandidate⟩ := List.exists_of_findSome?_eq_some hfound
      simpa using List.find?_some hcandidate

end Decimal

end CipherCalc
