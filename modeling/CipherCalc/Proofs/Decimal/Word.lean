import CipherCalc.Decimal.Binary64
import Mathlib

/-!
# A number and its word

A number has the bits of its word, which are a sign and a code.  So the number that
is put together from its own sign and code is the number itself (`toFloat_code`),
whether it is normal, subnormal, zero or infinite.  A number is finite unless the
exponent of its word is all ones, which are the codes from infinity on
(`code_lt_infinity`), and the code of zero belongs to two words, one of each sign.

The library is imported as a whole because what it knows of words
(`Float.ofBits_toBits`) is in no part of it that can be imported alone.
-/

namespace CipherCalc.Binary64

open Float.Model Float.Model.UnpackedFloat

theorem toNat_toBits (value : Float) :
    value.toBits.toNat = (if isNegative value then Nat.pow 2 63 else 0) + code value := by
  have hlt := value.toBits.toNat_lt
  have hpow : Nat.pow 2 63 = 9223372036854775808 := by decide
  simp only [isNegative, code, hpow, decide_eq_true_eq]
  split <;> omega

theorem toFloat_code (value : Float) : toFloat (isNegative value) (code value) = value := by
  rw [toFloat, ← toNat_toBits, UInt64.ofNat_toNat, Float.ofBits_toBits]

/-- Zero has two words. -/
theorem toBits_of_code_eq_zero {value : Float} (hzero : code value = 0) :
    value.toBits = 0 ∨ value.toBits = 0x8000000000000000 := by
  have hword := toNat_toBits value
  rw [hzero] at hword
  split at hword
  · exact Or.inr (UInt64.toNat_inj.mp hword)
  · exact Or.inl (UInt64.toNat_inj.mp hword)

/-! ## Finite numbers -/

theorem toNat_unpackExponent (word : BitVec Format.binary64.numBits) :
    (unpackExponent word).toNat = word.toNat / 2 ^ 52 % 2 ^ 11 := by
  rw [unpackExponent_def, BitVec.extractLsb'_toNat, Nat.shiftRight_eq_div_pow]

theorem toNat_unpackExponent_lt {word : BitVec Format.binary64.numBits}
    (hfinite : (UnpackedFloat.unpack .binary64 word).isFinite = true) :
    (unpackExponent word).toNat < 2047 := by
  have hlt : (unpackExponent word).toNat < 2048 := (unpackExponent word).isLt
  refine Nat.lt_of_le_of_ne (Nat.le_of_lt_succ hlt) fun hnat => ?_
  have hones : unpackExponent word = -1#11 := BitVec.eq_of_toNat_eq hnat
  simp only [UnpackedFloat.unpack, hones, if_true] at hfinite
  split at hfinite <;> cases hfinite

theorem code_lt_infinity {value : Float} (hfinite : value.isFinite = true) :
    code value < infinity := by
  obtain ⟨⟨bits, hvalid⟩⟩ := value
  have hword : (UnpackedFloat.unpack .binary64 bits.toBitVec).isFinite = true := hfinite
  have hexponent : bits.toNat / 2 ^ 52 % 2 ^ 11 < 2047 :=
    (toNat_unpackExponent bits.toBitVec).symm.trans_lt (toNat_unpackExponent_lt hword)
  have hpow : Nat.pow 2 63 = 2 ^ 63 := rfl
  have hinfinity : infinity = 2047 * 2 ^ 52 := rfl
  show bits.toNat % Nat.pow 2 63 < infinity
  rw [hpow, hinfinity]
  omega

end CipherCalc.Binary64
