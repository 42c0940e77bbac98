import CipherCalc.Cipher.Listing
import Mathlib.Data.Int.ModEq
import Mathlib.Tactic.NormNum

/-!
# Rotations add up

Two rotations in a row are the rotation by the sum of their shifts, and only the
shift modulo 858 matters, the least common multiple of the sizes 26 and 33 of the
two alphabets (`rotations_add`).  The sum is that of the integers: the shifts are
words, but no step of the argument adds words, so nothing has to be said about
overflow.  Only the word `-2 ^ 63` has no negative, and is left out where a text
is deciphered.

A letter is a place in an alphabet, and a rotation adds to that place
(`Letter.index_rotate`).  Everything else is that letters and characters
determine each other (`Letter.ofChar?_toChar`, `Letter.toChar_of_ofChar?`): a
rotated letter is still a letter of its alphabet, so the second rotation finds
it, and a dash is none, so what the first has hidden stays hidden.
-/

namespace CipherCalc.Cipher

namespace Letter

/-! ## Letters and characters -/

theorem toChar_of_inTable? {char : Char} {alphabet : Alphabet} {letterCase : LetterCase}
    {letter : Letter} (hletter : inTable? char alphabet letterCase = some letter) :
    letter.toChar = char := by
  obtain ⟨index, hindex, rfl⟩ := Option.map_eq_some_iff.mp hletter
  exact (List.finIdxOf?_eq_some_iff.mp hindex).1

theorem toChar_of_ofChar? {char : Char} {letter : Letter} (hletter : ofChar? char = some letter) :
    letter.toChar = char := by
  simp only [ofChar?, Option.orElse_eq_some] at hletter
  rcases hletter with hletter | ⟨-, hletter | ⟨-, hletter | ⟨-, hletter⟩⟩⟩ <;>
    exact toChar_of_inTable? hletter

/-- The four tables have no character in common, and none twice. -/
theorem ofChar?_toChar (letter : Letter) : ofChar? letter.toChar = some letter := by
  obtain ⟨alphabet, letterCase, index⟩ := letter
  cases alphabet <;> cases letterCase <;> revert index <;> decide +kernel

theorem toChar_inj {first second : Letter} : first.toChar = second.toChar ↔ first = second := by
  constructor
  · intro hchar
    have hletter := ofChar?_toChar first
    rw [hchar, ofChar?_toChar second] at hletter
    exact (Option.some.inj hletter).symm
  · intro hletter
    rw [hletter]

/-! ## Rotating a letter -/

@[simp] theorem alphabet_rotate (shift : Int64) (letter : Letter) :
    (letter.rotate shift).alphabet = letter.alphabet := rfl

theorem index_rotate (shift : Int64) (letter : Letter) :
    ((letter.rotate shift).index : Int) =
      ((letter.index : Int) + shift.toInt) % letter.alphabet.size := by
  have hsize : (letter.alphabet.size : Int) ≠ 0 := by
    have hpos := letter.alphabet.size_pos
    omega
  have hsteps : ((shift.toInt % letter.alphabet.size).toNat : Int) =
      shift.toInt % letter.alphabet.size :=
    Int.toNat_of_nonneg (Int.emod_nonneg _ hsize)
  rw [rotate]
  push_cast
  rw [hsteps, Int.add_emod_emod]

theorem eq_of_index {first second : Letter} (halphabet : first.alphabet = second.alphabet)
    (hcase : first.letterCase = second.letterCase) (hindex : (first.index : Int) = second.index) :
    first = second := by
  obtain ⟨alphabet, letterCase, index⟩ := first
  obtain ⟨otherAlphabet, otherCase, other⟩ := second
  obtain rfl : alphabet = otherAlphabet := halphabet
  obtain rfl : letterCase = otherCase := hcase
  obtain rfl : index = other := Fin.ext (Int.ofNat_inj.mp hindex)
  rfl

theorem rotate_rotate {first second total : Int64} {letter : Letter}
    (htotal : total.toInt ≡ first.toInt + second.toInt [ZMOD letter.alphabet.size]) :
    (letter.rotate first).rotate second = letter.rotate total := by
  refine eq_of_index rfl rfl ?_
  calc (((letter.rotate first).rotate second).index : Int)
      = ((letter.index + first.toInt) % letter.alphabet.size + second.toInt) %
          letter.alphabet.size := by
        rw [index_rotate, index_rotate, alphabet_rotate]
    _ = (letter.index + (first.toInt + second.toInt)) % letter.alphabet.size := by
        rw [Int.emod_add_emod, Int.add_assoc]
    _ = (letter.index + total.toInt) % letter.alphabet.size :=
        (htotal.add_left letter.index).symm
    _ = (letter.rotate total).index := (index_rotate total letter).symm

theorem rotate_eq_rotate_iff {first second : Int64} {letter : Letter} :
    letter.rotate first = letter.rotate second ↔
      first.toInt ≡ second.toInt [ZMOD letter.alphabet.size] := by
  have hmoved : ((letter.rotate first).index : Int) = (letter.rotate second).index ↔
      first.toInt ≡ second.toInt [ZMOD letter.alphabet.size] := by
    rw [index_rotate, index_rotate]
    exact ⟨Int.ModEq.add_left_cancel' _, Int.ModEq.add_left _⟩
  rw [← hmoved]
  constructor
  · intro hletter
    rw [hletter]
  · exact fun hindex => eq_of_index rfl rfl hindex

theorem rotate_zero (letter : Letter) : letter.rotate 0 = letter := by
  refine eq_of_index rfl rfl ?_
  have hlt : (letter.index : Int) < letter.alphabet.size := Int.ofNat_lt.mpr letter.index.isLt
  rw [index_rotate, Int64.toInt_zero, Int.add_zero]
  exact Int.emod_eq_of_lt (Int.natCast_nonneg _) hlt

end Letter

/-! ## Rotating characters and texts -/

theorem rotateChar_of_none {shift : Int64} {only : Option Alphabet} {char : Char}
    (hnone : Letter.ofChar? char = none) : rotateChar shift only char = char := by
  rw [rotateChar, hnone]

theorem rotateChar_toChar (shift : Int64) (only : Option Alphabet) (letter : Letter) :
    rotateChar shift only letter.toChar =
      if only.any (· != letter.alphabet) then '-' else (letter.rotate shift).toChar := by
  rw [rotateChar, Letter.ofChar?_toChar]

theorem rotateChar_rotateChar {first second total : Int64}
    (htotal : ∀ alphabet : Alphabet,
      total.toInt ≡ first.toInt + second.toInt [ZMOD alphabet.size])
    (only : Option Alphabet) (char : Char) :
    rotateChar second only (rotateChar first only char) = rotateChar total only char := by
  cases hletter : Letter.ofChar? char with
  | none => simp only [rotateChar_of_none hletter]
  | some letter =>
      obtain rfl := Letter.toChar_of_ofChar? hletter
      have hdash : Letter.ofChar? '-' = none := by decide +kernel
      rw [rotateChar_toChar, rotateChar_toChar]
      by_cases hhidden : only.any (· != letter.alphabet) = true
      · rw [if_pos hhidden, if_pos hhidden, rotateChar_of_none hdash]
      · rw [if_neg hhidden, if_neg hhidden, rotateChar_toChar, Letter.alphabet_rotate,
          if_neg hhidden, Letter.rotate_rotate (htotal letter.alphabet)]

theorem rotateChar_zero (char : Char) : rotateChar 0 none char = char := by
  cases hletter : Letter.ofChar? char with
  | none => exact rotateChar_of_none hletter
  | some letter =>
      obtain rfl := Letter.toChar_of_ofChar? hletter
      rw [rotateChar_toChar, Letter.rotate_zero]
      rfl

theorem rotate_rotate {first second total : Int64}
    (htotal : ∀ alphabet : Alphabet,
      total.toInt ≡ first.toInt + second.toInt [ZMOD alphabet.size])
    (only : Option Alphabet) (text : String) :
    rotate second only (rotate first only text) = rotate total only text := by
  have hchars : rotateChar second only ∘ rotateChar first only = rotateChar total only :=
    funext fun char => rotateChar_rotateChar htotal only char
  rw [← String.toList_inj, toList_rotate, toList_rotate, toList_rotate, List.map_map, hchars]

theorem rotate_zero (text : String) : rotate 0 none text = text := by
  rw [← String.toList_inj, toList_rotate, List.map_congr_left fun char _ => rotateChar_zero char,
    List.map_id']

theorem encipher_eq_iff {first second : Int64} :
    (∀ text, encipher first text = encipher second text) ↔
      ∀ alphabet : Alphabet, first.toInt ≡ second.toInt [ZMOD alphabet.size] := by
  constructor
  · intro htexts alphabet
    -- the first letter of an alphabet, written alone, tells how far it is moved
    let letter : Letter := ⟨alphabet, .upper, ⟨0, alphabet.size_pos⟩⟩
    have htext := congrArg String.toList (htexts (String.ofList [letter.toChar]))
    simp only [encipher, toList_rotate, String.toList_ofList, List.map_cons, List.map_nil,
      List.cons.injEq, and_true, rotateChar_toChar] at htext
    exact Letter.rotate_eq_rotate_iff.mp (Letter.toChar_inj.mp htext)
  · intro hshifts text
    have hsame : rotate 0 none (rotate first none text) = rotate second none text :=
      rotate_rotate (fun alphabet => by simpa using (hshifts alphabet).symm) none text
    rwa [rotate_zero] at hsame

/-! ## The integers modulo 858 -/

theorem modEq_iff_forall_size {first second : Int} :
    first ≡ second [ZMOD 858] ↔ ∀ alphabet : Alphabet, first ≡ second [ZMOD alphabet.size] := by
  have hcoprime : (26 : Int).natAbs.Coprime (33 : Int).natAbs := by decide
  have hsizes := Int.modEq_and_modEq_iff_modEq_mul (a := first) (b := second) hcoprime
  constructor
  · intro hmodEq alphabet
    obtain ⟨hlatin, hrussian⟩ := hsizes.mpr hmodEq
    cases alphabet with
    | latin => exact hlatin
    | russian => exact hrussian
  · intro hall
    exact hsizes.mp ⟨hall .latin, hall .russian⟩

theorem toInt_neg_of_ne {shift : Int64} (hshift : shift ≠ Int64.minValue) :
    (-shift).toInt = -shift.toInt := by
  have hne : shift.toInt ≠ -2 ^ 63 := fun heq =>
    hshift (Int64.toInt_inj.mp (heq.trans Int64.toInt_minValue.symm))
  have hlow := Int64.le_toInt shift
  have hhigh := Int64.toInt_lt shift
  rw [Int64.toInt_neg]
  exact Int.bmod_eq_of_le (by omega) (by omega)

/-- Deciphering adds the negative of a shift. -/
theorem rotate_cancel {first second : Int64} (hcancel : first.toInt + second.toInt = 0)
    (text : String) : rotate second none (rotate first none text) = text := by
  have hzero : rotate second none (rotate first none text) = rotate 0 none text :=
    rotate_rotate (fun alphabet => by rw [hcancel, Int64.toInt_zero]) none text
  rwa [rotate_zero] at hzero

/-- **The shifts act on texts as the integers modulo 858 do.**  Two rotations
with the same letters hidden are the one by any shift congruent to the sum, two
shifts encipher every text alike just when they are congruent, and a shift that
has a negative is undone by deciphering, in either order. -/
theorem rotations_add :
    Nat.lcm Alphabet.latin.size Alphabet.russian.size = 858 ∧
    (∀ (text : String) (only : Option Alphabet) (first second total : Int64),
      total.toInt ≡ first.toInt + second.toInt [ZMOD 858] →
        rotate second only (rotate first only text) = rotate total only text) ∧
    (∀ first second : Int64, (∀ text, encipher first text = encipher second text) ↔
      first.toInt ≡ second.toInt [ZMOD 858]) ∧
    ∀ (text : String) (shift : Int64), shift ≠ Int64.minValue →
      reveal (.known shift) (encipher shift text) = text ∧
        encipher shift (reveal (.known shift) text) = text := by
  refine ⟨by decide, fun text only first second total htotal => ?_, fun first second => ?_,
    fun text shift hshift => ?_⟩
  · exact rotate_rotate (modEq_iff_forall_size.mp htotal) only text
  · exact encipher_eq_iff.trans modEq_iff_forall_size.symm
  · have hneg := toInt_neg_of_ne hshift
    exact ⟨rotate_cancel (by omega) text, rotate_cancel (by omega) text⟩

/-- The largest shift twice is 14 modulo 858, though the words add up to `-2`. -/
theorem rotations_add_maxValue :
    (14 : Int64).toInt ≡ Int64.maxValue.toInt + Int64.maxValue.toInt [ZMOD 858] ∧
      rotate Int64.maxValue (some .russian) (rotate Int64.maxValue (some .russian) "Ёж, Fox") =
        "Уф, ---" ∧
      Int64.maxValue ≠ Int64.minValue ∧
      encipher Int64.maxValue (reveal (.known Int64.maxValue) "Ёж, Fox") = "Ёж, Fox" := by
  have htotal : (14 : Int64).toInt ≡ Int64.maxValue.toInt + Int64.maxValue.toInt [ZMOD 858] := by
    decide +kernel
  have hshift : Int64.maxValue ≠ Int64.minValue := by decide
  have hrotated : rotate 14 (some .russian) "Ёж, Fox" = "Уф, ---" := by decide +kernel
  obtain ⟨-, hadd, -, hundo⟩ := rotations_add
  exact ⟨htotal, (hadd _ _ _ _ 14 htotal).trans hrotated, hshift, (hundo _ _ hshift).2⟩

end CipherCalc.Cipher
