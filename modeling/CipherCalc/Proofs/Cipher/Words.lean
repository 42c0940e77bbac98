import CipherCalc.Cipher.Words
import CipherCalc.Proofs.Cipher.Listing
import CipherCalc.Proofs.Fallible

/-!
# Rotations are exact

A rotation moves a letter in the integers, whatever the shift: the letter at a place of
a table becomes the one at that place plus the shift, modulo the size of the alphabet
(`Becomes`, `rotate_exact`).  Carried out in words, it never traps.  The shift is
reduced before anything is added to it, so no sum exceeds twice the size of an alphabet
(`Words.rotation_eq`), and what is left is to find the letters of the four tables the
way the words do (`Words.moveLetter_toChar`, `Words.moveLetter_of_none`).

With the letters of one alphabet hidden, a text still shows those of the other, so the
two texts that hide an alphabet together show the one that hides none
(`rotate_none_eq_overlay`).
-/

namespace CipherCalc.Cipher

/-! ## Words that fit -/

namespace Words

open Fallible (ok_bind)

theorem exists_signed_eq (value : Int) (hlow : -2 ^ 63 ≤ value) (hhigh : value < 2 ^ 63) :
    ∃ word, signed value = .ok word ∧ word.toInt = value := by
  refine ⟨Int64.ofInt value, ?_, Int64.toInt_ofInt_of_le hlow hhigh⟩
  rw [signed, if_pos]
  rw [Int64.toInt_minValue, Int64.toInt_maxValue]
  omega

theorem index_natCast {value : Nat} (hlt : value < 2 ^ 32) :
    index value = .ok (USize.ofNat value) := by
  have hsize := USize.le_size
  rw [index, if_pos (by omega), Int.toNat_natCast]

theorem toNat_ofNat {value : Nat} (hlt : value < 2 ^ 32) : (USize.ofNat value).toNat = value := by
  have hsize := USize.le_size
  exact USize.toNat_ofNat_of_lt (by omega)

theorem byte_natCast {value : Nat} (hlt : value < 256) : byte value = .ok (UInt8.ofNat value) := by
  rw [byte, if_pos ⟨by omega, by exact_mod_cast hlt⟩, Int.toNat_natCast]

theorem exists_remainder_eq (value : Int64) {size : Int64} (hsize : 0 < size.toInt) :
    ∃ word, remainder value size = .ok word ∧ word.toInt = value.toInt % size.toInt := by
  have hlow := Int.emod_nonneg value.toInt (show size.toInt ≠ 0 by omega)
  have hhigh := Int.emod_lt_of_pos value.toInt hsize
  have hword := Int64.toInt_lt size
  have hzero : size ≠ 0 := by
    rintro rfl
    exact absurd hsize (by decide)
  have hone : size ≠ -1 := by
    rintro rfl
    exact absurd hsize (by decide)
  rw [remainder, if_neg (by simp [hzero, hone])]
  exact exists_signed_eq _ (by omega) (by omega)

theorem toInt_sizeOf (alphabet : Alphabet) : (sizeOf alphabet).toInt = alphabet.size := by
  have hsize := alphabet.size_lt
  exact Int64.toInt_ofNat_of_lt (by omega)

/-- A place is moved without a trap, by the exact sum. -/
theorem exists_rotation_eq (place : USize) (shift : Int64) {size : Int64}
    (hplace : (place.toNat : Int) < size.toInt) (hsize : size.toInt < 2 ^ 32) :
    ∃ target, rotation place shift size = .ok target ∧
      (target.toNat : Int) = (place.toNat + shift.toInt) % size.toInt := by
  have hpos : 0 < size.toInt := by omega
  obtain ⟨start, hstart, hstartValue⟩ := exists_signed_eq place.toNat (by omega) (by omega)
  obtain ⟨steps, hsteps, hstepsValue⟩ := exists_remainder_eq shift hpos
  have hstepsLow := Int.emod_nonneg shift.toInt (show size.toInt ≠ 0 by omega)
  have hstepsHigh := Int.emod_lt_of_pos shift.toInt hpos
  obtain ⟨sum, hsum, hsumValue⟩ := exists_signed_eq (start.toInt + steps.toInt)
    (by omega) (by omega)
  obtain ⟨last, hlast, hlastValue⟩ := exists_remainder_eq sum hpos
  have hlow := Int.emod_nonneg sum.toInt (show size.toInt ≠ 0 by omega)
  have hhigh := Int.emod_lt_of_pos sum.toInt hpos
  obtain ⟨target, htarget⟩ : ∃ target : Nat, last.toInt = target :=
    Int.eq_ofNat_of_zero_le (by omega)
  have hexact : (target : Int) = (place.toNat + shift.toInt) % size.toInt :=
    calc (target : Int)
        = (place.toNat + shift.toInt % size.toInt) % size.toInt := by
          rw [← htarget, hlastValue, hsumValue, hstartValue, hstepsValue]
      _ = (place.toNat + shift.toInt) % size.toInt := Int.add_emod_emod _ _ _
  refine ⟨USize.ofNat target, ?_, ?_⟩
  · rw [rotation, hstart, ok_bind, hsteps, ok_bind, hsum, ok_bind, hlast, ok_bind, htarget,
      index_natCast (by omega)]
  · rw [toNat_ofNat (by omega), hexact]

/-- The place of a letter is moved to that of the rotated letter. -/
theorem rotation_letter (shift : Int64) (letter : Letter) :
    rotation (USize.ofNat letter.index) shift (sizeOf letter.alphabet) =
      .ok (USize.ofNat (letter.rotate shift).index) := by
  have hsize := toInt_sizeOf letter.alphabet
  have hsmall := letter.alphabet.size_lt
  have hplace := letter.index.isLt
  have hstart : (USize.ofNat letter.index).toNat = letter.index := toNat_ofNat (by omega)
  have hbelow : ((USize.ofNat letter.index).toNat : Int) < (sizeOf letter.alphabet).toInt := by
    omega
  obtain ⟨target, htarget, hvalue⟩ := exists_rotation_eq _ shift hbelow (by omega)
  rw [hstart, hsize, ← Letter.index_rotate, Int.natCast_inj] at hvalue
  rw [htarget, ← hvalue, USize.ofNat_toNat]

end Words

/-! ## The letters of the tables -/

namespace Letter

variable {alphabet : Alphabet} {letterCase : LetterCase}

theorem getElem?_letters (letter : Letter) :
    (letter.alphabet.letters letter.letterCase)[(letter.index : Nat)]? = some letter.toChar :=
  List.getElem?_eq_getElem _

theorem exists_eq_of_getElem? {place : Nat} {char : Char}
    (hchar : (alphabet.letters letterCase)[place]? = some char) :
    ∃ index : Fin alphabet.size,
      (index : Nat) = place ∧ toChar ⟨alphabet, letterCase, index⟩ = char := by
  obtain ⟨hlt, hchar⟩ := List.getElem?_eq_some_iff.mp hchar
  rw [Alphabet.length_letters] at hlt
  exact ⟨⟨place, hlt⟩, rfl, hchar⟩

theorem exists_eq_of_mem {char : Char} (hmem : char ∈ alphabet.letters letterCase) :
    ∃ index : Fin alphabet.size, toChar ⟨alphabet, letterCase, index⟩ = char := by
  obtain ⟨place, hchar⟩ := List.mem_iff_getElem?.mp hmem
  obtain ⟨index, -, hindex⟩ := exists_eq_of_getElem? hchar
  exact ⟨index, hindex⟩

theorem mem_letters_iff {letter : Letter} :
    letter.toChar ∈ alphabet.letters letterCase ↔
      letter.alphabet = alphabet ∧ letter.letterCase = letterCase := by
  constructor
  · intro hmem
    obtain ⟨index, hindex⟩ := exists_eq_of_mem hmem
    obtain rfl := toChar_inj.mp hindex
    exact ⟨rfl, rfl⟩
  · rintro ⟨rfl, rfl⟩
    exact List.get_mem _ _

theorem not_mem_letters_of_none {char : Char} (hnone : ofChar? char = none) :
    char ∉ alphabet.letters letterCase := by
  intro hmem
  obtain ⟨index, rfl⟩ := exists_eq_of_mem hmem
  rw [ofChar?_toChar] at hnone
  exact absurd hnone (Option.some_ne_none _)

/-- No character stands twice in a table. -/
theorem idxOf?_letters (alphabet : Alphabet) (letterCase : LetterCase)
    (index : Fin alphabet.size) :
    (alphabet.letters letterCase).idxOf? (toChar ⟨alphabet, letterCase, index⟩) =
      some (index : Nat) := by
  have hlength := Alphabet.length_letters alphabet letterCase
  rw [List.idxOf?_eq_some_iff]
  refine ⟨by omega, rfl, fun place hplace hchar => ?_⟩
  have hsame : (⟨alphabet, letterCase, ⟨place, by omega⟩⟩ : Letter) =
      ⟨alphabet, letterCase, index⟩ := toChar_inj.mp hchar
  simp only [mk.injEq, heq_eq_eq, true_and] at hsame
  exact absurd (congrArg Fin.val hsame) (Nat.ne_of_lt hplace)

theorem toNat_toChar_latin (letterCase : LetterCase) (index : Fin Alphabet.latin.size) :
    (toChar ⟨.latin, letterCase, index⟩).toNat = (Words.firstByte letterCase).toNat + index := by
  cases letterCase <;> revert index <;> decide +kernel

theorem isLatinCase_toChar (index : Fin Alphabet.latin.size) :
    (toChar ⟨.latin, .upper, index⟩).isUpper = true ∧
      (toChar ⟨.latin, .lower, index⟩).isUpper = false ∧
      (toChar ⟨.latin, .lower, index⟩).isLower = true := by
  revert index
  decide +kernel

theorem not_isLatinCase_of_none {char : Char} (hnone : ofChar? char = none) :
    char.isUpper = false ∧ char.isLower = false := by
  -- a code among those of a case is the code of a letter
  have hcode : ∀ letterCase place, place < 26 →
      char.toNat ≠ (Words.firstByte letterCase).toNat + place := by
    intro letterCase place hplace hcode
    have hletter := ofChar?_toChar ⟨.latin, letterCase, ⟨place, hplace⟩⟩
    rw [← toNat_toChar_latin letterCase ⟨place, hplace⟩, Char.toNat_inj] at hcode
    exact absurd (hletter.symm.trans (hcode ▸ hnone)) (Option.some_ne_none _)
  have hfirst : (Words.firstByte .upper).toNat = 65 ∧ (Words.firstByte .lower).toNat = 97 := by
    decide
  refine ⟨Bool.eq_false_iff.mpr fun hupper => ?_, Bool.eq_false_iff.mpr fun hlower => ?_⟩
  · obtain ⟨hge, hle⟩ : char.val ≥ 65 ∧ char.val ≤ 90 := of_decide_eq_true hupper
    have hlow : 65 ≤ char.toNat := UInt32.le_iff_toNat_le.mp hge
    have hhigh : char.toNat ≤ 90 := UInt32.le_iff_toNat_le.mp hle
    exact hcode .upper (char.toNat - 65) (by omega) (by omega)
  · obtain ⟨hge, hle⟩ := Bool.and_eq_true_iff.mp hlower
    have hlow : 97 ≤ char.toNat := UInt32.le_iff_toNat_le.mp (of_decide_eq_true hge)
    have hhigh : char.toNat ≤ 122 := UInt32.le_iff_toNat_le.mp (of_decide_eq_true hle)
    exact hcode .lower (char.toNat - 97) (by omega) (by omega)

end Letter

namespace Words

open Fallible (ok_bind)

theorem toNat_ofUInt8 (code : UInt8) : (Char.ofUInt8 code).toNat = code.toNat := rfl

theorem moveInTable_letter (letterCase : LetterCase) (place : Fin Alphabet.russian.size)
    (shift : Int64) :
    moveInTable letterCase place shift =
      .ok (Letter.rotate shift ⟨.russian, letterCase, place⟩).toChar := by
  let letter : Letter := ⟨.russian, letterCase, place⟩
  have hplace : (place : Nat) < 33 := place.isLt
  have hmoved : ((letter.rotate shift).index : Nat) < 33 := (letter.rotate shift).index.isLt
  have hrotation : rotation (USize.ofNat place) shift (sizeOf .russian) = _ :=
    rotation_letter shift letter
  have hentry := (letter.rotate shift).getElem?_letters
  rw [moveInTable, index_natCast (by omega), ok_bind, hrotation, ok_bind, entry,
    toNat_ofNat (by omega)]
  exact hentry ▸ rfl

theorem moveByte_letter (letterCase : LetterCase) (place : Fin Alphabet.latin.size)
    (shift : Int64) :
    moveByte letterCase (Letter.toChar ⟨.latin, letterCase, place⟩) shift =
      .ok (Letter.rotate shift ⟨.latin, letterCase, place⟩).toChar := by
  have hfirst : (firstByte letterCase).toNat + 26 ≤ 256 := by cases letterCase <;> decide
  have hplace : (place : Nat) < 26 := place.isLt
  obtain ⟨target, htarget⟩ : ∃ target : Fin Alphabet.latin.size,
      Letter.rotate shift ⟨.latin, letterCase, place⟩ = ⟨.latin, letterCase, target⟩ := ⟨_, rfl⟩
  have hbound : (target : Nat) < 26 := target.isLt
  have hrotation : rotation (USize.ofNat place) shift (sizeOf .latin) =
      .ok (USize.ofNat target) := by
    have hletter := rotation_letter shift ⟨.latin, letterCase, place⟩
    rwa [htarget] at hletter
  have hcode : ((UInt8.ofNat ((firstByte letterCase).toNat + place)).toNat : Int) -
      (firstByte letterCase).toNat = (place : Nat) := by
    rw [UInt8.toNat_ofNat_of_lt' (by simp only [UInt8.size]; omega)]
    omega
  have hsteps : (UInt8.ofNat (place : Nat)).toNat = place :=
    UInt8.toNat_ofNat_of_lt' (by simp only [UInt8.size]; omega)
  have hmoved : (UInt8.ofNat (target : Nat)).toNat = target :=
    UInt8.toNat_ofNat_of_lt' (by simp only [UInt8.size]; omega)
  have hlast : ((firstByte letterCase).toNat : Int) + (target : Nat) =
      ((firstByte letterCase).toNat + target : Nat) := by omega
  rw [htarget, moveByte, Letter.toNat_toChar_latin]
  rw [byte_natCast (by omega), ok_bind, hcode, byte_natCast (by omega), ok_bind, hsteps,
    index_natCast (by omega), ok_bind, hrotation, ok_bind, toNat_ofNat (by omega),
    byte_natCast (by omega), ok_bind, hmoved, hlast, byte_natCast (by omega), ok_bind]
  refine congrArg Except.ok (Char.toNat_inj.mp ?_)
  rw [toNat_ofUInt8, Letter.toNat_toChar_latin]
  exact UInt8.toNat_ofNat_of_lt' (by simp only [UInt8.size]; omega)

theorem moveLetter_toChar (shift : Int64) (letter : Letter) :
    moveLetter shift letter.toChar =
      .ok (some ((letter.rotate shift).toChar, letter.alphabet)) := by
  obtain ⟨alphabet, letterCase, place⟩ := letter
  cases alphabet with
  | latin =>
      obtain ⟨hupper, hlowerUpper, hlower⟩ := Letter.isLatinCase_toChar place
      have hrussian : ∀ tableCase, (Alphabet.russian.letters tableCase).idxOf?
          (Letter.toChar ⟨.latin, letterCase, place⟩) = none := fun tableCase =>
        List.idxOf?_eq_none_iff.mpr fun hmem => nomatch (Letter.mem_letters_iff.mp hmem).1
      rw [moveLetter, hrussian, hrussian]
      cases letterCase with
      | upper =>
          rw [if_pos hupper, moveByte_letter, ok_bind]
          rfl
      | lower =>
          rw [hlowerUpper, if_neg Bool.false_ne_true, if_pos hlower, moveByte_letter, ok_bind]
          rfl
  | russian =>
      have hown := Letter.idxOf?_letters .russian letterCase place
      rw [moveLetter]
      cases letterCase with
      | upper =>
          rw [hown]
          simp only
          rw [moveInTable_letter, ok_bind]
          rfl
      | lower =>
          have hupper : (Alphabet.russian.letters .upper).idxOf?
              (Letter.toChar ⟨.russian, .lower, place⟩) = none :=
            List.idxOf?_eq_none_iff.mpr fun hmem => nomatch (Letter.mem_letters_iff.mp hmem).2
          rw [hupper, hown]
          simp only
          rw [moveInTable_letter, ok_bind]
          rfl

theorem moveLetter_of_none {char : Char} (hnone : Letter.ofChar? char = none) (shift : Int64) :
    moveLetter shift char = .ok none := by
  obtain ⟨hupper, hlower⟩ := Letter.not_isLatinCase_of_none hnone
  have hrussian : ∀ tableCase, (Alphabet.russian.letters tableCase).idxOf? char = none :=
    fun tableCase => List.idxOf?_eq_none_iff.mpr (Letter.not_mem_letters_of_none hnone)
  rw [moveLetter, hrussian, hrussian, hupper, hlower]
  rfl

/-! ## Texts in words -/

theorem rotateChar_eq (shift : Int64) (only : Option Alphabet) (char : Char) :
    rotateChar shift only char = .ok (Cipher.rotateChar shift only char) := by
  cases char using Letter.char_cases with
  | letter letter =>
      rw [rotateChar, moveLetter_toChar, ok_bind, rotateChar_toChar]
      rfl
  | other char hnone =>
      rw [rotateChar, moveLetter_of_none hnone, ok_bind, rotateChar_of_none hnone]
      rfl

theorem rotate_eq (shift : Int64) (only : Option Alphabet) (text : String) :
    rotate shift only text = .ok (Cipher.rotate shift only text) := by
  have hchars : rotateChar shift only = fun char => pure (Cipher.rotateChar shift only char) :=
    funext (rotateChar_eq shift only)
  rw [rotate, hchars, List.mapM_pure, pure_bind]
  rfl

end Words

/-! ## Exact places -/

/-- What a character becomes, in the integers: the letter at its place plus the shift in
its table, round the end, or a dash if its alphabet is the one to be hidden.  A character
of no table stays as it is. -/
inductive Becomes (shift : Int) (only : Option Alphabet) (char : Char) : Char → Prop
  | moved {alphabet : Alphabet} {letterCase : LetterCase} {place target : Nat} {letter : Char} :
      (alphabet.letters letterCase)[place]? = some char → only = none ∨ only = some alphabet →
      (target : Int) = (place + shift) % (alphabet.letters letterCase).length →
      (alphabet.letters letterCase)[target]? = some letter → Becomes shift only char letter
  | hidden {alphabet shown : Alphabet} {letterCase : LetterCase} :
      char ∈ alphabet.letters letterCase → only = some shown → shown ≠ alphabet →
      Becomes shift only char '-'
  | kept : (∀ alphabet letterCase, char ∉ Alphabet.letters alphabet letterCase) →
      Becomes shift only char char

theorem becomes_rotate (shift : Int64) (letter : Letter) {only : Option Alphabet}
    (honly : only = none ∨ only = some letter.alphabet) :
    Becomes shift.toInt only letter.toChar (letter.rotate shift).toChar := by
  refine .moved letter.getElem?_letters honly ?_ (letter.rotate shift).getElem?_letters
  rw [Alphabet.length_letters]
  exact Letter.index_rotate shift letter

theorem becomes_rotateChar (shift : Int64) (only : Option Alphabet) (char : Char) :
    Becomes shift.toInt only char (rotateChar shift only char) := by
  cases char using Letter.char_cases with
  | letter letter =>
      cases only with
      | none =>
          rw [rotateChar_none_toChar]
          exact becomes_rotate shift letter (.inl rfl)
      | some shown =>
          by_cases hshown : shown = letter.alphabet
          · rw [hshown, rotateChar_some_self]
            exact becomes_rotate shift letter (.inr rfl)
          · rw [rotateChar_some_of_ne shift hshown]
            exact .hidden (Letter.mem_letters_iff.mpr ⟨rfl, rfl⟩) rfl hshown
  | other char hnone =>
      rw [rotateChar_of_none hnone]
      exact .kept fun _ _ => Letter.not_mem_letters_of_none hnone

theorem Becomes.rotateChar_eq {shift : Int64} {only : Option Alphabet} {char moved : Char}
    (hbecomes : Becomes shift.toInt only char moved) : rotateChar shift only char = moved := by
  cases hbecomes with
  | @moved alphabet letterCase place target _ hplace honly htarget hmoved =>
      obtain ⟨index, rfl, rfl⟩ := Letter.exists_eq_of_getElem? hplace
      obtain ⟨last, rfl, rfl⟩ := Letter.exists_eq_of_getElem? hmoved
      have hrotate : Letter.rotate shift ⟨alphabet, letterCase, index⟩ =
          ⟨alphabet, letterCase, last⟩ := by
        refine Letter.eq_of_index rfl rfl ?_
        rw [Letter.index_rotate, htarget, Alphabet.length_letters]
      rcases honly with rfl | rfl
      · rw [rotateChar_none_toChar, hrotate]
      · exact (rotateChar_some_self shift ⟨alphabet, letterCase, index⟩).trans
          (congrArg Letter.toChar hrotate)
  | @hidden alphabet shown letterCase hmem honly hne =>
      obtain ⟨index, rfl⟩ := Letter.exists_eq_of_mem hmem
      rw [honly]
      exact @rotateChar_some_of_ne shift _ ⟨alphabet, letterCase, index⟩ hne
  | kept hnone =>
      cases char using Letter.char_cases with
      | letter letter => exact absurd (Letter.mem_letters_iff.mpr ⟨rfl, rfl⟩) (hnone _ _)
      | other char hnone => exact rotateChar_of_none hnone

theorem rotateChar_eq_iff {shift : Int64} {only : Option Alphabet} {char moved : Char} :
    rotateChar shift only char = moved ↔ Becomes shift.toInt only char moved :=
  ⟨fun hmoved => hmoved ▸ becomes_rotateChar shift only char, Becomes.rotateChar_eq⟩

/-! ## One alphabet over the other -/

/-- A text, with what another one has in the place of its dashes. -/
def overlay (front back : String) : String :=
  String.ofList (List.zipWith (fun shown other => if shown = '-' then other else shown)
    front.toList back.toList)

theorem Letter.toChar_ne_dash (letter : Letter) : letter.toChar ≠ '-' := by
  intro hdash
  have hnone : ofChar? '-' = none := by decide +kernel
  rw [← hdash, ofChar?_toChar] at hnone
  exact absurd hnone (Option.some_ne_none letter)

theorem rotateChar_none_eq (shift : Int64) (char : Char) :
    rotateChar shift none char =
      if rotateChar shift (some .latin) char = '-' then rotateChar shift (some .russian) char
      else rotateChar shift (some .latin) char := by
  cases char using Letter.char_cases with
  | letter letter =>
      rw [rotateChar_none_toChar]
      cases halphabet : letter.alphabet with
      | latin =>
          have hlatin := halphabet ▸ rotateChar_some_self shift letter
          rw [hlatin, if_neg (Letter.toChar_ne_dash _)]
      | russian =>
          have hrussian := halphabet ▸ rotateChar_some_self shift letter
          rw [rotateChar_some_of_ne shift (by rw [halphabet]; decide), if_pos rfl, hrussian]
  | other char hnone => rw [rotateChar_of_none hnone, rotateChar_of_none hnone,
      rotateChar_of_none hnone, ite_self]

theorem rotate_none_eq_overlay (shift : Int64) (text : String) :
    rotate shift none text =
      overlay (rotate shift (some .latin) text) (rotate shift (some .russian) text) := by
  rw [rotate, overlay, toList_rotate, toList_rotate, List.zipWith_map, List.zipWith_self]
  simp only [← rotateChar_none_eq]

/-- **A rotation is exact.**  It keeps the number of characters, and each one becomes what
the integers say, of which there is just one.  Done in words it gives the same text and
never traps, neither on a word that is too large nor on a place that a table does not
have.  The two texts that hide an alphabet together show the one that hides none. -/
theorem rotate_exact (shift : Int64) (only : Option Alphabet) (text : String) :
    (rotate shift only text).length = text.length ∧
    (∀ (place : Nat) (moved : Char), (rotate shift only text).toList[place]? = some moved ↔
      ∃ char, text.toList[place]? = some char ∧ Becomes shift.toInt only char moved) ∧
    Words.rotate shift only text = .ok (rotate shift only text) ∧
    rotate shift none text =
      overlay (rotate shift (some .latin) text) (rotate shift (some .russian) text) := by
  refine ⟨?_, fun place moved => ?_, Words.rotate_eq shift only text,
    rotate_none_eq_overlay shift text⟩
  · rw [← String.length_toList, toList_rotate, List.length_map, String.length_toList]
  · rw [toList_rotate, List.getElem?_map, Option.map_eq_some_iff]
    simp only [rotateChar_eq_iff]

/-- The last letters, moved by the lowest and by the highest shift. -/
example : rotate Int64.minValue none "Zя-" = "Rч-" ∧
    rotate Int64.maxValue (some .russian) "Zя-" = "-ё-" := by
  decide +kernel

end CipherCalc.Cipher
