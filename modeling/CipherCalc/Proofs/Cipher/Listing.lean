import CipherCalc.Proofs.Cipher.Rotation
import CipherCalc.Proofs.Text.Trim

/-!
# The listing of a hidden text uncovers it

Whatever key hides a text, its listing has one block for each alphabet that the
text has letters of, all the texts of a block differ, and exactly the text at the
key is the hidden one (`listing_encipher`).

Three things are needed.  Letters are not blank and are moved to letters, so
trimming and looking for letters do not notice the key (`trim_rotate`,
`occursIn_encipher`).  The letters of the other alphabet end as dashes whether
they are hidden before or after the key is applied (`rotate_some_encipher`), so
a candidate is one rotation of the plain text, by the key less the shift
(`exists_rotate_candidate`).  And a single letter tells two rotations apart that
differ by less than a turn (`rotate_some_eq_iff`).
-/

namespace CipherCalc.Cipher

/-! ## Characters one by one -/

/-- A character is a letter or none. -/
theorem Letter.char_cases {motive : Char → Prop} (letter : ∀ letter : Letter, motive letter.toChar)
    (other : ∀ char, ofChar? char = none → motive char) (char : Char) : motive char := by
  cases hletter : ofChar? char with
  | none => exact other char hletter
  | some found => exact toChar_of_ofChar? hletter ▸ letter found

theorem rotateChar_none_toChar (shift : Int64) (letter : Letter) :
    rotateChar shift none letter.toChar = (letter.rotate shift).toChar := by
  rw [rotateChar_toChar, Option.any_none, if_neg Bool.false_ne_true]

theorem rotateChar_some_self (shift : Int64) (letter : Letter) :
    rotateChar shift (some letter.alphabet) letter.toChar = (letter.rotate shift).toChar := by
  rw [rotateChar_toChar, Option.any_some, bne_self_eq_false, if_neg Bool.false_ne_true]

theorem rotateChar_some_of_ne (shift : Int64) {alphabet : Alphabet} {letter : Letter}
    (hne : alphabet ≠ letter.alphabet) : rotateChar shift (some alphabet) letter.toChar = '-' := by
  rw [rotateChar_toChar, Option.any_some, if_pos (bne_iff_ne.mpr hne)]

theorem rotateChar_dash (shift : Int64) (only : Option Alphabet) :
    rotateChar shift only '-' = '-' :=
  rotateChar_of_none (by decide +kernel)

/-! ## The letters of a text -/

namespace Alphabet

/-- Whether a character is a letter of an alphabet, in either case. -/
def isLetter (alphabet : Alphabet) (char : Char) : Bool :=
  (alphabet.letters .upper).contains char || (alphabet.letters .lower).contains char

/-- Whether a text has a letter of an alphabet. -/
def occursIn (alphabet : Alphabet) (text : String) : Bool :=
  text.toList.any alphabet.isLetter

/-- The alphabet that an alphabet is not. -/
def other : Alphabet → Alphabet
  | .latin => .russian
  | .russian => .latin

theorem isLetter_iff {alphabet : Alphabet} {char : Char} :
    alphabet.isLetter char ↔
      ∃ letter : Letter, letter.alphabet = alphabet ∧ letter.toChar = char := by
  rw [isLetter, Bool.or_eq_true, List.contains_iff_mem, List.contains_iff_mem]
  constructor
  · intro hmem
    obtain ⟨letterCase, hmem⟩ : ∃ letterCase, char ∈ alphabet.letters letterCase :=
      hmem.elim (⟨.upper, ·⟩) (⟨.lower, ·⟩)
    obtain ⟨index, hindex⟩ := List.get_of_mem hmem
    exact ⟨⟨alphabet, letterCase, index.cast (length_letters _ _)⟩, rfl, hindex⟩
  · rintro ⟨⟨alphabet, letterCase, index⟩, rfl, rfl⟩
    cases letterCase with
    | upper => exact .inl (List.get_mem _ _)
    | lower => exact .inr (List.get_mem _ _)

theorem isLetter_toChar (alphabet : Alphabet) (letter : Letter) :
    alphabet.isLetter letter.toChar = (alphabet == letter.alphabet) := by
  rw [Bool.eq_iff_iff, isLetter_iff, beq_iff_eq]
  constructor
  · rintro ⟨same, rfl, hchar⟩
    rw [Letter.toChar_inj.mp hchar]
  · intro halphabet
    exact ⟨letter, halphabet.symm, rfl⟩

theorem isLetter_of_none {char : Char} (hnone : Letter.ofChar? char = none) (alphabet : Alphabet) :
    alphabet.isLetter char = false := by
  rw [Bool.eq_false_iff, ne_eq, isLetter_iff]
  rintro ⟨letter, -, rfl⟩
  rw [Letter.ofChar?_toChar] at hnone
  exact absurd hnone (Option.some_ne_none letter)

theorem occursIn_iff {alphabet : Alphabet} {text : String} :
    alphabet.occursIn text ↔
      ∃ letter : Letter, letter.alphabet = alphabet ∧ letter.toChar ∈ text.toList := by
  rw [occursIn, List.any_eq_true]
  constructor
  · rintro ⟨char, hmem, hletter⟩
    obtain ⟨letter, halphabet, rfl⟩ := isLetter_iff.mp hletter
    exact ⟨letter, halphabet, hmem⟩
  · rintro ⟨letter, halphabet, hmem⟩
    exact ⟨letter.toChar, hmem, isLetter_iff.mpr ⟨letter, halphabet, rfl⟩⟩

end Alphabet

theorem hasLetterOf_eq_occursIn (alphabet : Alphabet) (text : String) :
    hasLetterOf alphabet text = alphabet.occursIn text := by
  have hchars : (fun char => (Letter.ofChar? char).any (·.alphabet == alphabet)) =
      alphabet.isLetter := by
    funext char
    cases char using Letter.char_cases with
    | letter letter =>
        rw [Letter.ofChar?_toChar, Option.any_some, Alphabet.isLetter_toChar, BEq.comm]
    | other char hnone => rw [hnone, Option.any_none, Alphabet.isLetter_of_none hnone]
  rw [hasLetterOf, hchars, Alphabet.occursIn]

theorem isLetter_rotateChar (alphabet : Alphabet) (shift : Int64) (char : Char) :
    alphabet.isLetter (rotateChar shift none char) = alphabet.isLetter char := by
  cases char using Letter.char_cases with
  | letter letter =>
      rw [rotateChar_none_toChar, Alphabet.isLetter_toChar, Alphabet.isLetter_toChar,
        Letter.alphabet_rotate]
  | other char hnone => rw [rotateChar_of_none hnone]

theorem occursIn_encipher (alphabet : Alphabet) (key : Int64) (text : String) :
    alphabet.occursIn (encipher key text) = alphabet.occursIn text := by
  have hchars : alphabet.isLetter ∘ rotateChar key none = alphabet.isLetter :=
    funext (isLetter_rotateChar alphabet key)
  rw [Alphabet.occursIn, encipher, toList_rotate, List.any_map, hchars, Alphabet.occursIn]

/-! ## Blank characters -/

theorem Letter.not_isBlank_toChar (letter : Letter) : ¬ Text.isBlank letter.toChar := by
  obtain ⟨alphabet, letterCase, index⟩ := letter
  cases alphabet <;> cases letterCase <;> revert index <;> decide +kernel

theorem isBlank_rotateChar (shift : Int64) (only : Option Alphabet) (char : Char) :
    Text.isBlank (rotateChar shift only char) = Text.isBlank char := by
  cases char using Letter.char_cases with
  | letter letter =>
      have hdash : Text.isBlank '-' = false := by decide
      rw [rotateChar_toChar, Bool.eq_false_iff.mpr letter.not_isBlank_toChar]
      by_cases hhidden : only.any (· != letter.alphabet) = true
      · rw [if_pos hhidden, hdash]
      · rw [if_neg hhidden, Bool.eq_false_iff.mpr (letter.rotate shift).not_isBlank_toChar]
  | other char hnone => rw [rotateChar_of_none hnone]

theorem trim_rotate (shift : Int64) (only : Option Alphabet) (text : String) :
    Text.trim (rotate shift only text) = rotate shift only (Text.trim text) :=
  Text.trim_map (isBlank_rotateChar shift only) text

theorem isBlankText_rotate (shift : Int64) (only : Option Alphabet) (text : String) :
    Text.isBlankText (rotate shift only text) = Text.isBlankText text := by
  have hchars : Text.isBlank ∘ rotateChar shift only = Text.isBlank :=
    funext (isBlank_rotateChar shift only)
  rw [Text.isBlankText, toList_rotate, List.all_map, hchars, Text.isBlankText]

theorem rotateChar_eq_newline_iff (shift : Int64) (only : Option Alphabet) (char : Char) :
    rotateChar shift only char = '\n' ↔ char = '\n' := by
  have hnewline : Letter.ofChar? '\n' = none := by decide +kernel
  constructor
  · intro hchar
    cases char using Letter.char_cases with
    | letter letter =>
        -- a line feed is blank, and what a letter is moved to is not
        have hblank := isBlank_rotateChar shift only letter.toChar
        rw [hchar] at hblank
        exact absurd hblank.symm letter.not_isBlank_toChar
    | other char hnone => rwa [rotateChar_of_none hnone] at hchar
  · rintro rfl
    exact rotateChar_of_none hnewline

theorem occursIn_trim (alphabet : Alphabet) (text : String) :
    alphabet.occursIn (Text.trim text) = alphabet.occursIn text := by
  rw [Bool.eq_iff_iff, Alphabet.occursIn_iff, Alphabet.occursIn_iff]
  simp only [Text.mem_toList_trim (Letter.not_isBlank_toChar _)]

/-! ## Rotating one alphabet and hiding the other -/

/-- A text with the letters of the other alphabet hidden behind dashes. -/
def masked (alphabet : Alphabet) (text : String) : String :=
  String.ofList (text.toList.map fun char => if alphabet.other.isLetter char then '-' else char)

theorem masked_eq_rotate (alphabet : Alphabet) (text : String) :
    masked alphabet text = rotate 0 (some alphabet) text := by
  have hchars : (fun char => if alphabet.other.isLetter char then '-' else char) =
      rotateChar 0 (some alphabet) := by
    funext char
    cases char using Letter.char_cases with
    | letter letter =>
        have hother : (alphabet.other == letter.alphabet) = (alphabet != letter.alphabet) := by
          cases alphabet <;> cases letter.alphabet <;> rfl
        rw [rotateChar_toChar, Letter.rotate_zero, Alphabet.isLetter_toChar, hother,
          Option.any_some]
    | other char hnone =>
        rw [rotateChar_of_none hnone, Alphabet.isLetter_of_none hnone,
          if_neg Bool.false_ne_true]
  rw [masked, hchars, rotate]

/-- What a second rotation hides might as well have been hidden by the first. -/
theorem rotate_some_encipher (alphabet : Alphabet) (first second : Int64) (text : String) :
    rotate second (some alphabet) (encipher first text) =
      rotate second (some alphabet) (rotate first (some alphabet) text) := by
  have hchars : rotateChar second (some alphabet) ∘ rotateChar first none =
      rotateChar second (some alphabet) ∘ rotateChar first (some alphabet) := by
    funext char
    show rotateChar second (some alphabet) (rotateChar first none char) =
      rotateChar second (some alphabet) (rotateChar first (some alphabet) char)
    cases char using Letter.char_cases with
    | letter letter =>
        rw [rotateChar_none_toChar]
        by_cases halphabet : alphabet = letter.alphabet
        · rw [halphabet, rotateChar_some_self]
        · rw [rotateChar_some_of_ne first halphabet, rotateChar_dash]
          exact rotateChar_some_of_ne second halphabet
    | other char hnone => simp only [rotateChar_of_none hnone]
  rw [← String.toList_inj, encipher, toList_rotate, toList_rotate, toList_rotate, toList_rotate,
    List.map_map, List.map_map, hchars]

/-- Where an alphabet occurs, a rotation of its letters shows how far it goes. -/
theorem rotate_some_eq_iff {alphabet : Alphabet} {text : String}
    (hoccurs : alphabet.occursIn text) {first second : Int64} :
    rotate first (some alphabet) text = rotate second (some alphabet) text ↔
      first.toInt ≡ second.toInt [ZMOD alphabet.size] := by
  rw [← String.toList_inj, toList_rotate, toList_rotate, List.map_inj_left]
  constructor
  · intro hchars
    obtain ⟨letter, rfl, hmem⟩ := Alphabet.occursIn_iff.mp hoccurs
    have hchar := hchars letter.toChar hmem
    rw [rotateChar_some_self, rotateChar_some_self, Letter.toChar_inj] at hchar
    exact Letter.rotate_eq_rotate_iff.mp hchar
  · intro hshifts char _
    cases char using Letter.char_cases with
    | letter letter =>
        by_cases halphabet : alphabet = letter.alphabet
        · subst halphabet
          rw [rotateChar_some_self, rotateChar_some_self, Letter.rotate_eq_rotate_iff.mpr hshifts]
        · rw [rotateChar_some_of_ne first halphabet, rotateChar_some_of_ne second halphabet]
    | other char hnone => rw [rotateChar_of_none hnone, rotateChar_of_none hnone]

theorem exists_shift_modEq (total : Int) : ∃ shift : Int64, shift.toInt ≡ total [ZMOD 858] := by
  refine ⟨Int64.ofInt (total % 858), ?_⟩
  rw [Int64.toInt_ofInt_of_le (by omega) (by omega)]
  exact Int.mod_modEq total 858

/-! ## What a listing shows -/

theorem toInt_neg_ofNat {shift : Nat} (hshift : shift < 858) :
    (-Int64.ofNat shift).toInt = -(shift : Int) := by
  have hshifted : (Int64.ofNat shift).toInt = shift := Int64.toInt_ofNat_of_lt (by omega)
  have hne : Int64.ofNat shift ≠ Int64.minValue := by
    intro heq
    rw [heq, Int64.toInt_minValue] at hshifted
    omega
  rw [toInt_neg_of_ne hne, hshifted]

/-- A candidate is the plain text moved on by what the key leaves after the shift. -/
theorem exists_rotate_candidate (alphabet : Alphabet) (key : Int64) {shift : Nat}
    (hshift : shift < 858) (plain : String) :
    ∃ total : Int64, total.toInt ≡ key.toInt - shift [ZMOD alphabet.size] ∧
      rotate (-Int64.ofNat shift) (some alphabet) (encipher key plain) =
        rotate total (some alphabet) plain := by
  obtain ⟨total, htotal⟩ := exists_shift_modEq (key.toInt - shift)
  rw [modEq_iff_forall_size] at htotal
  refine ⟨total, htotal alphabet, ?_⟩
  rw [rotate_some_encipher]
  refine rotate_rotate (fun each => ?_) (some alphabet) plain
  rw [toInt_neg_ofNat hshift]
  exact htotal each

theorem Alphabet.size_lt (alphabet : Alphabet) : alphabet.size < 858 := by
  cases alphabet <;> decide

theorem modEq_sub_iff {alphabet : Alphabet} {key : Int} {first second : Nat}
    (hfirst : first < alphabet.size) (hsecond : second < alphabet.size) :
    key - first ≡ key - second [ZMOD alphabet.size] ↔ first = second := by
  cases alphabet <;> simp only [Alphabet.size, Int.ModEq] at * <;> omega

theorem sub_modEq_zero_iff {alphabet : Alphabet} {key : Int} {shift : Nat}
    (hshift : shift < alphabet.size) :
    key - shift ≡ 0 [ZMOD alphabet.size] ↔ (shift : Int) = key % alphabet.size := by
  cases alphabet <;> simp only [Alphabet.size, Int.ModEq] at * <;> omega

/-- How a block is written: under the heading, a text for each shift that moves letters. -/
def blockOf (alphabet : Alphabet) (texts : Nat → String) : String :=
  heading alphabet ++ String.join ((List.range' 1 (alphabet.size - 1)).map fun shift =>
    "Shift " ++ toString shift ++ ": " ++ texts shift ++ "\n")

/-- Texts that are all different, of which the one at the key, and no other, is
the plain text without the blank characters around it. -/
structure Uncovers (alphabet : Alphabet) (key : Int) (plain : String) (texts : Nat → String) :
    Prop where
  distinct : ∀ first second, 1 ≤ first → first < second → second < alphabet.size →
    texts first ≠ texts second
  eq_masked_iff : ∀ shift, 1 ≤ shift → shift < alphabet.size →
    (texts shift = masked alphabet (Text.trim plain) ↔ (shift : Int) = key % alphabet.size)

theorem uncovers_candidates {alphabet : Alphabet} {plain : String}
    (hoccurs : alphabet.occursIn plain) (key : Int64) :
    Uncovers alphabet key.toInt plain fun shift =>
      rotate (-Int64.ofNat shift) (some alphabet) (Text.trim (encipher key plain)) := by
  have htrim : Text.trim (encipher key plain) = encipher key (Text.trim plain) :=
    trim_rotate key none plain
  have hoccursTrim : alphabet.occursIn (Text.trim plain) := (occursIn_trim alphabet plain).trans hoccurs
  have hsize := alphabet.size_lt
  constructor
  · intro first second _ hlt hsecond heq
    obtain ⟨total, htotal, hfirstText⟩ :=
      exists_rotate_candidate alphabet key (show first < 858 by omega) (Text.trim plain)
    obtain ⟨other, hother, hsecondText⟩ :=
      exists_rotate_candidate alphabet key (show second < 858 by omega) (Text.trim plain)
    simp only [htrim] at heq
    rw [hfirstText, hsecondText, rotate_some_eq_iff hoccursTrim] at heq
    have hsame := (modEq_sub_iff (by omega) hsecond).mp ((htotal.symm.trans heq).trans hother)
    omega
  · intro shift _ hshift
    obtain ⟨total, htotal, htext⟩ :=
      exists_rotate_candidate alphabet key (show shift < 858 by omega) (Text.trim plain)
    simp only [htrim]
    rw [htext, masked_eq_rotate, rotate_some_eq_iff hoccursTrim, Int64.toInt_zero,
      ← sub_modEq_zero_iff hshift]
    exact ⟨htotal.symm.trans, htotal.trans⟩

theorem block_eq_blockOf (alphabet : Alphabet) (text : String) :
    block alphabet text = if alphabet.occursIn text then
      blockOf alphabet fun shift => rotate (-Int64.ofNat shift) (some alphabet) text
    else "" := by
  rw [block, hasLetterOf_eq_occursIn, candidates, List.map_map]
  rfl

theorem listing_of_occursIn {alphabet : Alphabet} {text : String}
    (hoccurs : alphabet.occursIn text) :
    listing text = String.join (([.russian, .latin].filter (Alphabet.occursIn · text)).map
      fun alphabet => blockOf alphabet fun shift =>
        rotate (-Int64.ofNat shift) (some alphabet) (Text.trim text)) := by
  have hany : (Alphabet.occursIn .russian text || Alphabet.occursIn .latin text) = true := by
    cases alphabet with
    | latin => rw [hoccurs, Bool.or_true]
    | russian => rw [hoccurs, Bool.true_or]
  simp only [listing, hasLetterOf_eq_occursIn, block_eq_blockOf, occursIn_trim, if_pos hany,
    List.filter_cons, List.filter_nil]
  cases Alphabet.occursIn .russian text <;> cases Alphabet.occursIn .latin text <;> simp

theorem listing_of_not_occursIn {text : String}
    (hnone : ∀ alphabet : Alphabet, ¬ alphabet.occursIn text) :
    listing text = Text.trim text ++ "\n(No Russian or English letters detected)\n" := by
  have hrussian := Bool.eq_false_iff.mpr (hnone .russian)
  have hlatin := Bool.eq_false_iff.mpr (hnone .latin)
  simp only [listing, hasLetterOf_eq_occursIn, occursIn_trim, hrussian, hlatin, Bool.or_self,
    Bool.false_eq_true, if_false]

theorem head_blockOf (alphabet : Alphabet) (texts : Nat → String) :
    (blockOf alphabet texts).toList.head? = some '\n' := by
  have hlead : "\n=== Possible ".toList.head? = some '\n' := by decide +kernel
  delta blockOf heading
  simp only [String.toList_append, List.head?_append, hlead, Option.some_or]

theorem head_listing {alphabet : Alphabet} {text : String} (hoccurs : alphabet.occursIn text) :
    (listing text).toList.head? = some '\n' := by
  rw [listing_of_occursIn hoccurs, List.filter_cons, List.filter_cons, List.filter_nil]
  cases hrussian : Alphabet.occursIn .russian text with
  | true => simp [List.head?_append, head_blockOf]
  | false =>
      have hlatin : Alphabet.occursIn .latin text := by
        cases alphabet with
        | latin => exact hoccurs
        | russian => exact absurd hoccurs (Bool.eq_false_iff.mp hrussian)
      simp [hlatin, head_blockOf]

/-- Blocks start with a line feed, and a trimmed text that has letters does not. -/
theorem listing_ne_of_occursIn {alphabet : Alphabet} {text : String}
    (hoccurs : alphabet.occursIn text) (remark : String) :
    listing text ≠ Text.trim text ++ remark := by
  intro heq
  have hhead := head_listing hoccurs
  have htrimmed : (Text.trim text).toList ≠ [] := by
    obtain ⟨letter, -, hmem⟩ :=
      Alphabet.occursIn_iff.mp ((occursIn_trim alphabet text).trans hoccurs)
    exact List.ne_nil_of_mem hmem
  obtain ⟨first, rest, hfirst⟩ := List.exists_cons_of_ne_nil htrimmed
  rw [heq, String.toList_append, hfirst, List.cons_append, List.head?_cons] at hhead
  obtain rfl : first = '\n' := Option.some.inj hhead
  exact Text.isBlank_of_head_trim (by rw [hfirst, List.head?_cons]) (by decide)

/-- **The listing of a hidden text uncovers it.**  Every alphabet that the plain
text has letters of has its block, the Russian one first.  In a block no two
texts are the same, and just the text at the key is the plain text, trimmed, with
the letters of the other alphabet hidden; so none is when the key moves no letter
of the alphabet.  Only texts without letters are listed with the remark. -/
theorem listing_encipher (key : Int64) (plain : String) :
    (∃ texts : Alphabet → Nat → String,
      (∀ alphabet : Alphabet, alphabet.occursIn plain →
        Uncovers alphabet key.toInt plain (texts alphabet)) ∧
      ((∃ alphabet : Alphabet, alphabet.occursIn plain) →
        listing (encipher key plain) =
          String.join (([.russian, .latin].filter (Alphabet.occursIn · plain)).map
            fun alphabet => blockOf alphabet (texts alphabet)))) ∧
    (listing (encipher key plain) =
        Text.trim (encipher key plain) ++ "\n(No Russian or English letters detected)\n" ↔
      ∀ alphabet : Alphabet, ¬ alphabet.occursIn plain) := by
  have hoccursIn : ∀ alphabet : Alphabet,
      alphabet.occursIn (encipher key plain) = alphabet.occursIn plain :=
    fun alphabet => occursIn_encipher alphabet key plain
  refine ⟨⟨fun alphabet shift =>
    rotate (-Int64.ofNat shift) (some alphabet) (Text.trim (encipher key plain)),
    fun alphabet hoccurs => uncovers_candidates hoccurs key, ?_⟩, ?_⟩
  · rintro ⟨alphabet, hoccurs⟩
    rw [listing_of_occursIn ((hoccursIn alphabet).trans hoccurs)]
    simp only [hoccursIn]
  · constructor
    · intro hlisting alphabet hoccurs
      exact listing_ne_of_occursIn ((hoccursIn alphabet).trans hoccurs) _ hlisting
    · intro hnone
      refine listing_of_not_occursIn fun alphabet => ?_
      rw [hoccursIn]
      exact hnone alphabet

/-- A key that moves the Russian letters of a text and not its Latin ones. -/
theorem listing_encipher_mixed :
    Alphabet.occursIn .russian "  Gb, мир " ∧ Alphabet.occursIn .latin "  Gb, мир " ∧
      ∃ texts : Alphabet → Nat → String,
        listing (encipher 26 "  Gb, мир ") =
          blockOf .russian (texts .russian) ++ blockOf .latin (texts .latin) ∧
        texts .russian 26 = "--, мир" ∧ texts .russian 7 ≠ "--, мир" ∧
        ∀ shift, 1 ≤ shift → shift < 26 → texts .latin shift ≠ "Gb, ---" := by
  have hrussian : Alphabet.occursIn .russian "  Gb, мир " := by decide +kernel
  have hlatin : Alphabet.occursIn .latin "  Gb, мир " := by decide +kernel
  obtain ⟨⟨texts, huncovers, hlisting⟩, -⟩ := listing_encipher 26 "  Gb, мир "
  have hrussianMask : masked .russian (Text.trim "  Gb, мир ") = "--, мир" := by decide +kernel
  have hlatinMask : masked .latin (Text.trim "  Gb, мир ") = "Gb, ---" := by decide +kernel
  have hrussianTexts := (huncovers .russian hrussian).eq_masked_iff
  have hlatinTexts := (huncovers .latin hlatin).eq_masked_iff
  rw [hrussianMask] at hrussianTexts
  rw [hlatinMask] at hlatinTexts
  refine ⟨hrussian, hlatin, texts, ?_, ?_, ?_, ?_⟩
  · rw [hlisting ⟨.latin, hlatin⟩]
    simp only [List.filter_cons, hrussian, hlatin, if_true, List.filter_nil, List.map_cons,
      List.map_nil, String.join_cons, String.join_nil, String.append_empty]
  · exact (hrussianTexts 26 (by decide) (by decide)).mpr (by decide +kernel)
  · rw [ne_eq, hrussianTexts 7 (by decide) (by decide)]
    decide +kernel
  · intro shift hpos hlt heq
    have hkey := (hlatinTexts shift hpos hlt).mp heq
    have hzero : (26 : Int64).toInt % (Alphabet.latin.size : Int) = 0 := by decide +kernel
    omega

end CipherCalc.Cipher
