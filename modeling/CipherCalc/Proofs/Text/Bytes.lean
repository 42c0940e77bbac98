import CipherCalc.Text.Bytes

/-!
# Texts and their bytes

`encode` lists the bytes of characters.  Decoding finds the text of just these
bytes (`decode?_eq_some_iff`), and an encoded text that was not cut shows itself
(`shown_toUTF8`).

An ASCII character is its own byte, and all bytes of other characters are
greater.  So bytes can be searched for an ASCII character before they are decoded
(`byte_mem_encode_iff`, `getLast?_encode_iff`).
-/

namespace CipherCalc.Text

/-! ## Encoding and decoding -/

/-- The bytes of characters in UTF-8. -/
def encode (chars : List Char) : List UInt8 :=
  chars.flatMap String.utf8EncodeChar

@[simp] theorem encode_nil : encode [] = [] := rfl

theorem encode_append (first second : List Char) :
    encode (first ++ second) = encode first ++ encode second :=
  List.flatMap_append

theorem encode_singleton (char : Char) : encode [char] = String.utf8EncodeChar char := by
  rw [encode, List.flatMap_singleton]

theorem encode_eq_nil_iff {chars : List Char} : encode chars = [] ↔ chars = [] := by
  rw [encode, List.flatMap_eq_nil_iff, List.eq_nil_iff_forall_not_mem]
  exact forall₂_congr fun char _ => iff_of_false String.utf8EncodeChar_ne_nil id

theorem toList_data_toByteArray (text : String) :
    text.toByteArray.data.toList = encode text.toList := by
  rw [← String.utf8Encode_toList]
  simp [List.utf8Encode, encode]

theorem decode?_eq_some_iff {bytes : List UInt8} {text : String} :
    decode? bytes = some text ↔ bytes = encode text.toList := by
  rw [← toList_data_toByteArray, decode?, String.fromUTF8?]
  constructor
  · intro hdecode
    split at hdecode
    · obtain rfl := Option.some.inj hdecode
      rfl
    · cases hdecode
  · rintro rfl
    have hvalid : (ByteArray.mk text.toByteArray.data.toList.toArray).IsValidUTF8 :=
      text.isValidUTF8
    rw [dif_pos hvalid]
    rfl

/-! ## ASCII characters among the bytes -/

/-- A byte that is an ASCII character by itself. -/
structure IsByteOf (byte : UInt8) (char : Char) : Prop where
  lt : byte.toNat < 128
  toNat_eq : byte.toNat = char.toNat

theorem isByteOf_newline : IsByteOf 10 '\n' := ⟨by decide, rfl⟩

theorem isByteOf_return : IsByteOf 13 '\r' := ⟨by decide, rfl⟩

/-- A character is one byte, or none of its bytes is an ASCII character. -/
theorem utf8EncodeChar_cases (char : Char) :
    (∃ byte : UInt8, IsByteOf byte char ∧ String.utf8EncodeChar char = [byte]) ∨
      128 ≤ char.toNat ∧ ∀ byte ∈ String.utf8EncodeChar char, 128 ≤ byte.toNat := by
  unfold String.utf8EncodeChar
  dsimp only
  split
  · next hone =>
      left
      have hsize : (UInt8.ofNat char.val.toNat).toNat = char.val.toNat := by
        rw [UInt8.toNat_ofNat']
        omega
      exact ⟨UInt8.ofNat char.val.toNat, ⟨by omega, hsize⟩, rfl⟩
  · next hmore =>
      right
      refine ⟨Nat.not_le.mp hmore, fun byte hmem => ?_⟩
      split at hmem
      · simp only [List.mem_cons, List.not_mem_nil, or_false] at hmem
        rcases hmem with rfl | rfl <;> rw [UInt8.toNat_ofNat'] <;> omega
      · split at hmem
        · simp only [List.mem_cons, List.not_mem_nil, or_false] at hmem
          rcases hmem with rfl | rfl | rfl <;> rw [UInt8.toNat_ofNat'] <;> omega
        · simp only [List.mem_cons, List.not_mem_nil, or_false] at hmem
          rcases hmem with rfl | rfl | rfl | rfl <;> rw [UInt8.toNat_ofNat'] <;> omega

theorem IsByteOf.utf8EncodeChar_eq {byte : UInt8} {char : Char} (hbyte : IsByteOf byte char) :
    String.utf8EncodeChar char = [byte] := by
  rcases utf8EncodeChar_cases char with ⟨other, hother, hencode⟩ | ⟨hlarge, -⟩
  · rw [hencode, UInt8.toNat_inj.mp (hother.toNat_eq.trans hbyte.toNat_eq.symm)]
  · have hsmall := hbyte.lt
    rw [hbyte.toNat_eq] at hsmall
    exact absurd hsmall (Nat.not_lt.mpr hlarge)

theorem IsByteOf.mem_utf8EncodeChar_iff {byte : UInt8} {char : Char}
    (hbyte : IsByteOf byte char) {other : Char} :
    byte ∈ String.utf8EncodeChar other ↔ other = char := by
  constructor
  · intro hmem
    rcases utf8EncodeChar_cases other with ⟨single, hsingle, hencode⟩ | ⟨-, hlarge⟩
    · rw [hencode, List.mem_singleton] at hmem
      subst hmem
      exact Char.toNat_inj.mp (hsingle.toNat_eq.symm.trans hbyte.toNat_eq)
    · exact absurd hbyte.lt (Nat.not_lt.mpr (hlarge byte hmem))
  · rintro rfl
    rw [hbyte.utf8EncodeChar_eq]
    exact List.mem_singleton_self byte

theorem byte_mem_encode_iff {byte : UInt8} {char : Char} (hbyte : IsByteOf byte char)
    {chars : List Char} : byte ∈ encode chars ↔ char ∈ chars := by
  rw [encode, List.mem_flatMap]
  constructor
  · rintro ⟨other, hmem, hother⟩
    rwa [← hbyte.mem_utf8EncodeChar_iff.mp hother]
  · exact fun hmem => ⟨char, hmem, hbyte.mem_utf8EncodeChar_iff.mpr rfl⟩

theorem getLast?_encode_iff {byte : UInt8} {char : Char} (hbyte : IsByteOf byte char)
    {chars : List Char} : (encode chars).getLast? = some byte ↔ chars.getLast? = some char := by
  rcases List.eq_nil_or_concat chars with rfl | ⟨front, last, rfl⟩
  · exact iff_of_false (by simp) (by simp)
  · rw [List.concat_eq_append, encode_append, encode_singleton,
      List.getLast?_append, Option.or_of_isSome (by simp), List.getLast?_concat,
      Option.some.injEq]
    constructor
    · exact fun hlast => hbyte.mem_utf8EncodeChar_iff.mp (List.mem_of_getLast? hlast)
    · rintro rfl
      rw [hbyte.utf8EncodeChar_eq, List.getLast?_singleton]

/-! ## Showing an encoded text -/

theorem shownFrom_append (front : ByteArray) (chars : List Char) :
    shownFrom (front ++ chars.utf8Encode) front.size = chars := by
  induction chars generalizing front with
  | nil =>
      rw [shownFrom, if_neg]
      simp
  | cons char rest ih =>
      have hdecode : (front ++ (char :: rest).utf8Encode).utf8DecodeChar? front.size =
          some char := by
        rw [ByteArray.utf8DecodeChar?_eq_utf8DecodeChar?_extract,
          ByteArray.extract_append_eq_right rfl ByteArray.size_append,
          List.utf8DecodeChar?_utf8Encode_cons]
      have hlt : front.size < (front ++ (char :: rest).utf8Encode).size :=
        ByteArray.lt_size_of_isSome_utf8DecodeChar? (Option.isSome_of_eq_some hdecode)
      have hsize : (front ++ [char].utf8Encode).size = front.size + char.utf8Size := by
        rw [ByteArray.size_append, List.utf8Encode_singleton]
        simp
      have hnext := ih (front ++ [char].utf8Encode)
      rw [ByteArray.append_assoc, ← List.utf8Encode_cons, hsize] at hnext
      rw [shownFrom, if_pos hlt, hdecode]
      exact congrArg (char :: ·) hnext

/-- An encoded text shows itself. -/
theorem shown_toUTF8 (text : String) : shown text.toUTF8 = text := by
  have hshown := shownFrom_append ByteArray.empty text.toList
  rw [ByteArray.empty_append, String.utf8Encode_toList] at hshown
  show String.ofList (shownFrom text.toByteArray 0) = text
  rw [show (0 : Nat) = ByteArray.empty.size from rfl, hshown, String.ofList_toList]

end CipherCalc.Text
