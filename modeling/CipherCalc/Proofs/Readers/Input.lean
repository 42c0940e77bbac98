import CipherCalc.Proofs.CommandLine.LineReader
import CipherCalc.Readers.Input

/-!
# The lines of piped input

The line editor of this library splits its input into lines while it is still bytes.  It
takes lines as the program relies on (`takesLines_piped`): a line feed is never part of
another character, so the bytes up to it are those of a line, and a line without backspaces
is not edited.
-/

namespace CipherCalc

namespace Text

/-! ## Lines of bytes -/

theorem byteLines_cons_cons {first second : UInt8} (hfeed : first ≠ 10)
    (hreturn : first = 13 → second ≠ 10) {line : List UInt8} {others : List (List UInt8)}
    {rest : List UInt8} (hrest : byteLines (second :: rest) = line :: others) :
    byteLines (first :: second :: rest) = (first :: line) :: others := by
  rw [byteLines, hrest]
  · exact hfeed
  · exact hreturn

theorem byteLines_of_not_mem {bytes : List UInt8} (hnone : 10 ∉ bytes) :
    byteLines bytes = if bytes = [] then [] else [bytes] := by
  induction bytes with
  | nil => rfl
  | cons first rest ih =>
      obtain ⟨hfirst, hrest⟩ := List.ne_and_not_mem_of_not_mem_cons hnone
      rw [if_neg (List.cons_ne_nil first rest)]
      cases rest with
      | nil =>
          rw [byteLines]
          exact Ne.symm hfirst
      | cons second rest =>
          obtain ⟨hsecond, -⟩ := List.ne_and_not_mem_of_not_mem_cons hrest
          refine byteLines_cons_cons (Ne.symm hfirst) (fun _ => Ne.symm hsecond) ?_
          rw [ih hrest, if_neg (List.cons_ne_nil second rest)]

theorem byteLines_append {line : List UInt8} (hline : 10 ∉ line) (rest : List UInt8) :
    byteLines (line ++ 10 :: rest) = withoutLast 13 line :: byteLines rest := by
  induction line with
  | nil => rfl
  | cons first line ih =>
      obtain ⟨hfirst, hline⟩ := List.ne_and_not_mem_of_not_mem_cons hline
      cases line with
      | nil =>
          -- a carriage return and the line feed behind it are read together
          by_cases hreturn : first = 13
          · subst hreturn
            rfl
          · rw [withoutLast_of_ne (by simpa using hreturn)]
            exact byteLines_cons_cons (Ne.symm hfirst) (fun h => absurd h hreturn) rfl
      | cons second line =>
          obtain ⟨hsecond, -⟩ := List.ne_and_not_mem_of_not_mem_cons hline
          rw [withoutLast_cons_cons]
          exact byteLines_cons_cons (Ne.symm hfirst) (fun _ => Ne.symm hsecond) (ih hline)

/-- A carriage return at the end of a line is one at the end of its bytes. -/
theorem withoutLast_encode {byte : UInt8} {char : Char} (hbyte : IsByteOf byte char)
    (chars : List Char) : withoutLast byte (encode chars) = encode (withoutLast char chars) := by
  by_cases hlast : chars.getLast? = some char
  · obtain ⟨front, rfl⟩ := List.getLast?_eq_some_iff.mp hlast
    rw [withoutLast_concat, encode_append, encode_singleton, hbyte.utf8EncodeChar_eq,
      withoutLast_concat]
  · rw [withoutLast_of_ne hlast, withoutLast_of_ne (mt (getLast?_encode_iff hbyte).mp hlast)]

end Text

/-! ## Reads -/

namespace CommandLine

open Text (encode)

theorem eventOf_encode {line : List Char} (hbackspace : '\x08' ∉ line) :
    eventOf (encode line) = .line (String.ofList line) := by
  have hdecode : Text.decode? (encode line) = some (String.ofList line) := by
    rw [Text.decode?_eq_some_iff, String.toList_ofList]
  have hquiet : Text.backspace ∉ (String.ofList line).toList := by
    rwa [String.toList_ofList]
  rw [eventOf, hdecode]
  exact congrArg _ (Text.applyBackspaces_of_not_mem hquiet)

theorem takesLines_piped : LineReader.piped.TakesLines where
  shown_eq _ := rfl
  nil := rfl
  line {line} rest hfeed hbackspace := by
    have hbytes : 10 ∉ encode line := mt (Text.byte_mem_encode_iff Text.isByteOf_newline).mp hfeed
    have hquiet : '\x08' ∉ Text.withoutLast '\r' line := fun hmem =>
      hbackspace (Text.mem_of_mem_withoutLast hmem)
    simp only [LineReader.piped, Text.byteLines_append hbytes, List.map_cons,
      Text.withoutLast_encode Text.isByteOf_return, eventOf_encode hquiet]
  last {line} hne hfeed hbackspace := by
    have hbytes : 10 ∉ encode line := mt (Text.byte_mem_encode_iff Text.isByteOf_newline).mp hfeed
    have hnotNil : encode line ≠ [] := mt Text.encode_eq_nil_iff.mp hne
    simp only [LineReader.piped, Text.byteLines_of_not_mem hbytes, if_neg hnotNil, List.map_cons,
      List.map_nil, eventOf_encode hbackspace]

end CommandLine

end CipherCalc
