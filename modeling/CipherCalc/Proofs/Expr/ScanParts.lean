import CipherCalc.Proofs.Expr.Scanner

/-!
# Scanning a text in parts

A text can be scanned part by part: the scanner takes nothing with it from the
first part but whether a sign is admitted, and its position, which only matters
for the report of a refused character.  The one condition is that no number runs
across the border (`scanFrom_append`).
-/

namespace CipherCalc.Expr

/-- The same error, found further on in a longer text. -/
def Error.shift (distance : Nat) : Error → Error
  | .invalidCharacter char position => .invalidCharacter char (position + distance)
  | error => error

namespace Token

/-! ## Positions -/

theorem ofChar_add (char : Char) (position distance : Nat) :
    ofChar char (position + distance) =
      (ofChar char position).mapError (Error.shift distance) := by
  unfold ofChar
  split
  · rfl
  · split <;> rfl

theorem scanFrom_add (signed : Bool) (position distance : Nat) (text : List Char) :
    scanFrom signed (position + distance) text =
      (scanFrom signed position text).mapError (Error.shift distance) := by
  fun_induction scanFrom signed position text with
  | case1 signed position => rw [scanFrom]; rfl
  | case2 signed position char rest hspace ih =>
      rw [scanFrom_space hspace, ← ih, Nat.add_right_comm]
  | case3 signed position char rest hspace hstart literal hwell =>
      rename_i ih
      rw [scanFrom, if_neg hspace, if_pos hstart, if_pos hwell, Fallible.mapError_map, ← ih,
        Nat.add_right_comm]
  | case4 signed position char rest hspace hstart literal hwell =>
      rw [scanFrom, if_neg hspace, if_pos hstart, if_neg hwell]
      rfl
  | case5 signed position char rest hspace hstart error herror =>
      rw [scanFrom, if_neg hspace, if_neg hstart, ofChar_add, herror]
      rfl
  | case6 signed position char rest hspace hstart token htoken ih =>
      rw [scanFrom, if_neg hspace, if_neg hstart, ofChar_add, htoken, Fallible.mapError_map, ← ih]
      simp only [Except.mapError, Nat.add_right_comm]

/-- A scan that starts further on reports a refused character further on. -/
theorem scanFrom_eq_shift (signed : Bool) (position : Nat) (text : List Char) :
    scanFrom signed position text =
      (scanFrom signed 0 text).mapError (Error.shift position) := by
  rw [← scanFrom_add, Nat.zero_add]

/-! ## Parts -/

/-- Whether a sign is admitted after some tokens. -/
def signedAfter (signed : Bool) : List Token → Bool
  | [] => signed
  | token :: rest => signedAfter token.admitsSign rest

/-- A text whose second part does not go on with a number is scanned part by
part. -/
theorem scanFrom_append (signed : Bool) (position : Nat) (first : List Char) {second : List Char}
    (hsecond : ∀ char ∈ second.head?, isNumeric char = false) :
    scanFrom signed position (first ++ second) =
      (scanFrom signed position first).bind fun tokens =>
        (scanFrom (signedAfter signed tokens) (position + first.length) second).map
          (tokens ++ ·) := by
  fun_induction scanFrom signed position first with
  | case1 signed position =>
      show scanFrom signed position second = (scanFrom signed position second).map id
      rw [Except.map_id]
      rfl
  | case2 signed position char rest hspace ih =>
      rw [List.cons_append, scanFrom_space hspace, ih, List.length_cons, Nat.add_assoc,
        Nat.add_comm 1]
  | case3 signed position char rest hspace hstart literal hwell =>
      rename_i ih
      -- the literal ends in the first part, even when it ends the first part
      obtain ⟨htake, hdrop⟩ := Text.takeWhile_append_of_stop rest hsecond
      have hlength : position + literal.length + (rest.dropWhile isNumeric).length =
          position + (char :: rest).length := by
        have hsplit : rest.takeWhile isNumeric ++ rest.dropWhile isNumeric = rest :=
          List.takeWhile_append_dropWhile
        have hlengths := congrArg List.length hsplit
        rw [List.length_append] at hlengths
        simp only [literal, List.length_cons]
        omega
      rw [List.cons_append, scanFrom, if_neg hspace, if_pos hstart, htake, if_pos hwell, hdrop, ih,
        Fallible.map_bind, Fallible.bind_map]
      simp only [Fallible.map_map, hlength]
      rfl
  | case4 signed position char rest hspace hstart literal hwell =>
      rw [List.cons_append, scanFrom, if_neg hspace, if_pos hstart,
        (Text.takeWhile_append_of_stop rest hsecond).1, if_neg hwell]
      rfl
  | case5 signed position char rest hspace hstart error herror =>
      rw [List.cons_append, scanFrom, if_neg hspace, if_neg hstart, herror]
      rfl
  | case6 signed position char rest hspace hstart token htoken ih =>
      rw [List.cons_append, scanFrom_symbol (by simpa using hspace) (by simpa using hstart) htoken,
        ih, Fallible.map_bind, Fallible.bind_map]
      simp only [Fallible.map_map, List.cons_append, signedAfter, List.length_cons, Nat.add_assoc,
        Nat.add_comm 1]

theorem scanFrom_open (signed : Bool) (position : Nat) (rest : List Char) :
    scanFrom signed position ('(' :: rest) =
      (scanFrom true (position + 1) rest).map (paren '(' :: ·) :=
  scanFrom_symbol rfl (by cases signed <;> rfl) rfl rest

theorem scanFrom_close (signed : Bool) (position : Nat) (rest : List Char) :
    scanFrom signed position (')' :: rest) =
      (scanFrom false (position + 1) rest).map (paren ')' :: ·) :=
  scanFrom_symbol rfl (by cases signed <;> rfl) rfl rest

/-- **What is around a group is scanned as if the group had another content.**
Only the positions behind it depend on the length of its content. -/
theorem scan_group {content : String} {inner : List Token} (hcontent : scan content = .ok inner)
    (before after : String) :
    scan (before ++ "(" ++ content ++ ")" ++ after) =
      (scan before).bind fun first =>
        ((scanFrom false 0 after.toList).mapError
          (Error.shift (before.length + content.length + 2))).map fun last =>
            first ++ paren '(' :: (inner ++ paren ')' :: last) := by
  have hchars : (before ++ "(" ++ content ++ ")" ++ after).toList =
      before.toList ++ '(' :: (content.toList ++ ')' :: after.toList) := by simp
  have hinner : ∀ position, scanFrom true position content.toList = .ok inner := by
    intro position
    rw [scanFrom_eq_shift, ← scan, hcontent]
    rfl
  rw [scan, hchars, scanFrom_append true 0 before.toList (by simp [isNumeric]), ← scan]
  congr 1
  funext first
  rw [scanFrom_open, scanFrom_append true _ content.toList (by simp [isNumeric]), hinner]
  have hposition : 0 + before.toList.length + 1 + content.toList.length + 1 =
      before.length + content.length + 2 := by
    simp only [String.length_toList]
    omega
  simp only [Except.bind, scanFrom_close, Fallible.map_map, hposition]
  rw [scanFrom_eq_shift]

/-! ## Refused characters -/

theorem ofChar_eq_error {char : Char} {position : Nat} {error : Error}
    (herror : ofChar char position = .error error) :
    error = .invalidCharacter char position := by
  unfold ofChar at herror
  split at herror
  · simp at herror
  · split at herror
    · simp at herror
    · exact (Except.error.inj herror).symm

/-- A refused character stands where it is reported. -/
theorem getElem?_of_scanFrom {signed : Bool} {position : Nat} {text : List Char} {char : Char}
    {index : Nat} (hscan : scanFrom signed position text = .error (.invalidCharacter char index)) :
    ∃ offset, index = position + offset ∧ text[offset]? = some char := by
  fun_induction scanFrom signed position text with
  | case1 signed position => simp at hscan
  | case2 signed position head rest hspace ih =>
      obtain ⟨offset, rfl, hchar⟩ := ih hscan
      exact ⟨offset + 1, by omega, hchar⟩
  | case3 signed position head rest hspace hstart literal hwell =>
      rename_i ih
      obtain ⟨offset, rfl, hchar⟩ := ih (Fallible.map_eq_error_iff.mp hscan)
      refine ⟨literal.length + offset, Nat.add_assoc _ _ _, ?_⟩
      have htext : head :: rest = literal ++ rest.dropWhile isNumeric := by
        simp [literal, List.takeWhile_append_dropWhile]
      rw [htext, List.getElem?_append_right (Nat.le_add_right _ _), Nat.add_sub_cancel_left, hchar]
  | case4 signed position head rest hspace hstart literal hwell => simp at hscan
  | case5 signed position head rest hspace hstart error herror =>
      have hfound := (ofChar_eq_error herror).symm.trans (Except.error.inj hscan)
      obtain ⟨rfl, rfl⟩ := Error.invalidCharacter.inj hfound
      exact ⟨0, rfl, rfl⟩
  | case6 signed position head rest hspace hstart token htoken ih =>
      obtain ⟨offset, rfl, hchar⟩ := ih (Fallible.map_eq_error_iff.mp hscan)
      exact ⟨offset + 1, by omega, hchar⟩

end Token

end CipherCalc.Expr
