import CipherCalc.Proofs.Readers.Value
import CipherCalc.Proofs.Settings.Line
import CipherCalc.Proofs.Text.Runs
import CipherCalc.Readers

/-!
# The reader of settings documents

The reader of settings documents of this library reads them as the program relies on
(`readsDocuments_standard`).  It splits a text into its lines at once (`lines_append`), so a
line in front of a text is one more row of it; and how a line is read only depends on its key
and on the text behind the equals sign, whatever the spacing (`IsAssignment.assignment?_eq`).
-/

namespace CipherCalc.Settings

variable {key line newline rest tail text : List Char} {char : Char}

/-! ## Ends of lines -/

theorem isGap_iff : isGap char = true ↔ char = ' ' ∨ char = '\t' := by
  simp [isGap]

theorem isPlain_iff :
    isPlain char = true ↔ (char.toNat < 0x20 ∨ char.toNat = 0x7F → char = '\t') := by
  have hspace : ' ' ≤ char ↔ 0x20 ≤ char.toNat := Iff.rfl
  have hdelete : char = '\x7F' ↔ char.toNat = 0x7F := Char.toNat_inj.symm
  simp only [isPlain, Bool.or_eq_true, beq_iff_eq, Bool.and_eq_true, decide_eq_true_eq, bne_iff_ne,
    ne_eq, hspace, hdelete]
  by_cases htab : char = '\t'
  · simp [htab]
  · simp only [htab, false_or, imp_false]
    omega

theorem isGap_of_isSpacing (hspacing : IsSpacing text) : ∀ char ∈ text, isGap char = true :=
  fun char hmem => isGap_iff.mpr (hspacing char hmem)

theorem dropWhile_isGap_append (hspacing : IsSpacing text)
    (hrest : ∀ char ∈ rest.head?, isGap char = false) : (text ++ rest).dropWhile isGap = rest :=
  (Text.takeWhile_run_append (isGap_of_isSpacing hspacing) hrest).2

theorem IsTail.isLineEnd_eq (htail : IsTail text) : isLineEnd text = true := by
  unfold isLineEnd
  cases htail with
  | spacing _ hspacing => rw [List.dropWhile_eq_nil_iff.mpr (isGap_of_isSpacing hspacing)]
  | comment _ _ hspacing hcomment =>
      rw [dropWhile_isGap_append hspacing (by simp [isGap])]
      exact List.all_eq_true.mpr fun char hmem => isPlain_iff.mpr (hcomment char hmem)

theorem IsSpacing.head?_append (hspacing : IsSpacing text) {next : Char} :
    ∀ char ∈ (text ++ next :: rest).head?, char = ' ' ∨ char = '\t' ∨ char = next := by
  intro char hchar
  rw [List.head?_append, Option.mem_def, Option.or_eq_some_iff] at hchar
  rcases hchar with hchar | ⟨-, hchar⟩
  · exact (hspacing char (List.mem_of_mem_head? hchar)).imp_right .inl
  · exact .inr (.inr (Option.some.inj hchar).symm)

theorem IsTail.isValueChar_head (htail : IsTail tail) :
    ∀ char ∈ tail.head?, isValueChar char = false := by
  intro char hchar
  cases htail with
  | spacing _ hspacing =>
      rcases hspacing char (List.mem_of_mem_head? hchar) with rfl | rfl <;> rfl
  | comment _ _ hspacing hcomment =>
      rcases hspacing.head?_append char hchar with rfl | rfl | rfl <;> rfl

/-! ## Keys -/

theorem isBare_iff : isBare char = true ↔ char.isAlphanum ∨ char = '_' ∨ char = '-' := by
  simp [isBare, or_assoc]

theorem isGap_of_isBare (hbare : isBare char = true) : isGap char = false := by
  refine Bool.eq_false_iff.mpr fun hgap => ?_
  rcases isGap_iff.mp hgap with rfl | rfl <;> exact absurd hbare (by decide)

theorem IsBareKey.exists_cons (hkey : IsBareKey key) :
    ∃ first others, key = first :: others ∧ isBare first = true := by
  obtain ⟨hne, hbare⟩ := hkey
  obtain ⟨first, others, rfl⟩ := List.exists_cons_of_ne_nil hne
  exact ⟨first, others, rfl, isBare_iff.mpr (hbare first List.mem_cons_self)⟩

theorem key?_append (hkey : IsBareKey key) (hrest : ∀ char ∈ rest.head?, isBare char = false) :
    key? (key ++ rest) = some (key, rest) := by
  have hrun := Text.takeWhile_run_append (fun char hmem => isBare_iff.mpr (hkey.2 char hmem)) hrest
  obtain ⟨first, others, rfl, hfirst⟩ := hkey.exists_cons
  unfold key?
  split
  case h_1 htext =>
    obtain ⟨rfl, -⟩ := List.cons.inj htext
    exact absurd hfirst (by decide)
  case h_2 htext =>
    obtain ⟨rfl, -⟩ := List.cons.inj htext
    exact absurd hfirst (by decide)
  case h_3 =>
    rw [List.span_eq_takeWhile_dropWhile, hrun.1, hrun.2]

/-! ## Assignments -/

/-- The key of an assignment comes first, and then its equals sign. -/
theorem IsAssignment.dropWhile_eq (hassigns : IsAssignment key text line) (hkey : IsBareKey key) :
    ∃ after gap tail, IsSpacing after ∧ IsSpacing gap ∧ IsTail tail ∧
      line.dropWhile isGap = key ++ (after ++ '=' :: (gap ++ (text ++ tail))) := by
  obtain ⟨before, after, gap, tail, hbefore, hafter, hgap, htail, rfl⟩ := hassigns
  refine ⟨after, gap, tail, hafter, hgap, htail, ?_⟩
  obtain ⟨first, others, rfl, hfirst⟩ := hkey.exists_cons
  simp only [List.append_assoc]
  refine dropWhile_isGap_append hbefore fun char hchar => ?_
  obtain rfl : first = char := Option.some.inj hchar
  exact isGap_of_isBare hfirst

theorem IsAssignment.isLineEnd_eq (hassigns : IsAssignment key text line) (hkey : IsBareKey key) :
    isLineEnd line = false := by
  obtain ⟨after, gap, tail, -, -, -, hline⟩ := hassigns.dropWhile_eq hkey
  obtain ⟨first, others, rfl, hfirst⟩ := hkey.exists_cons
  unfold isLineEnd
  rw [hline]
  split
  case h_1 hnil => cases hnil
  case h_2 hcomment =>
    obtain ⟨rfl, -⟩ := List.cons.inj hcomment
    exact absurd hfirst (by decide)
  case h_3 => rfl

theorem isValueChar_of_ne (hspace : char ≠ ' ') (htab : char ≠ '\t') (hsign : char ≠ '#') :
    isValueChar char = true := by
  simp [isValueChar, isGap, hspace, htab, hsign]

theorem IsToken.isValueChar (htoken : IsToken text) : ∀ char ∈ text, isValueChar char = true := by
  intro char hmem
  have hchar := htoken.2 char hmem
  refine isValueChar_of_ne ?_ ?_ ?_ <;>
    · rintro rfl
      exact absurd hchar (by decide)

/-- What is read as a value is a token, so no other texts are legible. -/
theorem IsLegible.isToken (hlegible : IsLegible value? text) : IsToken text := by
  rcases hlegible with htoken | hvalue
  · exact htoken
  · obtain ⟨value, hvalue⟩ := Option.isSome_iff_exists.mp hvalue
    cases hswitch : switch? text with
    | some switch =>
        rw [switch?_eq_some_iff.mp hswitch]
        cases switch <;> decide
    | none =>
        obtain ⟨integer, hinteger, -⟩ := exists_integer?_of_value? hvalue hswitch
        exact (isInteger_of_integer? hinteger).isToken

/-- How a line is read that assigns a text to a key. -/
theorem IsAssignment.assignment?_eq (hassigns : IsAssignment key text line) (hkey : IsBareKey key)
    (hlegible : IsLegible value? text) : assignment? line = (value? text).map (key, ·) := by
  obtain ⟨after, gap, tail, hafter, hgap, htail, hline⟩ := hassigns.dropWhile_eq hkey
  have htoken := hlegible.isToken
  have hvalue := htoken.isValueChar
  -- the key ends before the spacing or the equals sign, neither of which is bare
  have hkeyStop : ∀ char ∈ (after ++ '=' :: (gap ++ (text ++ tail))).head?, isBare char = false := by
    intro char hchar
    rcases hafter.head?_append char hchar with rfl | rfl | rfl <;> rfl
  have hequals : ∀ char ∈ ('=' :: (gap ++ (text ++ tail))).head?, isGap char = false := by
    simp [isGap]
  have htextStop : ∀ char ∈ (text ++ tail).head?, isGap char = false := by
    intro char hchar
    rw [List.head?_append_of_ne_nil _ htoken.1] at hchar
    have hchar := hvalue char (List.mem_of_mem_head? hchar)
    rw [isValueChar, Bool.and_eq_true, Bool.not_eq_true'] at hchar
    exact hchar.1
  obtain ⟨htake, hdrop⟩ := Text.takeWhile_run_append hvalue htail.isValueChar_head
  rw [assignment?, hline, key?_append hkey hkeyStop]
  simp only [Option.bind_eq_bind, Option.bind_some, dropWhile_isGap_append hafter hequals,
    dropWhile_isGap_append hgap htextStop, List.span_eq_takeWhile_dropWhile, htake, hdrop,
    htail.isLineEnd_eq, if_true]

/-! ## Lines of a text -/

theorem lines_append (hline : IsUnbroken line) (hnewline : IsNewline newline) (rest : List Char) :
    lines (line ++ newline ++ rest) = line :: lines rest := by
  induction line with
  | nil => rcases hnewline with rfl | rfl <;> rfl
  | cons char line ih =>
      rw [IsUnbroken, List.forall_mem_cons] at hline
      obtain ⟨⟨hlineFeed, hcarriageReturn⟩, hline⟩ := hline
      rw [List.cons_append, List.cons_append,
        lines.eq_4 _ _ hlineFeed fun _ hchar _ => hcarriageReturn hchar, ih hline]

theorem lines_of_isUnbroken (hline : IsUnbroken line) : lines line = [line] := by
  induction line with
  | nil => rfl
  | cons char line ih =>
      rw [IsUnbroken, List.forall_mem_cons] at hline
      obtain ⟨⟨hlineFeed, hcarriageReturn⟩, hline⟩ := hline
      rw [lines.eq_4 _ _ hlineFeed fun _ hchar _ => hcarriageReturn hchar, ih hline]

theorem withoutMark_eq (htext : text.head? ≠ some mark) : withoutMark text = text := by
  unfold withoutMark
  split
  · exact absurd rfl htext
  · rfl

theorem table?_eq (htext : text.head? ≠ some mark) : table? text = tableOfLines? (lines text) := by
  rw [table?, withoutMark_eq htext]

/-- A row in front of a text is the first of its lines. -/
theorem table?_append (hline : IsRow line) (hnewline : IsNewline newline)
    (hrest : rest.head? ≠ some mark) :
    table? (line ++ newline ++ rest) =
      if isLineEnd line then table? rest
      else (assignment? line).bind fun row => (table? rest).bind (Table.add? row.1 row.2) := by
  have htext : (line ++ newline ++ rest).head? ≠ some mark := by
    rw [List.append_assoc, List.head?_append, ne_eq, Option.or_eq_some_iff, not_or]
    refine ⟨hline.head?_ne, fun hmark => ?_⟩
    rcases hnewline with rfl | rfl <;> exact absurd (Option.some.inj hmark.2) (by decide)
  rw [table?_eq htext, lines_append hline.isUnbroken hnewline, table?_eq hrest, tableOfLines?]
  rfl

theorem readsTables_table? : ReadsTables table? value? where
  nil := rfl
  tail hline hnewline hrest := by
    rw [table?_append hline.isRow hnewline hrest, if_pos hline.isLineEnd_eq]
  assignment hkey hassigns hlegible hline hnewline hrest := by
    rw [table?_append (hassigns.isRow hkey hline) hnewline hrest,
      if_neg (by rw [hassigns.isLineEnd_eq hkey]; exact Bool.false_ne_true),
      hassigns.assignment?_eq hkey hlegible, Option.bind_map]
    rfl
  unended {line} hline := by
    rw [← List.append_nil (line ++ ['\n']), table?_append hline (.inl rfl) (by simp),
      table?_eq hline.head?_ne, lines_of_isUnbroken hline.isUnbroken]
    rfl

/-! ## Filling the settings -/

theorem ofKey?_key (field : Field) : Field.ofKey? field.key = some field := by
  cases field <;> rfl

theorem ofKey?_of_unknown (hunknown : ∀ field : Field, field.key ≠ key) :
    Field.ofKey? key = none := by
  rw [Field.ofKey?, List.find?_eq_none]
  exact fun field _ hkey => hunknown field (of_decide_eq_true hkey)

theorem fillsSettings_ofTable? : FillsSettings ofTable? where
  nil := rfl
  unknown hunknown value table := by
    rw [ofTable?, ofKey?_of_unknown hunknown]
    rfl
  field field value table _ := by
    rw [ofTable?, ofKey?_key]
    rfl

/-- The reader of settings documents of this library reads them as the program relies on. -/
theorem readsDocuments_standard :
    ReadsDocuments CommandLine.Readers.standard.settings? table? value? ofTable? where
  settings?_eq _ := rfl
  tables := readsTables_table?
  values := readsValues_value?
  fills := fillsSettings_ofTable?

end CipherCalc.Settings
