import CipherCalc.Proofs.Expr.Spelling
import CipherCalc.Proofs.Fallible
import CipherCalc.Proofs.Text.Runs

/-!
# What the scanner accepts

A text is scanned to a token list exactly when the list is lexically well formed
and the text is a separated layout of it (`scan_eq_ok_iff`).

From layouts to the scanner the induction is on the tokens: a token that fits is
scanned off the front, provided that no numeric character follows a number
(`scanFrom_token`).  Back from the scanner it follows the scanner's own recursion
and builds the layout on the way (`exists_layout_of_scanFrom`).  A number that is
scanned takes every numeric character there is, which is why the next number
cannot follow at once.
-/

namespace CipherCalc.Expr.Token

/-! ## Characters -/

theorem isNumeric_iff (char : Char) : isNumeric char = true ↔ char.isDigit = true ∨ char = '.' := by
  simp [isNumeric]

theorem isNumeric_of_isSpace {char : Char} (hspace : isSpace char = true) :
    isNumeric char = false := by
  simp only [isSpace, Bool.or_eq_true, beq_iff_eq] at hspace
  rcases hspace with ((((rfl | rfl) | rfl) | rfl) | rfl) | rfl <;> rfl

theorem isSpace_of_startsNumber {signed : Bool} {char : Char}
    (hstart : startsNumber signed char = true) : isSpace char = false := by
  by_contra hspace
  rw [Bool.not_eq_false] at hspace
  have hnumeric := isNumeric_of_isSpace hspace
  simp only [startsNumber, hnumeric, Bool.false_or, Bool.and_eq_true, beq_iff_eq] at hstart
  rw [hstart.1] at hspace
  exact absurd hspace (by decide)

/-- A literal, character by character: its first one may be a sign. -/
theorem isLiteral_cons_iff (char : Char) (run : List Char) :
    IsLiteral (char :: run) ↔ (isNumeric char = true ∨ char = '-') ∧
      (∀ other ∈ run, isNumeric other = true) ∧ isWellFormed (char :: run) = true := by
  simp only [isNumeric_iff, isWellFormed, Bool.and_eq_true, decide_eq_true_eq, List.any_eq_true]
  by_cases hsign : char = '-'
  · subst hsign
    simp [IsLiteral, unsigned]
  · have hunsigned : unsigned (char :: run) = char :: run :=
      unsigned_eq_self fun _ hcons => hsign (List.cons.inj hcons).1
    rw [IsLiteral, hunsigned, List.forall_mem_cons]
    tauto

theorem isLiteral_ne_nil {text : List Char} (hliteral : IsLiteral text) : text ≠ [] := by
  rintro rfl
  exact absurd hliteral (by decide)

/-! ## One step of the scanner -/

theorem scanFrom_space {char : Char} (hspace : isSpace char = true) (signed : Bool)
    (position : Nat) (rest : List Char) :
    scanFrom signed position (char :: rest) = scanFrom signed (position + 1) rest := by
  rw [scanFrom, if_pos hspace]

theorem scanFrom_gap (gap : Gap) (signed : Bool) (position : Nat) (rest : List Char) :
    scanFrom signed position (gap.chars ++ rest) =
      scanFrom signed (position + gap.chars.length) rest := by
  obtain ⟨chars, hspace⟩ := gap
  induction chars generalizing position with
  | nil => rfl
  | cons char chars ih =>
      rw [List.forall_mem_cons] at hspace
      rw [List.cons_append, scanFrom_space hspace.1, ih (position + 1) hspace.2]
      simp only [List.length_cons]
      congr 1
      omega

theorem scanFrom_symbol {signed : Bool} {char : Char} {position : Nat} {token : Token}
    (hspace : isSpace char = false) (hstart : startsNumber signed char = false)
    (htoken : ofChar char position = .ok token) (rest : List Char) :
    scanFrom signed position (char :: rest) =
      (scanFrom token.admitsSign (position + 1) rest).map (token :: ·) := by
  rw [scanFrom, if_neg (by simp [hspace]), if_neg (by simp [hstart]), htoken]

/-- A token that fits is scanned, and then the rest is. -/
theorem scanFrom_token {signed : Bool} {token : Token} (hfits : token.Fits signed)
    (position : Nat) {rest : List Char}
    (hrest : (∃ text, token = .number text) → ∀ char ∈ rest.head?, isNumeric char = false) :
    scanFrom signed position (token.text.toList ++ rest) =
      (scanFrom token.admitsSign (position + token.text.toList.length) rest).map (token :: ·) := by
  obtain ⟨hlexeme, hsign, hminus⟩ := hfits
  cases token with
  | number text =>
      obtain ⟨char, run, htext⟩ := List.exists_cons_of_ne_nil (isLiteral_ne_nil hlexeme)
      obtain ⟨hfirst, hrun, hwell⟩ := (isLiteral_cons_iff char run).mp (htext ▸ hlexeme)
      have hstart : startsNumber signed char = true := by
        rcases hfirst with hnumeric | rfl
        · simp [startsNumber, hnumeric]
        · have hadmitted : signed = true := hsign (by simp [IsSigned, htext])
          simp [startsNumber, hadmitted]
      obtain ⟨htake, hdrop⟩ := Text.takeWhile_run_append hrun (hrest ⟨text, rfl⟩)
      rw [Token.text, htext, List.cons_append, scanFrom, if_neg (by
        simp [isSpace_of_startsNumber hstart]), if_pos hstart]
      simp only [htake, hdrop, hwell, if_true]
      rw [← htext, String.ofList_toList]
      rfl
  | operator symbol =>
      rw [Token.text, Char.toString_eq_singleton, String.toList_singleton, List.singleton_append]
      rcases hlexeme with rfl | rfl | rfl | rfl
      case inr.inl =>
        -- a minus sign is an operator only where no sign is admitted
        rw [hminus rfl]
        exact scanFrom_symbol rfl rfl rfl rest
      all_goals exact scanFrom_symbol rfl (by cases signed <;> rfl) rfl rest
  | paren symbol =>
      rw [Token.text, Char.toString_eq_singleton, String.toList_singleton, List.singleton_append]
      rcases hlexeme with rfl | rfl <;>
        exact scanFrom_symbol rfl (by cases signed <;> rfl) rfl rest

/-! ## Every layout is scanned -/

theorem isNumeric_of_operator {symbol : Char} (hlexeme : (operator symbol).IsLexeme) :
    isNumeric symbol = false := by
  rcases hlexeme with rfl | rfl | rfl | rfl <;> rfl

theorem isNumeric_of_paren {symbol : Char} (hlexeme : (paren symbol).IsLexeme) :
    isNumeric symbol = false := by
  rcases hlexeme with rfl | rfl <;> rfl

/-- What a layout has after a number does not go on with it. -/
theorem head_after_number {text : String} {gap : Gap} {rest : List (Token × Gap)}
    (hlexemes : ∀ item ∈ rest, item.1.IsLexeme)
    (hapart : ∀ next ∈ rest.head?, Layout.Apart (.number text, gap) next) :
    ∀ char ∈ (gap.chars ++ Layout.written rest).head?, isNumeric char = false := by
  intro char hchar
  cases hgap : gap.chars with
  | cons space spaces =>
      rw [hgap] at hchar
      obtain rfl : space = char := by simpa using hchar
      exact isNumeric_of_isSpace (gap.isSpace space (by simp [hgap]))
  | nil =>
      rw [hgap, List.nil_append] at hchar
      cases rest with
      | nil => simp at hchar
      | cons next more =>
          obtain ⟨token, after⟩ := next
          have hlexeme : token.IsLexeme := hlexemes (token, after) List.mem_cons_self
          cases token with
          | number other => exact absurd hgap (hapart _ rfl ⟨text, rfl⟩ ⟨other, rfl⟩)
          | operator symbol =>
              obtain rfl : symbol = char := by simpa [Token.text] using hchar
              exact isNumeric_of_operator hlexeme
          | paren symbol =>
              obtain rfl : symbol = char := by simpa [Token.text] using hchar
              exact isNumeric_of_paren hlexeme

theorem scanFrom_written {signed : Bool} {items : List (Token × Gap)}
    (hreadable : Readable signed (items.map Prod.fst)) (hapart : items.IsChain Layout.Apart)
    (position : Nat) :
    scanFrom signed position (Layout.written items) = .ok (items.map Prod.fst) := by
  induction items generalizing signed position with
  | nil => rw [Layout.written_nil, scanFrom]; rfl
  | cons item rest ih =>
      obtain ⟨token, gap⟩ := item
      obtain ⟨hfits, hreadable⟩ := hreadable
      rw [List.isChain_cons] at hapart
      have hlexemes : ∀ item ∈ rest, item.1.IsLexeme := fun item hitem =>
        ((readable_iff_isChain _ _).mp hreadable).1 item.1 (List.mem_map_of_mem hitem)
      rw [Layout.written_cons, scanFrom_token hfits position, scanFrom_gap,
        ih hreadable hapart.2]
      · rfl
      · rintro ⟨text, rfl⟩
        exact head_after_number hlexemes hapart.1

theorem scan_text_of_wellFormed {layout : Layout} (hwell : LexicallyWellFormed layout.tokens)
    (hseparated : layout.Separated) : scan layout.text = .ok layout.tokens := by
  rw [scan, Layout.text, String.toList_ofList, Layout.chars, scanFrom_gap]
  exact scanFrom_written ((readable_iff _).mpr hwell) hseparated _

/-! ## Nothing else is scanned -/

theorem fits_of_isWellFormed {signed : Bool} {char : Char} {run : List Char}
    (hstart : startsNumber signed char = true) (hrun : ∀ other ∈ run, isNumeric other = true)
    (hwell : isWellFormed (char :: run) = true) :
    (number (String.ofList (char :: run))).Fits signed := by
  have hfirst : isNumeric char = true ∨ (char = '-' ∧ signed = true) := by
    simpa [startsNumber] using hstart
  refine ⟨?_, ?_, by simp⟩
  · rw [IsLexeme, String.toList_ofList, isLiteral_cons_iff]
    exact ⟨hfirst.imp_right And.left, hrun, hwell⟩
  · intro hsigned
    have hsign : char = '-' := by simpa [IsSigned] using hsigned
    rcases hfirst with hnumeric | hadmitted
    · rw [hsign] at hnumeric
      exact absurd hnumeric (by decide)
    · exact hadmitted.2

/-- The token of a single character has that character and is no number. -/
theorem fits_of_ofChar {signed : Bool} {char : Char} {position : Nat} {token : Token}
    (hstart : startsNumber signed char = false) (htoken : ofChar char position = .ok token) :
    token.Fits signed ∧ token.text.toList = [char] ∧ ∀ text, token ≠ .number text := by
  unfold ofChar at htoken
  split at htoken
  · next hparen =>
      obtain rfl : paren char = token := by simpa using htoken
      exact ⟨⟨hparen, by simp [IsSigned], by simp⟩, by simp [Token.text], by simp⟩
  · split at htoken
    · next harithmetic =>
        obtain rfl : operator char = token := by simpa using htoken
        refine ⟨⟨?_, by simp [IsSigned], ?_⟩, by simp [Token.text], by simp⟩
        · simpa [isArithmetic, or_assoc, IsLexeme] using harithmetic
        · intro hminus
          obtain rfl : char = '-' := by simpa using hminus
          simpa [startsNumber, isNumeric] using hstart
    · simp at htoken

/-- Where no sign is admitted, a number starts with a numeric character. -/
theorem isNumeric_head_of_fits {text : String} (hfits : (number text).Fits false) :
    ∃ char ∈ text.toList.head?, isNumeric char = true := by
  obtain ⟨hlexeme, hsign, -⟩ := hfits
  obtain ⟨char, run, htext⟩ := List.exists_cons_of_ne_nil (isLiteral_ne_nil hlexeme)
  refine ⟨char, by simp [htext], ?_⟩
  rcases ((isLiteral_cons_iff char run).mp (htext ▸ hlexeme)).1 with hnumeric | rfl
  · exact hnumeric
  · exact absurd (hsign (by simp [IsSigned, htext])) (by simp)

/-- A layout of what follows a number: a number cannot follow at once. -/
theorem head_ne_number {layout : Layout} {rest : List Char}
    (hreadable : Readable false layout.tokens) (hlead : layout.lead.chars = [])
    (hchars : layout.chars = rest.dropWhile isNumeric) (text : String) :
    layout.tokens.head? ≠ some (.number text) := by
  intro hhead
  obtain ⟨more, hmore⟩ := List.head?_eq_some_iff.mp hhead
  rw [hmore] at hreadable
  obtain ⟨char, hchar, hnumeric⟩ := isNumeric_head_of_fits hreadable.1
  have hfirst : (rest.dropWhile isNumeric).head? = some char := by
    obtain ⟨item, items, hitems⟩ := List.map_eq_cons_iff.mp hmore
    rw [← hchars, Layout.chars, hlead, List.nil_append, hitems.1, Layout.written_cons, hitems.2.1]
    simp [Token.text, Option.mem_def.mp hchar]
  have hstop := List.head?_dropWhile_not isNumeric rest
  rw [hfirst] at hstop
  simp [hnumeric] at hstop

theorem exists_layout_of_scanFrom {signed : Bool} {position : Nat} {text : List Char}
    {tokens : List Token} (hscan : scanFrom signed position text = .ok tokens) :
    Readable signed tokens ∧
      ∃ layout : Layout, layout.tokens = tokens ∧ layout.Separated ∧ layout.chars = text := by
  fun_induction scanFrom signed position text generalizing tokens with
  | case1 signed position =>
      obtain rfl : [] = tokens := by simpa using hscan
      exact ⟨trivial, Layout.empty, rfl, List.IsChain.nil, rfl⟩
  | case2 signed position char rest hspace ih =>
      obtain ⟨hreadable, layout, htokens, hseparated, hchars⟩ := ih hscan
      exact ⟨hreadable, layout.indent char hspace, htokens, hseparated, by simp [hchars]⟩
  | case3 signed position char rest hspace hstart literal hwell =>
      rename_i ih
      obtain ⟨following, hrest, rfl⟩ := Fallible.map_eq_ok_iff.mp hscan
      obtain ⟨hreadable, layout, rfl, hseparated, hchars⟩ := ih hrest
      refine ⟨⟨fits_of_isWellFormed hstart (fun _ => List.mem_takeWhile_imp) hwell, hreadable⟩,
        layout.cons _, rfl, ?_, ?_⟩
      · exact Layout.separated_cons hseparated fun _ hlead =>
          head_ne_number hreadable hlead hchars
      · simp [Token.text, literal, hchars]
  | case4 => simp at hscan
  | case5 => simp at hscan
  | case6 signed position char rest hspace hstart token htoken ih =>
      obtain ⟨following, hrest, rfl⟩ := Fallible.map_eq_ok_iff.mp hscan
      obtain ⟨hreadable, layout, rfl, hseparated, hchars⟩ := ih hrest
      obtain ⟨hfits, htext, hnumber⟩ := fits_of_ofChar (by simpa using hstart) htoken
      refine ⟨⟨hfits, hreadable⟩, layout.cons token, rfl, ?_, by simp [htext, hchars]⟩
      exact Layout.separated_cons hseparated fun ⟨text, hnumeral⟩ => absurd hnumeral (hnumber text)

/-! ## The characterization -/

theorem scan_eq_ok_iff_exists_layout (text : String) (tokens : List Token) :
    scan text = .ok tokens ↔ LexicallyWellFormed tokens ∧
      ∃ layout : Layout, layout.tokens = tokens ∧ layout.Separated ∧ layout.text = text := by
  constructor
  · intro hscan
    obtain ⟨hreadable, layout, htokens, hseparated, hchars⟩ := exists_layout_of_scanFrom hscan
    refine ⟨(readable_iff tokens).mp hreadable, layout, htokens, hseparated, ?_⟩
    rw [Layout.text, hchars, String.ofList_toList]
  · rintro ⟨hwell, layout, rfl, hseparated, rfl⟩
    exact scan_text_of_wellFormed hwell hseparated

/-- A listing is one of the layouts of its tokens. -/
theorem scan_listing_iff (tokens : List Token) :
    scan (listing tokens) = .ok tokens ↔ LexicallyWellFormed tokens := by
  rw [scan_eq_ok_iff_exists_layout, and_iff_left]
  exact ⟨Layout.spaced tokens, Layout.tokens_spaced tokens, Layout.separated_spaced tokens,
    Layout.text_spaced tokens⟩

theorem isSpace_of_mem_lexeme {token : Token} (hlexeme : token.IsLexeme) :
    ∀ char ∈ token.text.toList, isSpace char = false := by
  intro char hchar
  cases token with
  | number text =>
      rw [Token.text] at hchar
      obtain ⟨first, run, htext⟩ := List.exists_cons_of_ne_nil (isLiteral_ne_nil hlexeme)
      obtain ⟨hfirst, hrun, -⟩ := (isLiteral_cons_iff first run).mp (htext ▸ hlexeme)
      have hnumeric : isNumeric char = true ∨ char = '-' := by
        rw [htext] at hchar
        rcases List.mem_cons.mp hchar with rfl | hmem
        · exact hfirst
        · exact Or.inl (hrun char hmem)
      exact @isSpace_of_startsNumber true char (by simpa [startsNumber] using hnumeric)
  | operator symbol =>
      obtain rfl : char = symbol := by simpa [Token.text] using hchar
      rcases hlexeme with rfl | rfl | rfl | rfl <;> rfl
  | paren symbol =>
      obtain rfl : char = symbol := by simpa [Token.text] using hchar
      rcases hlexeme with rfl | rfl <;> rfl

/-- Without its gaps, a layout is the texts of its tokens. -/
theorem filter_written {items : List (Token × Gap)} (hlexemes : ∀ item ∈ items, item.1.IsLexeme) :
    (Layout.written items).filter (fun char => !isSpace char) =
      items.flatMap fun item => item.1.text.toList := by
  induction items with
  | nil => rfl
  | cons item rest ih =>
      rw [List.forall_mem_cons] at hlexemes
      have htext : item.1.text.toList.filter (fun char => !isSpace char) = item.1.text.toList :=
        List.filter_eq_self.mpr fun char hchar => by
          simp [isSpace_of_mem_lexeme hlexemes.1 char hchar]
      have hgap : item.2.chars.filter (fun char => !isSpace char) = [] :=
        List.filter_eq_nil_iff.mpr fun char hchar => by simp [item.2.isSpace char hchar]
      rw [Layout.written_cons, List.filter_append, List.filter_append, htext, hgap,
        ih hlexemes.2, List.flatMap_cons, List.nil_append]

/-- No character but spaces is lost, and none is read twice. -/
theorem filter_of_scan {text : String} {tokens : List Token} (hscan : scan text = .ok tokens) :
    text.toList.filter (fun char => !isSpace char) =
      tokens.flatMap fun token => token.text.toList := by
  obtain ⟨hwell, layout, rfl, -, rfl⟩ := (scan_eq_ok_iff_exists_layout text tokens).mp hscan
  have hlead : layout.lead.chars.filter (fun char => !isSpace char) = [] :=
    List.filter_eq_nil_iff.mpr fun char hchar => by simp [layout.lead.isSpace char hchar]
  have hlexemes : ∀ item ∈ layout.items, item.1.IsLexeme := fun item hitem =>
    hwell.lexemes item.1 (List.mem_map_of_mem hitem)
  rw [Layout.text, String.toList_ofList, Layout.chars, List.filter_append, hlead,
    filter_written hlexemes, Layout.tokens, List.flatMap_map, List.nil_append]

/-- **The scanner accepts exactly the layouts of well-formed token lists.**  So
the listing of a token list is scanned to it just when the list is well formed,
and of a scanned text nothing but space characters is missing in the tokens. -/
theorem scan_eq_ok_iff (text : String) (tokens : List Token) :
    (scan text = .ok tokens ↔ LexicallyWellFormed tokens ∧
      ∃ layout : Layout, layout.tokens = tokens ∧ layout.Separated ∧ layout.text = text) ∧
    (scan (listing tokens) = .ok tokens ↔ LexicallyWellFormed tokens) ∧
    (scan text = .ok tokens → text.toList.filter (fun char => !isSpace char) =
      tokens.flatMap fun token => token.text.toList) :=
  ⟨scan_eq_ok_iff_exists_layout text tokens, scan_listing_iff tokens, filter_of_scan⟩

end CipherCalc.Expr.Token
