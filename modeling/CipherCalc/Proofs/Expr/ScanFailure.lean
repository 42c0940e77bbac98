import CipherCalc.Proofs.Expr.ScanParts

/-!
# Why a text cannot be scanned

A text has one token list or one first defect.  `Unscannable` says what the
defect is: a character that no token contains, or a number without a digit or
with a second point, and in both cases the text before it can be scanned.

The scanner remembers nothing of what it has passed but whether a sign is
admitted, so what fails at some place of a text fails at the start of what is
left there (`FailsAtOnce`).  The one thing to be shown on the way is that the
place is not inside of a number (`scanFrom_append_of_last`,
`failsSomewhere_of_scanFrom`).
-/

namespace CipherCalc.Expr

open Token

/-- The defect that a text has first.  Characters are counted from 0. -/
inductive Unscannable (text : String) : Error → Prop
  /-- A character that no token contains. -/
  | foreign {char : Char} {position : Nat} {tokens : List Token} :
      scan (String.ofList (text.toList.take position)) = .ok tokens →
      text.toList[position]? = some char →
      char ∉ [' ', '\t', '\n', '\r', '\x0B', '\x0C'] →
      ¬ char.isDigit →
      char ∉ ['.', '+', '-', '*', '/', '(', ')'] →
      Unscannable text (.invalidCharacter char position)
  /-- A number that is not one: it starts where no number is under way, goes on
  as far as there are digits and points, and has two points or no digit. -/
  | malformed {index : Nat} {start : Char} {literal : String} {tokens : List Token} :
      scan (String.ofList (text.toList.take index)) = .ok tokens →
      (∀ previous ∈ (text.toList.take index).getLast?, ¬ (previous.isDigit ∨ previous = '.')) →
      text.toList[index]? = some start →
      (start.isDigit ∨ start = '.' ∨
        start = '-' ∧ ∀ last ∈ tokens.getLast?,
          (∃ symbol, last = .operator symbol) ∨ last = .paren '(') →
      literal.toList = start :: (text.toList.drop (index + 1)).takeWhile
        (fun char => char.isDigit || char == '.') →
      (2 ≤ literal.toList.count '.' ∨ ∀ char ∈ literal.toList, ¬ char.isDigit) →
      Unscannable text (.malformedNumber literal)

namespace Token

/-! ## Failures at once -/

/-- Scanning fails at the first character, for a character that no token
contains or for the number that it starts. -/
def FailsAtOnce (signed : Bool) (position : Nat) (char : Char) (rest : List Char)
    (error : Error) : Prop :=
  if startsNumber signed char then
    isWellFormed (char :: rest.takeWhile isNumeric) = false ∧
      error = .malformedNumber (String.ofList (char :: rest.takeWhile isNumeric))
  else isSpace char = false ∧ ofChar char position = .error error

theorem FailsAtOnce.scanFrom_eq {signed : Bool} {position : Nat} {char : Char} {rest : List Char}
    {error : Error} (hfails : FailsAtOnce signed position char rest error) :
    scanFrom signed position (char :: rest) = .error error := by
  unfold FailsAtOnce at hfails
  split at hfails
  · next hstart =>
      obtain ⟨hbad, rfl⟩ := hfails
      rw [scanFrom, if_neg (by simp [isSpace_of_startsNumber hstart]), if_pos hstart,
        if_neg (by simp [hbad])]
  · next hstart =>
      obtain ⟨hspace, herror⟩ := hfails
      rw [scanFrom, if_neg (by simp [hspace]), if_neg hstart, herror]

theorem FailsAtOnce.kind {signed : Bool} {position : Nat} {char : Char} {rest : List Char}
    {error : Error} (hfails : FailsAtOnce signed position char rest error) :
    (∃ other index, error = .invalidCharacter other index) ∨
      ∃ literal, error = .malformedNumber literal := by
  unfold FailsAtOnce at hfails
  split at hfails
  · exact .inr ⟨_, hfails.2⟩
  · exact .inl ⟨char, position, ofChar_eq_error hfails.2⟩

/-! ## Places outside of numbers -/

theorem getLast?_append_of_mem (first : List Char) {second : List Char} {last : Char}
    (hlast : last ∈ second.getLast?) : last ∈ (first ++ second).getLast? := by
  rw [Option.mem_def] at hlast
  rw [List.getLast?_append, hlast]
  rfl

/-- A number that is followed by something else ends there, whatever follows
that. -/
theorem takeWhile_append_of_dropWhile {rest : List Char} (hrest : rest.dropWhile isNumeric ≠ [])
    (second : List Char) :
    (rest ++ second).takeWhile isNumeric = rest.takeWhile isNumeric ∧
      (rest ++ second).dropWhile isNumeric = rest.dropWhile isNumeric ++ second := by
  have hhead : ∀ char ∈ (rest.dropWhile isNumeric ++ second).head?, isNumeric char = false := by
    intro char hchar
    rw [List.head?_append_of_ne_nil _ hrest] at hchar
    exact Text.stop_dropWhile isNumeric rest char hchar
  have hsplit : rest.takeWhile isNumeric ++ (rest.dropWhile isNumeric ++ second) =
      rest ++ second := by
    rw [← List.append_assoc, List.takeWhile_append_dropWhile]
  rw [← hsplit]
  exact Text.takeWhile_run_append (fun _ => List.mem_takeWhile_imp) hhead

/-- A well-formed literal ends with a digit or a point. -/
theorem isNumeric_last_of_isWellFormed {char last : Char} {run : List Char}
    (hrun : ∀ other ∈ run, isNumeric other = true) (hwell : isWellFormed (char :: run) = true)
    (hlast : last ∈ (char :: run).getLast?) : isNumeric last = true := by
  cases run with
  | nil =>
      obtain rfl := Option.some.inj hlast
      simp only [isWellFormed, Bool.and_eq_true, List.any_cons, List.any_nil,
        Bool.or_false] at hwell
      simp [isNumeric, hwell.2]
  | cons next more =>
      rw [List.getLast?_cons_cons] at hlast
      exact hrun last (List.mem_of_mem_getLast? hlast)

/-- A text whose first part is scanned and does not end with a number is scanned
part by part. -/
theorem scanFrom_append_of_last {signed : Bool} {position : Nat} {first : List Char}
    {tokens : List Token} (hfirst : scanFrom signed position first = .ok tokens)
    (hlast : ∀ last ∈ first.getLast?, isNumeric last = false) (second : List Char) :
    scanFrom signed position (first ++ second) =
      (scanFrom (signedAfter signed tokens) (position + first.length) second).map
        (tokens ++ ·) := by
  fun_induction scanFrom signed position first generalizing tokens with
  | case1 signed position =>
      obtain rfl : [] = tokens := by simpa using hfirst
      show scanFrom signed position second = (scanFrom signed position second).map id
      rw [Except.map_id]
      rfl
  | case2 signed position char rest hspace ih =>
      rw [List.cons_append, scanFrom_space hspace,
        ih hfirst fun last hmem => hlast last (getLast?_append_of_mem [char] hmem),
        List.length_cons, Nat.add_assoc, Nat.add_comm 1]
  | case3 signed position char rest hspace hstart literal hwell =>
      rename_i ih
      obtain ⟨following, hrest, rfl⟩ := Fallible.map_eq_ok_iff.mp hfirst
      have hsplit : char :: rest = literal ++ rest.dropWhile isNumeric := by
        simp [literal, List.takeWhile_append_dropWhile]
      have hmore : rest.dropWhile isNumeric ≠ [] := by
        intro hnil
        have hall : literal = char :: rest := by rw [hsplit, hnil, List.append_nil]
        obtain ⟨last, hmem⟩ := Option.isSome_iff_exists.mp
          (List.getLast?_isSome.mpr (List.cons_ne_nil char rest))
        have hnumeric := isNumeric_last_of_isWellFormed (fun _ => List.mem_takeWhile_imp) hwell
          (hall ▸ hmem : last ∈ literal.getLast?)
        rw [hlast last hmem] at hnumeric
        cases hnumeric
      obtain ⟨htake, hdrop⟩ := takeWhile_append_of_dropWhile hmore second
      have hlength : position + literal.length + (rest.dropWhile isNumeric).length =
          position + (char :: rest).length := by
        rw [hsplit, List.length_append, Nat.add_assoc]
      rw [List.cons_append, scanFrom, if_neg hspace, if_pos hstart, htake, if_pos hwell, hdrop,
        ih hrest fun last hmem => hlast last (hsplit ▸ getLast?_append_of_mem literal hmem),
        Fallible.map_map, hlength]
      rfl
  | case4 => simp at hfirst
  | case5 => simp at hfirst
  | case6 signed position char rest hspace hstart token htoken ih =>
      obtain ⟨following, hrest, rfl⟩ := Fallible.map_eq_ok_iff.mp hfirst
      rw [List.cons_append, scanFrom_symbol (by simpa using hspace) (by simpa using hstart) htoken,
        ih hrest fun last hmem => hlast last (getLast?_append_of_mem [char] hmem),
        Fallible.map_map, List.length_cons, Nat.add_assoc, Nat.add_comm 1]
      rfl

/-! ## The place of a failure -/

/-- A place of a text: what is before it can be scanned, and it is not inside of
a number. -/
structure IsBorder (signed : Bool) (position : Nat) (before : List Char) (tokens : List Token)
    (char : Char) : Prop where
  scanned : scanFrom signed position before = .ok tokens
  outside : (∀ last ∈ before.getLast?, isNumeric last = false) ∨
    startsNumber (signedAfter signed tokens) char = false

theorem isNumeric_of_startsNumber {signed : Bool} {char : Char}
    (hstart : startsNumber signed char = false) : isNumeric char = false := by
  rw [startsNumber, Bool.or_eq_false_iff] at hstart
  exact hstart.1

/-- What fails at a border fails. -/
theorem IsBorder.scanFrom_eq {signed : Bool} {position : Nat} {before rest : List Char}
    {tokens : List Token} {char : Char} {error : Error}
    (hborder : IsBorder signed position before tokens char)
    (hfails : FailsAtOnce (signedAfter signed tokens) (position + before.length) char rest error) :
    scanFrom signed position (before ++ char :: rest) = .error error := by
  rcases hborder.outside with hlast | hstart
  · rw [scanFrom_append_of_last hborder.scanned hlast, hfails.scanFrom_eq]
    rfl
  · have hhead : ∀ other ∈ (char :: rest).head?, isNumeric other = false := by
      intro other hother
      obtain rfl := Option.some.inj hother
      exact isNumeric_of_startsNumber hstart
    rw [scanFrom_append signed position before hhead, hborder.scanned]
    show (scanFrom (signedAfter signed tokens) (position + before.length) (char :: rest)).map _ = _
    rw [hfails.scanFrom_eq]
    rfl

/-- A text has a border at which it fails. -/
def FailsSomewhere (signed : Bool) (position : Nat) (text : List Char) (error : Error) : Prop :=
  ∃ before char rest tokens, text = before ++ char :: rest ∧
    IsBorder signed position before tokens char ∧
    FailsAtOnce (signedAfter signed tokens) (position + before.length) char rest error

theorem signedAfter_append (signed : Bool) (first second : List Token) :
    signedAfter signed (first ++ second) = signedAfter (signedAfter signed first) second := by
  induction first generalizing signed with
  | nil => rfl
  | cons token rest ih => exact ih token.admitsSign

/-- A failure stays one when something is put in front that can be scanned on its
own.  If the failure comes right after that, the border must not be inside of a
number. -/
theorem FailsSomewhere.append {signed : Bool} {position : Nat} (front : List Char)
    (first : List Token) {text : List Char} {error : Error}
    (hfails : FailsSomewhere (signedAfter signed first) (position + front.length) text error)
    (hfront : ∀ before, before <+: text → scanFrom signed position (front ++ before) =
      (scanFrom (signedAfter signed first) (position + front.length) before).map (first ++ ·))
    (hend : ∀ char ∈ text.head?, (∀ last ∈ front.getLast?, isNumeric last = false) ∨
      startsNumber (signedAfter signed first) char = false) :
    FailsSomewhere signed position (front ++ text) error := by
  obtain ⟨before, char, rest, tokens, rfl, ⟨hscanned, houtside⟩, hfails⟩ := hfails
  refine ⟨front ++ before, char, rest, first ++ tokens, (List.append_assoc _ _ _).symm,
    ⟨?_, ?_⟩, ?_⟩
  · rw [hfront before (List.prefix_append _ _), hscanned]
    rfl
  · rw [signedAfter_append]
    cases before with
    | nil =>
        obtain rfl : [] = tokens := by simpa [scanFrom] using hscanned
        rw [List.append_nil]
        exact hend char rfl
    | cons next more =>
        refine houtside.imp_left fun hlast last hmem => hlast last ?_
        rwa [List.getLast?_append_of_ne_nil _ (List.cons_ne_nil next more)] at hmem
  · rw [signedAfter_append, List.length_append, ← Nat.add_assoc]
    exact hfails

/-- A text that cannot be scanned has a border at which it fails. -/
theorem failsSomewhere_of_scanFrom {signed : Bool} {position : Nat} {text : List Char}
    {error : Error} (hscan : scanFrom signed position text = .error error) :
    FailsSomewhere signed position text error := by
  fun_induction scanFrom signed position text with
  | case1 => simp at hscan
  | case2 signed position head rest hspace ih =>
      refine FailsSomewhere.append [head] [] (ih hscan) (fun before _ => ?_)
        fun _ _ => .inl ?_
      · show _ = (scanFrom signed (position + 1) before).map id
        rw [List.singleton_append, scanFrom_space hspace, Except.map_id]
        rfl
      · intro last hlast
        obtain rfl := Option.some.inj hlast
        exact isNumeric_of_isSpace hspace
  | case3 signed position head rest hspace hstart literal hwell =>
      rename_i ih
      have hfits := fits_of_isWellFormed hstart (fun _ => List.mem_takeWhile_imp) hwell
      have hsplit : head :: rest = literal ++ rest.dropWhile isNumeric := by
        simp [literal, List.takeWhile_append_dropWhile]
      rw [hsplit]
      refine FailsSomewhere.append literal [number (String.ofList literal)]
        (ih (Fallible.map_eq_error_iff.mp hscan)) (fun before hbefore => ?_)
        fun char hchar => .inr ?_
      · have hhead : ∀ char ∈ before.head?, isNumeric char = false := by
          intro char hchar
          obtain ⟨more, hmore⟩ := hbefore
          refine Text.stop_dropWhile isNumeric rest char ?_
          rw [← hmore, List.head?_append, Option.mem_def.mp hchar]
          rfl
        have htoken := scanFrom_token hfits position fun _ => hhead
        rw [Token.text, String.toList_ofList] at htoken
        exact htoken
      · -- a sign is not admitted after a number, and the number took all that is numeric
        show startsNumber false char = false
        rw [startsNumber, Text.stop_dropWhile isNumeric rest char hchar, Bool.and_false,
          Bool.or_false]
  | case4 signed position head rest hspace hstart literal hwell =>
      obtain rfl := Except.error.inj hscan
      refine ⟨[], head, rest, [], rfl, ⟨by rw [scanFrom], .inl (by simp)⟩, ?_⟩
      rw [FailsAtOnce, signedAfter, if_pos hstart]
      exact ⟨by simpa using hwell, rfl⟩
  | case5 signed position head rest hspace hstart found hfound =>
      obtain rfl := Except.error.inj hscan
      refine ⟨[], head, rest, [], rfl, ⟨by rw [scanFrom], .inl (by simp)⟩, ?_⟩
      rw [FailsAtOnce, signedAfter, if_neg hstart]
      exact ⟨by simpa using hspace, hfound⟩
  | case6 signed position head rest hspace hstart token htoken ih =>
      refine FailsSomewhere.append [head] [token]
        (ih (Fallible.map_eq_error_iff.mp hscan)) (fun before _ => ?_) fun _ _ => .inl ?_
      · exact scanFrom_symbol (by simpa using hspace) (by simpa using hstart) htoken before
      · intro last hlast
        obtain rfl := Option.some.inj hlast
        exact isNumeric_of_startsNumber (by simpa using hstart)

theorem scanFrom_eq_error_iff {signed : Bool} {position : Nat} {text : List Char} {error : Error} :
    scanFrom signed position text = .error error ↔ FailsSomewhere signed position text error := by
  constructor
  · exact failsSomewhere_of_scanFrom
  · rintro ⟨before, char, rest, tokens, rfl, hborder, hfails⟩
    exact hborder.scanFrom_eq hfails

/-! ## Both kinds of failures -/

theorem isSpace_iff (char : Char) :
    isSpace char = true ↔ char ∈ [' ', '\t', '\n', '\r', '\x0B', '\x0C'] := by
  simp [isSpace, or_assoc]

theorem not_isWellFormed_iff (literal : List Char) :
    isWellFormed literal = false ↔
      2 ≤ literal.count '.' ∨ ∀ char ∈ literal, ¬ char.isDigit = true := by
  rw [isWellFormed, Bool.and_eq_false_iff, decide_eq_false_iff_not, Nat.not_le, List.any_eq_false]
  rfl

/-- A sign is admitted at the start, after an operator and after `(`. -/
theorem signedAfter_true_iff (tokens : List Token) :
    signedAfter true tokens = true ↔
      ∀ last ∈ tokens.getLast?, (∃ symbol, last = .operator symbol) ∨ last = .paren '(' := by
  rcases List.eq_nil_or_concat tokens with rfl | ⟨earlier, last, rfl⟩
  · simp [signedAfter]
  · rw [List.concat_eq_append, signedAfter_append, List.getLast?_concat]
    simp [signedAfter, admitsSign_eq_true_iff]

theorem isSymbol_iff {char : Char} :
    char ∈ ['.', '+', '-', '*', '/', '(', ')'] ↔
      char = '.' ∨ isArithmetic char = true ∨ char = '(' ∨ char = ')' := by
  simp [isArithmetic, or_assoc]

theorem ofChar_eq_error_iff {char : Char} {position : Nat} {error : Error} :
    ofChar char position = .error error ↔
      ¬ (char = '(' ∨ char = ')') ∧ ¬ isArithmetic char = true ∧
        error = .invalidCharacter char position := by
  constructor
  · intro herror
    refine ⟨fun hparen => ?_, fun harithmetic => ?_, ofChar_eq_error herror⟩
    · rw [ofChar, if_pos hparen] at herror
      cases herror
    · unfold ofChar at herror
      split at herror
      · cases herror
      · cases herror
  · rintro ⟨hparen, harithmetic, rfl⟩
    rw [ofChar, if_neg hparen, if_neg harithmetic]

/-- A character that no token contains starts no number. -/
theorem startsNumber_of_foreign {char : Char} (hdigit : ¬ char.isDigit)
    (hsymbol : char ∉ ['.', '+', '-', '*', '/', '(', ')']) (signed : Bool) :
    startsNumber signed char = false := by
  rw [isSymbol_iff, not_or, not_or] at hsymbol
  have hminus : char ≠ '-' := by
    rintro rfl
    exact hsymbol.2.1 rfl
  simp [startsNumber, isNumeric, hdigit, hsymbol.1, hminus]

theorem failsAtOnce_invalidCharacter_iff {signed : Bool} {position index : Nat}
    {char other : Char} {rest : List Char} :
    FailsAtOnce signed position char rest (.invalidCharacter other index) ↔
      char = other ∧ position = index ∧ char ∉ [' ', '\t', '\n', '\r', '\x0B', '\x0C'] ∧
        ¬ char.isDigit ∧ char ∉ ['.', '+', '-', '*', '/', '(', ')'] := by
  constructor
  · intro hfails
    unfold FailsAtOnce at hfails
    split at hfails
    · cases hfails.2
    · next hstart =>
        have hnumeric := isNumeric_of_startsNumber (Bool.eq_false_iff.mpr hstart)
        rw [← Bool.not_eq_true, isNumeric_iff, not_or] at hnumeric
        obtain ⟨hspace, herror⟩ := hfails
        obtain ⟨hparen, harithmetic, hcause⟩ := ofChar_eq_error_iff.mp herror
        obtain ⟨rfl, rfl⟩ := Error.invalidCharacter.inj hcause
        rw [← isSpace_iff, isSymbol_iff, not_or, not_or]
        exact ⟨rfl, rfl, by simp [hspace], hnumeric.1, hnumeric.2, harithmetic, hparen⟩
  · rintro ⟨rfl, rfl, hspace, hdigit, hsymbol⟩
    rw [FailsAtOnce, if_neg (by simp [startsNumber_of_foreign hdigit hsymbol])]
    rw [← isSpace_iff, Bool.not_eq_true] at hspace
    rw [isSymbol_iff, not_or, not_or] at hsymbol
    exact ⟨hspace, ofChar_eq_error_iff.mpr ⟨hsymbol.2.2, hsymbol.2.1, rfl⟩⟩

theorem failsAtOnce_malformedNumber_iff {signed : Bool} {position : Nat} {char : Char}
    {rest : List Char} {literal : String} :
    FailsAtOnce signed position char rest (.malformedNumber literal) ↔
      startsNumber signed char = true ∧
        literal.toList = char :: rest.takeWhile isNumeric ∧
        (2 ≤ literal.toList.count '.' ∨ ∀ other ∈ literal.toList, ¬ other.isDigit) := by
  rw [FailsAtOnce]
  constructor
  · intro hfails
    split at hfails
    · next hstart =>
        obtain ⟨hbad, hliteral⟩ := hfails
        obtain rfl := Error.malformedNumber.inj hliteral
        rw [String.toList_ofList, ← not_isWellFormed_iff]
        exact ⟨hstart, rfl, hbad⟩
    · next hstart => cases ofChar_eq_error hfails.2
  · rintro ⟨hstart, hliteral, hbad⟩
    rw [if_pos hstart, ← hliteral, String.ofList_toList]
    exact ⟨(not_isWellFormed_iff _).mpr hbad, rfl⟩

/-- A place of a text can be named by its index. -/
theorem failsSomewhere_iff_index {text : List Char} {error : Error} :
    FailsSomewhere true 0 text error ↔ ∃ index char tokens,
      text[index]? = some char ∧ IsBorder true 0 (text.take index) tokens char ∧
        FailsAtOnce (signedAfter true tokens) index char (text.drop (index + 1)) error := by
  constructor
  · rintro ⟨before, char, rest, tokens, rfl, hborder, hfails⟩
    refine ⟨before.length, char, tokens, by simp, by simpa using hborder, ?_⟩
    rw [Nat.zero_add] at hfails
    simpa using hfails
  · rintro ⟨index, char, tokens, hchar, hborder, hfails⟩
    obtain ⟨hlength, rfl⟩ := List.getElem?_eq_some_iff.mp hchar
    refine ⟨text.take index, text[index], text.drop (index + 1), tokens, ?_, hborder, ?_⟩
    · rw [← List.drop_eq_getElem_cons hlength, List.take_append_drop]
    · rwa [List.length_take, Nat.min_eq_left (Nat.le_of_lt hlength), Nat.zero_add]

theorem startsNumber_signedAfter_iff {tokens : List Token} {start : Char} :
    startsNumber (signedAfter true tokens) start = true ↔
      start.isDigit ∨ start = '.' ∨ start = '-' ∧ ∀ last ∈ tokens.getLast?,
        (∃ symbol, last = .operator symbol) ∨ last = .paren '(' := by
  rw [← signedAfter_true_iff]
  simp [startsNumber, isNumeric, or_assoc]

theorem scan_ofList (chars : List Char) : scan (String.ofList chars) = scanFrom true 0 chars := by
  rw [scan, String.toList_ofList]

theorem unscannable_iff {text : String} {error : Error} :
    Unscannable text error ↔ FailsSomewhere true 0 text.toList error := by
  rw [failsSomewhere_iff_index]
  constructor
  · intro hdefect
    cases hdefect with
    | foreign hscanned hchar hspace hdigit hsymbol =>
        rw [scan_ofList] at hscanned
        exact ⟨_, _, _, hchar, ⟨hscanned, .inr (startsNumber_of_foreign hdigit hsymbol _)⟩,
          failsAtOnce_invalidCharacter_iff.mpr ⟨rfl, rfl, hspace, hdigit, hsymbol⟩⟩
    | malformed hscanned houtside hchar hstart hliteral hbad =>
        rw [scan_ofList] at hscanned
        refine ⟨_, _, _, hchar, ⟨hscanned, .inl fun last hlast => ?_⟩,
          failsAtOnce_malformedNumber_iff.mpr
            ⟨startsNumber_signedAfter_iff.mpr hstart, hliteral, hbad⟩⟩
        exact Bool.eq_false_iff.mpr fun hnumeric =>
          houtside last hlast ((isNumeric_iff last).mp hnumeric)
  · rintro ⟨index, char, tokens, hchar, ⟨hscanned, houtside⟩, hfails⟩
    rw [← scan_ofList] at hscanned
    rcases hfails.kind with ⟨other, position, rfl⟩ | ⟨literal, rfl⟩
    · obtain ⟨rfl, rfl, hspace, hdigit, hsymbol⟩ := failsAtOnce_invalidCharacter_iff.mp hfails
      exact .foreign hscanned hchar hspace hdigit hsymbol
    · obtain ⟨hstart, hliteral, hbad⟩ := failsAtOnce_malformedNumber_iff.mp hfails
      refine .malformed hscanned (fun last hlast hnumeric => ?_) hchar
        (startsNumber_signedAfter_iff.mp hstart) hliteral hbad
      rcases houtside with houtside | hnot
      · rw [← isNumeric_iff, houtside last hlast] at hnumeric
        cases hnumeric
      · rw [hstart] at hnot
        cases hnot

/-- **A text that is not scanned is refused for its first defect.**  This is a
character that no token contains, at its index, or a number with two points or
without a digit, and the scanner refuses a text for a cause exactly when that is
the defect of the text.  Every text is scanned or has a defect, and no text is
scanned and has a defect, or has two. -/
theorem scan_firstDefect (text : String) :
    (∀ error, scan text = .error error ↔ Unscannable text error) ∧
    ((∃ tokens, scan text = .ok tokens) ∨
      (∃ char position, Unscannable text (.invalidCharacter char position)) ∨
      ∃ literal, Unscannable text (.malformedNumber literal)) ∧
    (∀ tokens error, scan text = .ok tokens → ¬ Unscannable text error) ∧
    ∀ error other, Unscannable text error → Unscannable text other → error = other := by
  have hscan : ∀ error, scan text = .error error ↔ Unscannable text error := fun error =>
    scanFrom_eq_error_iff.trans unscannable_iff.symm
  refine ⟨hscan, ?_, ?_, ?_⟩
  · cases hresult : scan text with
    | ok tokens => exact .inl ⟨tokens, rfl⟩
    | error error =>
        have hdefect := (hscan error).mp hresult
        cases hdefect with
        | foreign hscanned hchar hspace hdigit hsymbol =>
            exact .inr (.inl ⟨_, _, .foreign hscanned hchar hspace hdigit hsymbol⟩)
        | malformed hscanned houtside hstart hsign hliteral hbad =>
            exact .inr (.inr ⟨_, .malformed hscanned houtside hstart hsign hliteral hbad⟩)
  · intro tokens error hok hdefect
    rw [(hscan error).mpr hdefect] at hok
    cases hok
  · intro error other hdefect hother
    exact Except.error.inj (((hscan error).mpr hdefect).symm.trans ((hscan other).mpr hother))

end Token

end CipherCalc.Expr
