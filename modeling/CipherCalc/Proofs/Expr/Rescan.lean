import CipherCalc.Proofs.Expr.Message

/-!
# Scanning a postfix listing again

A postfix listing is written with one space after every token but the last, so
nothing but a minus can be misread: before an operand it is taken for a sign, and
right after a number for an operator.  In a listing the converter may have put
either where the other is expected.  A minus operator that comes after another
operator, or first of all, is a number without digits (`scanFrom_loneMinus`), and
the sign of a number after a number becomes an operator of its own
(`scanFrom_signed`).  Every other token is scanned as itself, and whatever a token
is scanned as, the scanner goes on as after the token (`scanFrom_detached`).

So a token and the one before it, a `Place` of the listing, are enough to tell what
becomes of it, and `scan_listing_of_ofInfix` goes through the places one by one.
-/

namespace CipherCalc.Expr

open Token

/-! ## What is misread -/

/-- A token of a list, with the one right before it. -/
structure Place where
  previous : Option Token
  token : Token
  deriving DecidableEq

/-- The places of a list that comes after `previous`. -/
def placesFrom (previous : Option Token) : List Token → List Place
  | [] => []
  | token :: rest => ⟨previous, token⟩ :: placesFrom (some token) rest

/-- The places of a list. -/
def places (tokens : List Token) : List Place :=
  placesFrom none tokens

namespace Place

/-- Whether a place is right after a number. -/
def isAfterNumber (place : Place) : Bool :=
  place.previous.any isNumber

/-- A minus operator that does not come right after a number. -/
def IsLoneMinus (place : Place) : Prop :=
  place.token = .operator '-' ∧ place.isAfterNumber = false

instance : DecidablePred IsLoneMinus := fun _ => inferInstanceAs (Decidable (_ ∧ _))

/-- A number with a sign that comes right after a number. -/
def IsSignedAfterNumber (place : Place) : Prop :=
  place.token.IsSigned ∧ place.isAfterNumber = true

/-- What a token is read as: a sign after a number is an operator of its own. -/
def detached (place : Place) : List Token :=
  match place.token with
  | .number text =>
      if text.toList.head? = some '-' ∧ place.isAfterNumber = true then
        [.operator '-', .number (String.ofList (unsigned text.toList))]
      else [.number text]
  | token => [token]

end Place

/-- The tokens of a listing with every sign after a number detached from it. -/
def detachSigns (listing : List Token) : List Token :=
  (places listing).flatMap Place.detached

theorem detached_of_not {previous : Option Token} {token : Token}
    (hplace : ¬ (Place.mk previous token).IsSignedAfterNumber) :
    (Place.mk previous token).detached = [token] := by
  cases token with
  | number text => exact if_neg hplace
  | operator symbol => rfl
  | paren symbol => rfl

theorem exists_detached_eq {previous : Option Token} {token : Token}
    (hplace : (Place.mk previous token).IsSignedAfterNumber) :
    ∃ run, token = .number (String.ofList ('-' :: run)) ∧
      (Place.mk previous token).detached = [.operator '-', .number (String.ofList run)] := by
  cases token with
  | number text =>
      obtain ⟨run, hrun⟩ := List.head?_eq_some_iff.mp hplace.1
      refine ⟨run, by rw [← hrun, String.ofList_toList], ?_⟩
      have hunsigned : unsigned text.toList = run := by rw [hrun, unsigned]
      rw [← hunsigned]
      exact if_pos hplace
  | operator symbol => exact absurd hplace.1 id
  | paren symbol => exact absurd hplace.1 id

/-- Detaching makes a list longer wherever there is a sign to detach. -/
theorem flatMap_detached_eq_self_iff {previous : Option Token} {tokens : List Token} :
    (placesFrom previous tokens).flatMap Place.detached = tokens ↔
      ∀ place ∈ placesFrom previous tokens, ¬ place.IsSignedAfterNumber := by
  induction tokens generalizing previous with
  | nil => simp [placesFrom]
  | cons token rest ih =>
      rw [placesFrom, List.flatMap_cons, List.forall_mem_cons, ← ih]
      by_cases hplace : (Place.mk previous token).IsSignedAfterNumber
      · obtain ⟨run, rfl, hdetached⟩ := exists_detached_eq hplace
        -- a number is in the place of the operator
        rw [hdetached]
        exact iff_of_false (by simp) fun hnone => hnone.1 hplace
      · rw [detached_of_not hplace, List.singleton_append, List.cons_inj_right]
        exact (and_iff_right hplace).symm

/-! ## One token -/

theorem scanFrom_loneMinus {rest : List Char} (hrest : ∀ char ∈ rest.head?, isNumeric char = false)
    (position : Nat) : scanFrom true position ('-' :: rest) = .error (.malformedNumber "-") := by
  have hnone : ∀ char ∈ ([] : List Char), isNumeric char = true := by simp
  have htake : rest.takeWhile isNumeric = [] := (Text.takeWhile_run_append hnone hrest).1
  have hfails : FailsAtOnce true position '-' rest (.malformedNumber "-") := by
    rw [FailsAtOnce, if_pos (show startsNumber true '-' = true from rfl), htake]
    exact ⟨rfl, rfl⟩
  exact hfails.scanFrom_eq

theorem isLiteral_of_isLiteral_minus {run : List Char} (hliteral : IsLiteral ('-' :: run)) :
    IsLiteral run := by
  have hunsigned : unsigned run = run := by
    refine unsigned_eq_self fun more hrun => ?_
    have hminus := hliteral.1 '-' (by simp [unsigned, hrun])
    exact absurd hminus (by decide)
  rw [IsLiteral, hunsigned]
  exact hliteral

/-- Where no sign is admitted, the sign of a number is scanned on its own. -/
theorem scanFrom_signed {run rest : List Char} (hliteral : IsLiteral ('-' :: run))
    (hrest : ∀ char ∈ rest.head?, isNumeric char = false) (position : Nat) :
    scanFrom false position ('-' :: run ++ rest) =
      (scanFrom false (position + ('-' :: run).length) rest).map
        ([.operator '-', .number (String.ofList run)] ++ ·) := by
  have hnumber : (number (String.ofList run)).Fits true := by
    refine ⟨?_, fun _ => rfl, by simp⟩
    rw [IsLexeme, String.toList_ofList]
    exact isLiteral_of_isLiteral_minus hliteral
  have hscan := scanFrom_token hnumber (position + 1) fun _ => hrest
  have hminus : ofChar '-' position = .ok (.operator '-') := rfl
  rw [Token.text, String.toList_ofList] at hscan
  rw [List.cons_append, scanFrom_symbol rfl rfl hminus, admitsSign, hscan,
    Fallible.map_map, List.length_cons, Nat.add_assoc, Nat.add_comm 1]
  rfl

theorem admitsSign_of_isPlain {token : Token} (hplain : token.IsPlain) :
    token.admitsSign = !token.isNumber := by
  cases token with
  | number text => rfl
  | operator symbol => rfl
  | paren symbol => exact absurd rfl (hplain.ne_paren symbol)

/-- A token is scanned as what it is read as, and then the scanner goes on as it
would after the token itself. -/
theorem scanFrom_detached {previous : Option Token} {token : Token} (hplain : token.IsPlain)
    (hlone : ¬ (Place.mk previous token).IsLoneMinus) (position : Nat) {rest : List Char}
    (hrest : ∀ char ∈ rest.head?, isNumeric char = false) :
    scanFrom (!previous.any isNumber) position (token.text.toList ++ rest) =
      (scanFrom (!token.isNumber) (position + token.text.toList.length) rest).map
        ((Place.mk previous token).detached ++ ·) := by
  by_cases hplace : (Place.mk previous token).IsSignedAfterNumber
  · obtain ⟨run, rfl, hdetached⟩ := exists_detached_eq hplace
    have hafter : previous.any isNumber = true := hplace.2
    have hliteral : IsLiteral ('-' :: run) := by
      have hlexeme := hplain.isLexeme
      rwa [IsLexeme, String.toList_ofList] at hlexeme
    rw [hdetached, hafter, Token.text, String.toList_ofList]
    exact scanFrom_signed hliteral hrest position
  · have hfits : token.Fits (!previous.any isNumber) := by
      refine ⟨hplain.isLexeme, fun hsigned => ?_, fun hminus => ?_⟩
      · have hafter : previous.any isNumber = false :=
          Bool.eq_false_iff.mpr fun hafter => hplace ⟨hsigned, hafter⟩
        rw [hafter, Bool.not_false]
      · have hafter : previous.any isNumber = true :=
          Bool.of_not_eq_false fun hafter => hlone ⟨hminus, hafter⟩
        rw [hafter, Bool.not_true]
    rw [detached_of_not hplace, scanFrom_token hfits position fun _ => hrest,
      admitsSign_of_isPlain hplain]
    rfl

/-! ## Listings -/

/-- What a listing has after a token is empty or starts with a space. -/
theorem exists_gap_written_spaced (token : Token) (rest : List Token) :
    ∃ gap : Gap, Layout.written (Layout.spacedItems (token :: rest)) =
        token.text.toList ++ (gap.chars ++ Layout.written (Layout.spacedItems rest)) ∧
      ∀ char ∈ (gap.chars ++ Layout.written (Layout.spacedItems rest)).head?,
        isNumeric char = false := by
  cases rest with
  | nil =>
      refine ⟨.none, by simp [Layout.spacedItems], ?_⟩
      simp [Gap.none, Layout.spacedItems]
  | cons next more =>
      refine ⟨.blank, by simp [Layout.spacedItems], ?_⟩
      simp [Gap.blank, Gap.single, isNumeric]

section

variable {previous : Option Token} {tokens : List Token}

theorem scanFrom_written_of_isLoneMinus (hplain : ∀ token ∈ tokens, token.IsPlain)
    (hlone : ∃ place ∈ placesFrom previous tokens, place.IsLoneMinus) (position : Nat) :
    scanFrom (!previous.any isNumber) position (Layout.written (Layout.spacedItems tokens)) =
      .error (.malformedNumber "-") := by
  induction tokens generalizing previous position with
  | nil => simp [placesFrom] at hlone
  | cons token rest ih =>
      obtain ⟨gap, hwritten, hhead⟩ := exists_gap_written_spaced token rest
      rw [List.forall_mem_cons] at hplain
      rw [placesFrom, List.exists_mem_cons_iff] at hlone
      rw [hwritten]
      by_cases hfirst : (Place.mk previous token).IsLoneMinus
      · obtain ⟨rfl, hafter⟩ := hfirst
        rw [show previous.any isNumber = false from hafter]
        exact scanFrom_loneMinus hhead position
      · rw [scanFrom_detached hplain.1 hfirst position hhead, scanFrom_gap]
        have hrest := ih hplain.2 (hlone.resolve_left hfirst)
        exact Fallible.map_eq_error_iff.mpr (hrest _)

theorem scanFrom_written_of_forall_not (hplain : ∀ token ∈ tokens, token.IsPlain)
    (hlone : ∀ place ∈ placesFrom previous tokens, ¬ place.IsLoneMinus) (position : Nat) :
    scanFrom (!previous.any isNumber) position (Layout.written (Layout.spacedItems tokens)) =
      .ok ((placesFrom previous tokens).flatMap Place.detached) := by
  induction tokens generalizing previous position with
  | nil => rw [Layout.spacedItems, Layout.written_nil, scanFrom]; rfl
  | cons token rest ih =>
      obtain ⟨gap, hwritten, hhead⟩ := exists_gap_written_spaced token rest
      rw [List.forall_mem_cons] at hplain
      rw [placesFrom, List.forall_mem_cons] at hlone
      rw [hwritten, scanFrom_detached hplain.1 hlone.1 position hhead, scanFrom_gap]
      exact Fallible.map_eq_ok_iff.mpr ⟨_, ih hplain.2 hlone.2 _, rfl⟩

end

theorem scan_listing_eq (tokens : List Token) :
    scan (listing tokens) = scanFrom true 0 (Layout.written (Layout.spacedItems tokens)) := by
  rw [scan, ← Layout.text_spaced, Layout.text, String.toList_ofList, Layout.chars, Layout.spaced,
    Gap.none, List.nil_append]

/-- **A postfix listing is misread in two ways, and in no other.**  Scanning it
fails just when it has a minus operator that does not come right after a number,
and then for a number that is a sign alone.  Otherwise it gives the listing with
the sign of every number right after a number detached from it, so the listing
itself just when there is no such number either. -/
theorem scan_listing_of_ofInfix {text : String} {tokens postfixOrder : List Token}
    (hscan : scan text = .ok tokens) (hlisting : Postfix.ofInfix tokens = .ok postfixOrder) :
    (∀ error, scan (listing postfixOrder) = .error error ↔
      (∃ place ∈ places postfixOrder, place.IsLoneMinus) ∧ error = .malformedNumber "-") ∧
    ((∀ place ∈ places postfixOrder, ¬ place.IsLoneMinus) →
      scan (listing postfixOrder) = .ok (detachSigns postfixOrder)) ∧
    (scan (listing postfixOrder) = .ok postfixOrder ↔
      ∀ place ∈ places postfixOrder, ¬ place.IsLoneMinus ∧ ¬ place.IsSignedAfterNumber) := by
  have hplain := isPlain_of_ofInfix hscan hlisting
  have hfails : (∃ place ∈ places postfixOrder, place.IsLoneMinus) →
      scan (listing postfixOrder) = .error (.malformedNumber "-") := fun hlone =>
    (scan_listing_eq postfixOrder).trans (scanFrom_written_of_isLoneMinus hplain hlone 0)
  have hgives : (∀ place ∈ places postfixOrder, ¬ place.IsLoneMinus) →
      scan (listing postfixOrder) = .ok (detachSigns postfixOrder) := fun hlone =>
    (scan_listing_eq postfixOrder).trans (scanFrom_written_of_forall_not hplain hlone 0)
  by_cases hlone : ∃ place ∈ places postfixOrder, place.IsLoneMinus
  · refine ⟨fun error => ?_, hgives, ?_⟩
    · rw [hfails hlone, Except.error.injEq, and_iff_right hlone, eq_comm]
    · obtain ⟨place, hmem, hminus⟩ := hlone
      rw [hfails ⟨place, hmem, hminus⟩]
      exact iff_of_false (by simp) fun hnone => (hnone place hmem).1 hminus
  · have hnone : ∀ place ∈ places postfixOrder, ¬ place.IsLoneMinus := by
      simpa using hlone
    refine ⟨fun error => ?_, hgives, ?_⟩
    · rw [hgives hnone]
      exact iff_of_false (by simp) fun h => hlone h.1
    · rw [hgives hnone, Except.ok.injEq, detachSigns, places, flatMap_detached_eq_self_iff]
      exact forall₂_congr fun place hmem => (and_iff_right (hnone place hmem)).symm

/-- The second minus operator of `8 3 2 - -` comes after the first one, and the
sign in `2 -3 * 1 -` after a number. -/
theorem scan_listing_minusSigns :
    (scan "8-(3-2)" = .ok [.number "8", .operator '-', .paren '(', .number "3", .operator '-',
        .number "2", .paren ')'] ∧
      scan (listing [.number "8", .number "3", .number "2", .operator '-', .operator '-']) =
        .error (.malformedNumber "-")) ∧
    (scan "2*-3-1" = .ok [.number "2", .operator '*', .number "-3", .operator '-', .number "1"] ∧
      scan (listing [.number "2", .number "-3", .operator '*', .number "1", .operator '-']) =
        .ok [.number "2", .operator '-', .number "3", .operator '*', .number "1",
          .operator '-']) := by
  have hnested : scan "8-(3-2)" = .ok [.number "8", .operator '-', .paren '(', .number "3",
      .operator '-', .number "2", .paren ')'] := by decide +kernel
  have hsigned : scan "2*-3-1" =
      .ok [.number "2", .operator '*', .number "-3", .operator '-', .number "1"] := by
    decide +kernel
  have hnestedPostfix : Postfix.ofInfix [.number "8", .operator '-', .paren '(', .number "3",
      .operator '-', .number "2", .paren ')'] =
      .ok [.number "8", .number "3", .number "2", .operator '-', .operator '-'] := by
    decide +kernel
  have hsignedPostfix : Postfix.ofInfix [.number "2", .operator '*', .number "-3", .operator '-',
      .number "1"] =
      .ok [.number "2", .number "-3", .operator '*', .number "1", .operator '-'] := by
    decide +kernel
  refine ⟨⟨hnested, ?_⟩, hsigned, ?_⟩
  · obtain ⟨hfails, -, -⟩ := scan_listing_of_ofInfix hnested hnestedPostfix
    exact (hfails _).mpr ⟨⟨⟨some (.operator '-'), .operator '-'⟩, by decide, by decide⟩, rfl⟩
  · obtain ⟨-, hgives, -⟩ := scan_listing_of_ofInfix hsigned hsignedPostfix
    rw [hgives (by decide)]
    decide +kernel

end CipherCalc.Expr
