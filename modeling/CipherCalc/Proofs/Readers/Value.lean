import CipherCalc.Proofs.Settings.Value
import CipherCalc.Readers.Value
import Mathlib.Data.List.Basic

/-!
# The reader of values

The reader of values of this library reads switches and integers as the program relies on
(`readsValues_value?`).  A whole number that is read is an integer as TOML writes it, with a
minus sign only in front of one that is negative or zero (`isInteger_of_integer?`,
`lt_zero_of_integer?_minus`); and the decimal digits of a number are read as that number
(`integer?_toDigits`).
-/

namespace CipherCalc.Settings

variable {base number value : Nat} {char : Char} {text digits : List Char}

/-! ## What is read is an integer -/

theorem eq_of_toNat_sub {zero : Char} (hzero : zero ≤ char) :
    char = Char.ofNat (zero.toNat + (char.toNat - zero.toNat)) := by
  have hle : zero.toNat ≤ char.toNat := hzero
  rw [Nat.add_sub_cancel' hle, Char.ofNat_toNat]

theorem eq_digitChar_of_digit? (hdigit : digit? base char = some value) :
    value < base ∧ (char = value.digitChar ∨ char = value.digitChar.toUpper) := by
  have hdecimal : ∀ value < 10, Char.ofNat ('0'.toNat + value) = value.digitChar := by decide
  have hlower : ∀ value < 6, Char.ofNat ('a'.toNat + value) = (value + 10).digitChar := by decide
  have hupper : ∀ value < 6, Char.ofNat ('A'.toNat + value) = (value + 10).digitChar.toUpper := by
    decide
  unfold digit? at hdigit
  simp only [Option.ite_none_right_eq_some, Option.some.injEq] at hdigit
  obtain ⟨hlt, rfl⟩ := hdigit
  refine ⟨hlt, ?_⟩
  split_ifs at hlt ⊢ with hrange hrange hrange
  · obtain ⟨hzero, hnine⟩ := Char.isDigit_iff_toNat.mp hrange
    have hoffset : char.toNat - '0'.toNat < 10 :=
      Nat.sub_lt_left_of_lt_add hzero (Nat.lt_succ_of_le hnine)
    exact .inl ((eq_of_toNat_sub hzero).trans (hdecimal _ hoffset))
  · have hoffset : char.toNat - 'a'.toNat < 6 :=
      Nat.sub_lt_left_of_lt_add hrange.1 (Nat.lt_succ_of_le hrange.2)
    exact .inl ((eq_of_toNat_sub hrange.1).trans (hlower _ hoffset))
  · have hoffset : char.toNat - 'A'.toNat < 6 :=
      Nat.sub_lt_left_of_lt_add hrange.1 (Nat.lt_succ_of_le hrange.2)
    exact .inr ((eq_of_toNat_sub hrange.1).trans (hupper _ hoffset))
  · exact absurd hlt (Nat.lt_irrefl base)

theorem isDigit_of_digit? (hdigit : digit? base char = some value) : IsDigit base char :=
  ⟨value, eq_digitChar_of_digit? hdigit⟩

theorem isGrouped_of_digits? (hchar : IsDigit base char)
    (hvalue : digits? base value text = some number) : IsGrouped base (char :: text) := by
  -- an underscore needs a digit on either side, so the one in front of the text is carried along
  fun_induction digits? base value text generalizing char with
  | case1 value => exact .single hchar
  | case2 value next rest ih =>
      obtain ⟨digit, hdigit, hrest⟩ := Option.bind_eq_some_iff.mp hvalue
      exact .underscore hchar (ih digit (isDigit_of_digit? hdigit) hrest)
  | case3 value next rest hnone ih =>
      obtain ⟨digit, hdigit, hrest⟩ := Option.bind_eq_some_iff.mp hvalue
      exact .digit hchar (ih digit (isDigit_of_digit? hdigit) hrest)

theorem le_of_digits? (hvalue : digits? 10 value text = some number) : value ≤ number := by
  fun_induction digits? 10 value text with
  | case1 value => exact Nat.le_of_eq (Option.some.inj hvalue)
  | case2 value next rest ih =>
      obtain ⟨digit, hdigit, hrest⟩ := Option.bind_eq_some_iff.mp hvalue
      have hle := ih digit hrest
      omega
  | case3 value next rest hnone ih =>
      obtain ⟨digit, hdigit, hrest⟩ := Option.bind_eq_some_iff.mp hvalue
      have hle := ih digit hrest
      omega

/-- A number that is read starts with a digit, and the rest is read behind it. -/
theorem unsigned?_eq_some (hnumber : unsigned? base text = some number) :
    ∃ char rest value, text = char :: rest ∧ digit? base char = some value ∧
      digits? base value rest = some number := by
  unfold unsigned? at hnumber
  split at hnumber
  case h_1 => cases hnumber
  case h_2 => cases hnumber
  case h_3 hnil hunderscore =>
    cases text with
    | nil => exact absurd rfl hnil
    | cons char rest =>
        have hne : ∀ next after, char = '_' → rest = next :: after → False :=
          fun next after hchar _ => hunderscore rest (by rw [hchar])
        rw [digits?.eq_3 _ _ _ _ hne] at hnumber
        obtain ⟨value, hdigit, hrest⟩ := Option.bind_eq_some_iff.mp hnumber
        rw [Nat.mul_zero, Nat.zero_add] at hrest
        exact ⟨char, rest, value, rfl, hdigit, hrest⟩

theorem isGrouped_of_unsigned? (hnumber : unsigned? base text = some number) :
    IsGrouped base text := by
  obtain ⟨char, rest, value, rfl, hdigit, hrest⟩ := unsigned?_eq_some hnumber
  exact isGrouped_of_digits? (isDigit_of_digit? hdigit) hrest

theorem isDecimal_of_decimal? (hnumber : decimal? text = some number) : IsDecimal text := by
  unfold decimal? at hnumber
  split at hnumber
  case h_1 => cases hnumber
  case h_2 hzeros =>
    refine ⟨isGrouped_of_unsigned? hnumber, fun hhead => ?_⟩
    obtain ⟨rest, rfl⟩ := List.head?_eq_some_iff.mp hhead
    cases rest with
    | nil => rfl
    | cons next rest => exact absurd rfl (hzeros next rest)

/-- Only a zero alone is read as zero. -/
theorem eq_zero_of_decimal? (hnumber : decimal? text = some 0) : text = ['0'] := by
  obtain ⟨-, hzero⟩ := isDecimal_of_decimal? hnumber
  unfold decimal? at hnumber
  split at hnumber
  case h_1 => cases hnumber
  case h_2 =>
    obtain ⟨char, rest, value, rfl, hdigit, hrest⟩ := unsigned?_eq_some hnumber
    -- values only grow from digit to digit, so the first one was zero
    obtain rfl : value = 0 := Nat.le_zero.mp (le_of_digits? hrest)
    have hchar : char = '0' := (eq_digitChar_of_digit? hdigit).2.elim id id
    exact hzero (congrArg some hchar)

theorem isInteger_of_integer? {integer : Int} (hinteger : integer? text = some integer) :
    IsInteger text := by
  unfold integer? at hinteger
  split at hinteger
  all_goals obtain ⟨magnitude, hmagnitude, -⟩ := Option.map_eq_some_iff.mp hinteger
  case h_1 => exact .hexadecimal (isGrouped_of_unsigned? hmagnitude)
  case h_2 => exact .octal (isGrouped_of_unsigned? hmagnitude)
  case h_3 => exact .binary (isGrouped_of_unsigned? hmagnitude)
  case h_4 => exact .plus (isDecimal_of_decimal? hmagnitude)
  case h_5 => exact .minus (isDecimal_of_decimal? hmagnitude)
  case h_6 => exact .unsigned (isDecimal_of_decimal? hmagnitude)

/-- A minus sign makes every number but zero negative. -/
theorem lt_zero_of_integer?_minus {integer : Int}
    (hinteger : integer? ('-' :: digits) = some integer) (hne : digits ≠ ['0']) : integer < 0 := by
  obtain ⟨magnitude, hmagnitude, rfl⟩ := Option.map_eq_some_iff.mp
    (show (decimal? digits).map _ = some integer from hinteger)
  have hpos : magnitude ≠ 0 := by
    rintro rfl
    exact hne (eq_zero_of_decimal? hmagnitude)
  exact Int.neg_neg_of_pos (Int.natCast_pos.mpr (Nat.pos_of_ne_zero hpos))

/-! ## What is written is read -/

theorem digit?_of_isDigit (hdigit : char.isDigit = true) :
    digit? 10 char = some (char.toNat - '0'.toNat) := by
  obtain ⟨hzero, hnine⟩ := Char.isDigit_iff_toNat.mp hdigit
  have hlt : char.toNat - '0'.toNat < 10 :=
    Nat.sub_lt_left_of_lt_add hzero (Nat.lt_succ_of_le hnine)
  simp only [digit?, if_pos hdigit, if_pos hlt]

theorem digits?_of_isDigit (hdigits : ∀ char ∈ text, char.isDigit = true) :
    digits? 10 value text = some (Nat.ofDigitChars 10 text value) := by
  induction text generalizing value with
  | nil => rfl
  | cons char rest ih =>
      rw [List.forall_mem_cons] at hdigits
      obtain ⟨hchar, hrest⟩ := hdigits
      have hne : ∀ next after, char = '_' → rest = next :: after → False := by
        rintro next after rfl -
        exact absurd hchar (by decide)
      rw [digits?.eq_3 _ _ _ _ hne, digit?_of_isDigit hchar]
      exact ih hrest

theorem unsigned?_of_isDigit (hne : text ≠ []) (hdigits : ∀ char ∈ text, char.isDigit = true) :
    unsigned? 10 text = some (Nat.ofDigitChars 10 text 0) := by
  unfold unsigned?
  split
  case h_1 => exact absurd rfl hne
  case h_2 => exact absurd (hdigits '_' List.mem_cons_self) (by decide)
  case h_3 => exact digits?_of_isDigit hdigits

theorem isDigit_of_mem_toDigits (number : Nat) :
    ∀ char ∈ Nat.toDigits 10 number, char.isDigit = true :=
  fun _ hmem => Nat.isDigit_of_mem_toDigits (by decide) (by decide) hmem

theorem eq_zero_of_head?_toDigits (hhead : (Nat.toDigits 10 number).head? = some '0') :
    number = 0 := by
  induction number using Nat.strongRecOn with
  | _ number ih =>
      by_cases hsmall : number < 10
      · rw [Nat.toDigits_of_lt_base hsmall, List.head?_singleton, Option.some.injEq] at hhead
        exact Nat.digitChar_eq_zero.mp hhead
      · -- a longer number starts as its tenth does
        rw [Nat.toDigits_of_base_le (by decide) (Nat.le_of_not_lt hsmall),
          List.head?_append_of_ne_nil _ Nat.toDigits_ne_nil] at hhead
        have hzero := ih (number / 10) (by omega) hhead
        omega

theorem decimal?_toDigits : decimal? (Nat.toDigits 10 number) = some number := by
  have hread := unsigned?_of_isDigit Nat.toDigits_ne_nil (isDigit_of_mem_toDigits number)
  rw [Nat.ofDigitChars_ten_toDigits] at hread
  unfold decimal?
  split
  case h_1 next rest htext =>
    have hzero : number = 0 := eq_zero_of_head?_toDigits (by rw [htext]; rfl)
    rw [hzero] at htext
    cases htext
  case h_2 => exact hread

theorem integer?_toDigits (number : Nat) :
    integer? (Nat.toDigits 10 number) = some (Int.ofNat number) := by
  have hdigits := isDigit_of_mem_toDigits number
  unfold integer?
  split
  case h_6 =>
    rw [decimal?_toDigits]
    rfl
  -- none of the other forms is made of digits alone
  case h_1 htext | h_2 htext | h_3 htext | h_4 htext | h_5 htext =>
    rw [htext] at hdigits
    simp at hdigits

/-! ## Values -/

theorem switch?_eq_some_iff {switch : Bool} :
    switch? text = some switch ↔ text = (toString switch).toList := by
  unfold switch?
  constructor
  · intro hswitch
    split_ifs at hswitch with htrue hfalse
    · rw [htrue, ← Option.some.inj hswitch]
      rfl
    · rw [hfalse, ← Option.some.inj hswitch]
      rfl
  · rintro rfl
    cases switch <;> rfl

theorem value?_eq_some_switch_iff {switch : Bool} :
    value? text = some (.switch switch) ↔ text = (toString switch).toList := by
  rw [← switch?_eq_some_iff, value?]
  cases switch? text with
  | some other => simp
  | none => simp

/-- What is read as a value but not as a switch is an integer. -/
theorem exists_integer?_of_value? {value : Value} (hvalue : value? text = some value)
    (hswitch : switch? text = none) :
    ∃ integer, integer? text = some integer ∧ value = .whole integer := by
  rw [value?, hswitch] at hvalue
  obtain ⟨integer, hinteger, rfl⟩ := Option.map_eq_some_iff.mp hvalue
  exact ⟨integer, Option.eq_some_of_filter_eq_some hinteger, rfl⟩

theorem isInteger_of_value? {integer : Int} (hvalue : value? text = some (.whole integer)) :
    IsInteger text := by
  cases hswitch : switch? text with
  | some switch =>
      rw [value?, hswitch] at hvalue
      cases hvalue
  | none =>
      obtain ⟨other, hother, -⟩ := exists_integer?_of_value? hvalue hswitch
      exact isInteger_of_integer? hother

/-- The reader of values of this library reads them as the program relies on. -/
theorem readsValues_value? : ReadsValues value? where
  switch switch := value?_eq_some_switch_iff.mpr rfl
  eq_of_switch := value?_eq_some_switch_iff.mp
  whole {number} hsmall := by
    have htext : (toString number).toList = Nat.toDigits 10 number := by simp
    have hswitch : switch? (Nat.toDigits 10 number) = none := by
      rw [Option.eq_none_iff_forall_ne_some]
      intro switch hswitch
      have hdigits := isDigit_of_mem_toDigits number
      rw [switch?_eq_some_iff.mp hswitch] at hdigits
      cases switch <;> exact absurd (hdigits _ List.mem_cons_self) (by decide)
    have hrange : (wordRange.1 ≤ Int.ofNat number && Int.ofNat number < wordRange.2) = true := by
      have hnonneg : wordRange.1 ≤ 0 := by decide
      rw [Bool.and_eq_true, decide_eq_true_eq, decide_eq_true_eq]
      exact ⟨Int.le_trans hnonneg (Int.natCast_nonneg number), Int.ofNat_lt.mpr hsmall⟩
    rw [htext, value?, hswitch]
    simp only [integer?_toDigits, Option.filter_some, hrange, if_true, Option.map_some]
    rfl
  isInteger_of_whole := isInteger_of_value?
  negative {digits value} hdigits hne hvalue := by
    obtain ⟨integer, hinteger, rfl⟩ := exists_integer?_of_value? hvalue rfl
    exact ⟨integer, lt_zero_of_integer?_minus hinteger hne, rfl⟩

end CipherCalc.Settings
