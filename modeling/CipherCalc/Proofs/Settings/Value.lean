import CipherCalc.Settings.Table

/-!
# Values of settings

What TOML takes for an integer (`IsInteger`), and what the program relies on in a reader of
values (`ReadsValues`): that switches and decimal numbers are read as themselves, and that
nothing else is read as a switch or as a whole number.
-/

namespace CipherCalc.Settings

/-! ## Integers -/

/-- A digit in a base up to sixteen. -/
def IsDigit (base : Nat) (char : Char) : Prop :=
  ∃ value < base, char = value.digitChar ∨ char = value.digitChar.toUpper

/-- Digits, with one underscore at most between each two of them. -/
inductive IsGrouped (base : Nat) : List Char → Prop where
  | single {char : Char} (hdigit : IsDigit base char) : IsGrouped base [char]
  | digit {char : Char} {rest : List Char} (hdigit : IsDigit base char)
      (hrest : IsGrouped base rest) : IsGrouped base (char :: rest)
  | underscore {char : Char} {rest : List Char} (hdigit : IsDigit base char)
      (hrest : IsGrouped base rest) : IsGrouped base (char :: '_' :: rest)

/-- Decimal digits that do not start with a zero, or a zero alone. -/
def IsDecimal (text : List Char) : Prop :=
  IsGrouped 10 text ∧ (text.head? = some '0' → text = ['0'])

/-- An integer, as TOML writes it: only decimal digits have a sign. -/
inductive IsInteger : List Char → Prop where
  | unsigned {digits : List Char} (hdigits : IsDecimal digits) : IsInteger digits
  | plus {digits : List Char} (hdigits : IsDecimal digits) : IsInteger ('+' :: digits)
  | minus {digits : List Char} (hdigits : IsDecimal digits) : IsInteger ('-' :: digits)
  | hexadecimal {digits : List Char} (hdigits : IsGrouped 16 digits) :
      IsInteger ('0' :: 'x' :: digits)
  | octal {digits : List Char} (hdigits : IsGrouped 8 digits) : IsInteger ('0' :: 'o' :: digits)
  | binary {digits : List Char} (hdigits : IsGrouped 2 digits) : IsInteger ('0' :: 'b' :: digits)

/-- The characters of an integer: digits in a base up to sixteen, underscores, signs and the
letters of the bases. -/
theorem IsInteger.forall_char {text : List Char} (hinteger : IsInteger text)
    {property : Char → Prop} (hdigit : ∀ char, IsDigit 16 char → property char)
    (hother : ∀ char ∈ ['_', '+', '-', 'x', 'o'], property char) : ∀ char ∈ text, property char := by
  have hgrouped {base : Nat} {digits : List Char} (hbase : base ≤ 16)
      (hdigits : IsGrouped base digits) : ∀ char ∈ digits, property char := by
    have hbaseDigit {char : Char} (hchar : IsDigit base char) : property char := by
      obtain ⟨value, hlt, heq⟩ := hchar
      exact hdigit char ⟨value, Nat.lt_of_lt_of_le hlt hbase, heq⟩
    induction hdigits with
    | single hchar => exact List.forall_mem_singleton.mpr (hbaseDigit hchar)
    | digit hchar _ ih => exact List.forall_mem_cons.mpr ⟨hbaseDigit hchar, ih⟩
    | underscore hchar _ ih =>
        exact List.forall_mem_cons.mpr ⟨hbaseDigit hchar,
          List.forall_mem_cons.mpr ⟨hother '_' (by decide), ih⟩⟩
  have hzero : property '0' := hdigit '0' ⟨0, by decide, .inl rfl⟩
  have hbinary : property 'b' := hdigit 'b' ⟨11, by decide, .inl rfl⟩
  cases hinteger with
  | unsigned hdigits => exact hgrouped (by decide) hdigits.1
  | plus hdigits =>
      exact List.forall_mem_cons.mpr ⟨hother '+' (by decide), hgrouped (by decide) hdigits.1⟩
  | minus hdigits =>
      exact List.forall_mem_cons.mpr ⟨hother '-' (by decide), hgrouped (by decide) hdigits.1⟩
  | hexadecimal hdigits =>
      exact List.forall_mem_cons.mpr ⟨hzero,
        List.forall_mem_cons.mpr ⟨hother 'x' (by decide), hgrouped (by decide) hdigits⟩⟩
  | octal hdigits =>
      exact List.forall_mem_cons.mpr ⟨hzero,
        List.forall_mem_cons.mpr ⟨hother 'o' (by decide), hgrouped (by decide) hdigits⟩⟩
  | binary hdigits =>
      exact List.forall_mem_cons.mpr ⟨hzero,
        List.forall_mem_cons.mpr ⟨hbinary, hgrouped (by decide) hdigits⟩⟩

/-! ## Readers of values -/

/-- What a reader of values does with switches and integers.  An integer may be refused
because of its size, but not if it is below `2 ^ 63` and has no sign.  Of values of other
kinds nothing is said but that they are of another kind. -/
structure ReadsValues (value? : List Char → Option Value) : Prop where
  switch (value : Bool) : value? (toString value).toList = some (.switch value)
  eq_of_switch {text : List Char} {value : Bool} (hvalue : value? text = some (.switch value)) :
    text = (toString value).toList
  whole {number : Nat} (hsmall : number < Nat.pow 2 63) :
    value? (toString number).toList = some (.whole number)
  isInteger_of_whole {text : List Char} {number : Int}
    (hvalue : value? text = some (.whole number)) : IsInteger text
  negative {digits : List Char} {value : Value} (hdigits : IsDecimal digits)
    (hne : digits ≠ ['0']) (hvalue : value? ('-' :: digits) = some value) :
    ∃ number < 0, value = .whole number

end CipherCalc.Settings
