import CipherCalc.Readers.Value

/-!
# Keys in settings documents

A key is bare, or a text in single or double quotes.  Between double quotes a
backslash starts an escape sequence.
-/

namespace CipherCalc.Settings

/-- The characters that may stand in comments and in quoted keys: no control
characters but the tab. -/
def isPlain (char : Char) : Bool :=
  char == '\t' || (' ' ≤ char && char != '\x7F')

/-- The characters of bare keys. -/
def isBare (char : Char) : Bool :=
  char.isAlphanum || char == '_' || char == '-'

/-- The character with a code point written in a fixed number of hexadecimal
digits, and the text after it. -/
def escapedPoint? (length : Nat) (text : List Char) : Option (Char × List Char) := do
  let digits ← (text.take length).mapM (digit? 16)
  let point := digits.foldl (fun value digit => 16 * value + digit) 0
  if digits.length = length ∧ point.isValidChar then
    some (Char.ofNat point, text.drop length)
  else none

/-- The character that an escape sequence stands for, after its backslash. -/
def escaped? : List Char → Option (Char × List Char)
  | 'b' :: rest => some ('\x08', rest)
  | 't' :: rest => some ('\t', rest)
  | 'n' :: rest => some ('\n', rest)
  | 'f' :: rest => some ('\x0C', rest)
  | 'r' :: rest => some ('\r', rest)
  | '"' :: rest => some ('"', rest)
  | '\\' :: rest => some ('\\', rest)
  | 'u' :: rest => escapedPoint? 4 rest
  | 'U' :: rest => escapedPoint? 8 rest
  | _ => none

/-- An escape sequence takes at least one character. -/
theorem length_lt_of_escaped? {text rest : List Char} {char : Char}
    (h : escaped? text = some (char, rest)) : rest.length < text.length := by
  have point {length : Nat} {text : List Char} (h : escapedPoint? length text = some (char, rest)) :
      rest.length ≤ text.length := by
    simp only [escapedPoint?, Option.bind_eq_bind, Option.bind_eq_some_iff,
      Option.ite_none_right_eq_some, Option.some.injEq, Prod.mk.injEq] at h
    obtain ⟨_, _, _, _, rfl⟩ := h
    simp
  unfold escaped? at h
  split at h
  case h_8 | h_9 => exact Nat.lt_succ_of_le (point h)
  case h_10 => simp at h
  all_goals
    simp only [Option.some.injEq, Prod.mk.injEq] at h
    obtain ⟨_, rfl⟩ := h
    simp

/-- A key in double quotes, after the first one, and the text after it. -/
def quotedKey? : List Char → Option (List Char × List Char)
  | [] => none
  | '"' :: rest => some ([], rest)
  | '\\' :: sequence =>
      match h : escaped? sequence with
      | none => none
      | some (char, rest) =>
          have := length_lt_of_escaped? h
          (quotedKey? rest).map fun (key, rest) => (char :: key, rest)
  | char :: rest =>
      if isPlain char then (quotedKey? rest).map fun (key, rest) => (char :: key, rest)
      else none
termination_by text => text.length

/-- A key and the text after it. -/
def key? : List Char → Option (List Char × List Char)
  | '"' :: rest => quotedKey? rest
  | '\'' :: rest =>
      match rest.span (· != '\'') with
      | (key, _ :: rest) => if key.all isPlain then some (key, rest) else none
      | (_, []) => none
  | text =>
      match text.span isBare with
      | ([], _) => none
      | (key, rest) => some (key, rest)

end CipherCalc.Settings
