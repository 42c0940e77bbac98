import CipherCalc.Decimal.Numeral
import CipherCalc.Proofs.Expr.Derivation
import Mathlib.Data.List.TakeWhile

/-!
# Literals are numerals

The scanner and the reader of numerals describe numbers independently.  What the
scanner lets through as a literal is a numeral, so binary64 arithmetic reads
every literal.
-/

namespace CipherCalc

open CipherCalc.Expr

namespace Numeral

theorem splitSign_of_isLiteral {text : List Char} (hliteral : IsLiteral text) :
    (splitSign text).2 = unsigned text := by
  unfold splitSign
  split
  · rfl
  · next rest =>
      have hplus := hliteral.1 '+' (by simp [unsigned])
      exact absurd hplus (by decide)
  · next hminus _ => exact (unsigned_eq_self hminus).symm

section

variable {text rest : List Char}

theorem eq_point_of_dropWhile (hchars : ∀ char ∈ text, char.isDigit ∨ char = '.') {mark : Char}
    (htail : text.dropWhile Char.isDigit = mark :: rest) : mark = '.' := by
  have hstop := List.head?_dropWhile_not Char.isDigit text
  rw [htail] at hstop
  have hmem : mark ∈ text :=
    (List.dropWhile_suffix Char.isDigit).mem (htail ▸ List.mem_cons_self)
  exact (hchars mark hmem).resolve_left (by simpa using hstop)

/-- The point that ended the whole part was the only one. -/
theorem isDigit_of_dropWhile (hchars : ∀ char ∈ text, char.isDigit ∨ char = '.')
    (hpoints : text.count '.' ≤ 1) (htail : text.dropWhile Char.isDigit = '.' :: rest) :
    ∀ char ∈ rest, char.isDigit = true := by
  intro char hmem
  have hsuffix : '.' :: rest <:+ text := htail ▸ List.dropWhile_suffix Char.isDigit
  have hcount : rest.count '.' = 0 := by
    have hle := hsuffix.sublist.count_le '.'
    rw [List.count_cons_self] at hle
    omega
  refine (hchars char (hsuffix.mem (List.mem_cons_of_mem _ hmem))).resolve_right fun hpoint => ?_
  exact List.count_eq_zero.mp hcount (hpoint ▸ hmem)

/-- Digits with at most one point are read to the end. -/
theorem splitDigits_of_isLiteral (hchars : ∀ char ∈ text, char.isDigit ∨ char = '.')
    (hpoints : text.count '.' ≤ 1) (hdigit : ∃ char ∈ text, char.isDigit) :
    (splitDigits text).2.2 = [] ∧
      ¬ ((splitDigits text).1 = [] ∧ (splitDigits text).2.1 = []) := by
  have hsplit := List.takeWhile_append_dropWhile (p := Char.isDigit) (l := text)
  obtain ⟨char, hmem, hchar⟩ := hdigit
  cases htail : text.dropWhile Char.isDigit with
  | nil =>
      rw [htail, List.append_nil] at hsplit
      have hwhole : text.takeWhile Char.isDigit ≠ [] := by
        rw [hsplit]
        exact List.ne_nil_of_mem hmem
      simp [splitDigits, htail, hwhole]
  | cons mark fraction =>
      obtain rfl := eq_point_of_dropWhile hchars htail
      have hrest := isDigit_of_dropWhile hchars hpoints htail
      have hfraction : fraction.takeWhile Char.isDigit = fraction ∧
          fraction.dropWhile Char.isDigit = [] :=
        ⟨List.takeWhile_eq_self_iff.mpr hrest, List.dropWhile_eq_nil_iff.mpr hrest⟩
      refine ⟨by simp [splitDigits, htail, hfraction], ?_⟩
      rintro ⟨hwhole, hempty⟩
      simp only [splitDigits, htail, hfraction] at hwhole hempty
      -- then the text is the point alone, and has no digit
      rw [htail, hwhole, hempty] at hsplit
      rw [← hsplit, List.nil_append, List.mem_singleton] at hmem
      rw [hmem] at hchar
      exact absurd hchar (by decide)

end

theorem isSome_decimal?_of_isLiteral {text : List Char} (hliteral : IsLiteral text) :
    (decimal? (unsigned text)).isSome = true := by
  obtain ⟨hrest, hdigits⟩ := splitDigits_of_isLiteral hliteral.1 hliteral.2.1 hliteral.2.2
  simp only [decimal?, hdigits, if_false, hrest, exponent?, Option.map_some, Option.isSome_some]

theorem isSome_ofString?_of_isLiteral {text : String} (hliteral : IsLiteral text.toList) :
    (ofString? text).isSome = true := by
  have hdecimal := isSome_decimal?_of_isLiteral hliteral
  rw [← splitSign_of_isLiteral hliteral] at hdecimal
  simp only [ofString?]
  split
  · rfl
  · split
    · rfl
    · rw [Option.isSome_map, hdecimal]

end Numeral

namespace Expr

instance : ReadsLiterals Float where
  isSome_read? leaf := by
    show ((Numeral.ofString? leaf.text).map Numeral.toFloat).isSome = true
    rw [Option.isSome_map, Numeral.isSome_ofString?_of_isLiteral leaf.isLiteral]

end Expr

end CipherCalc
