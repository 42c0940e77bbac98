import CipherCalc.Proofs.Decimal.Positional
import CipherCalc.Proofs.Expr.Stages

/-!
# Results are expressions

The text of a finite result is a literal, with its sign if it has one, so it is an
expression of one token (`scan_of_isLiteral`), and what that is worth is what the
literal is read as (`value_of_isLiteral`).  There are two cases.  A result that is
not zero is read as itself, whatever its word (`read?_resultText`); zero is written
without its sign and loses it (`value_resultText_of_eq_zero`).  Either way the text
is the same once more (`report_resultText`).
-/

namespace CipherCalc.Expr

open Token

/-! ## Expressions of one literal -/

section

variable {α : Type} [Arithmetic α] {text : String}

theorem scan_of_isLiteral (hliteral : IsLiteral text.toList) : scan text = .ok [.number text] := by
  have hlisting : listing [.number text] = text := by
    simp [listing, Token.text]
  have hwell : LexicallyWellFormed [.number text] :=
    ⟨fun token hmem => List.mem_singleton.mp hmem ▸ hliteral, by simp, .singleton _⟩
  have hscan := (scan_listing_iff [.number text]).mpr hwell
  rwa [hlisting] at hscan

/-- A literal is worth the number that it is read as. -/
theorem value_of_isLiteral (hliteral : IsLiteral text.toList) {result : α}
    (hread : Arithmetic.read? text = some result) : value text = .ok result := by
  have hlisting : Postfix.ofInfix [.number text] = .ok [.number text] := rfl
  rw [value_of_ofInfix (scan_of_isLiteral hliteral) hlisting]
  simp [Postfix.value, Postfix.stack, Postfix.push, hread]

end

/-! ## Texts of results -/

/-- Without its steps a result is all that is shown. -/
theorem report_false (text : String) : report false text = (value text).map resultText := by
  rw [report, value, Fallible.map_map]
  rfl

section

variable {result : Float}

theorem value_resultText_of_ne_zero (hfinite : result.isFinite = true)
    (hnonzero : Binary64.code result ≠ 0) : value (resultText result) = .ok result :=
  value_of_isLiteral (isLiteral_resultText hfinite hnonzero) (read?_resultText hfinite hnonzero)

theorem value_resultText_of_eq_zero (hzero : Binary64.code result = 0) :
    value (resultText result) = .ok (Float.ofBits 0) := by
  rw [resultText_eq_zero hzero]
  decide +kernel

theorem report_resultText (hfinite : result.isFinite = true) :
    report false (resultText result) = .ok (resultText result) := by
  rw [report_false]
  by_cases hzero : Binary64.code result = 0
  · have hpositive : Binary64.code (Float.ofBits 0) = 0 := by decide
    rw [value_resultText_of_eq_zero hzero, Except.map, resultText_eq_zero hpositive,
      resultText_eq_zero hzero]
  · rw [value_resultText_of_ne_zero hfinite hzero, Except.map]

/-- **A finite result can be read back from its text.**  Evaluating the text gives
the result bit for bit, and positive zero for a negative one; so whatever expression
had the result, the text that answered it answers itself. -/
theorem value_resultText (hfinite : result.isFinite = true) :
    (∃ again : Float, value (resultText result) = .ok again ∧
      again.toBits = if result.toBits = 0x8000000000000000 then 0 else result.toBits) ∧
    ∀ text shown, value text = .ok result → report false text = .ok shown →
      report false shown = .ok shown := by
  constructor
  · by_cases hzero : Binary64.code result = 0
    · refine ⟨Float.ofBits 0, value_resultText_of_eq_zero hzero, ?_⟩
      have hpositive : (Float.ofBits 0).toBits = 0 := by decide
      rcases Binary64.toBits_of_code_eq_zero hzero with hbits | hbits <;> rw [hbits, hpositive]
      · decide
      · decide
    · have hbits : result.toBits ≠ 0x8000000000000000 := fun hbits => by
        rw [Binary64.code, hbits] at hzero
        exact hzero (by decide)
      exact ⟨result, value_resultText_of_ne_zero hfinite hzero, (if_neg hbits).symm⟩
  · intro text shown hvalue hshown
    rw [report_false, hvalue] at hshown
    obtain rfl : resultText result = shown := Except.ok.inj hshown
    exact report_resultText hfinite

end

/-- A sum that needs seventeen digits, and negative zero. -/
theorem value_resultText_sum_negativeZero :
    (value "0.1+0.2" = .ok (Float.ofBits 0x3fd3333333333334) ∧
      report false "0.1+0.2" = .ok "0.30000000000000004" ∧
      report false "0.30000000000000004" = .ok "0.30000000000000004") ∧
    ∃ again : Float, value (resultText (Float.ofBits 0x8000000000000000)) = .ok again ∧
      again.toBits = 0 := by
  have hvalue : value "0.1+0.2" = .ok (Float.ofBits 0x3fd3333333333334) := by decide +kernel
  have hshown : report false "0.1+0.2" = .ok "0.30000000000000004" := by
    rw [report_false, hvalue]
    decide +kernel
  refine ⟨⟨hvalue, hshown, ?_⟩, ?_⟩
  · exact (value_resultText (by decide)).2 _ _ hvalue hshown
  · exact (value_resultText (by decide)).1

end CipherCalc.Expr
