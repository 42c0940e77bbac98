import Mathlib.Data.List.TakeDrop
import Mathlib.Data.List.TakeWhile

/-!
# Runs

A run of members of one kind ends where one of another kind follows, so it is split off
whatever else comes behind it.
-/

namespace CipherCalc.Text

variable {α : Type} {p : α → Bool} {second : List α}

theorem stop_dropWhile (p : α → Bool) (items : List α) :
    ∀ item ∈ (items.dropWhile p).head?, p item = false := by
  intro item hitem
  have hnot := List.head?_dropWhile_not p items
  rw [Option.mem_def.mp hitem] at hnot
  exact hnot

theorem takeWhile_append_of_stop (first : List α)
    (hsecond : ∀ item ∈ second.head?, p item = false) :
    (first ++ second).takeWhile p = first.takeWhile p ∧
      (first ++ second).dropWhile p = first.dropWhile p ++ second := by
  induction first with
  | nil =>
      cases second with
      | nil => exact ⟨rfl, rfl⟩
      | cons item second =>
          have hstop : p item = false := hsecond item rfl
          simp [hstop]
  | cons item first ih => cases hitem : p item <;> simp [hitem, ih]

theorem takeWhile_run_append {run : List α} (hrun : ∀ item ∈ run, p item = true)
    (hsecond : ∀ item ∈ second.head?, p item = false) :
    (run ++ second).takeWhile p = run ∧ (run ++ second).dropWhile p = second := by
  obtain ⟨htake, hdrop⟩ := takeWhile_append_of_stop run hsecond
  rw [htake, hdrop, List.takeWhile_eq_self_iff.mpr hrun, List.dropWhile_eq_nil_iff.mpr hrun]
  exact ⟨rfl, List.nil_append second⟩

end CipherCalc.Text
