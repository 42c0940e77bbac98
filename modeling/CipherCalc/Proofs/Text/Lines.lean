/-!
# The lines of a text

`lines` says which lines a text has: what stands between its line feeds, with a
carriage return dropped right before one, and the rest if there is any.

Whoever takes a text apart from left to right meets one line after another
(`lineChars_append`), so what holds of lines is shown by induction on them
(`line_induction`).
-/

namespace CipherCalc.Text

/-! ## Lines of characters -/

/-- A list without its last member if this is a given one. -/
def withoutLast {α : Type} [DecidableEq α] (last : α) (items : List α) : List α :=
  if items.getLast? = some last then items.dropLast else items

/-- The lines of characters.  All pieces between line feeds but the last one were
ended by a line feed; the last one is a line if it is not empty. -/
def lineChars (chars : List Char) : List (List Char) :=
  (chars.splitOn '\n').dropLast.map (withoutLast '\r') ++
    (chars.splitOn '\n').getLast?.toList.filter (· ≠ [])

/-- The lines of a text. -/
def lines (text : String) : List String :=
  (lineChars text.toList).map String.ofList

section

variable {α : Type} [DecidableEq α] {last : α}

theorem withoutLast_concat (items : List α) : withoutLast last (items ++ [last]) = items := by
  rw [withoutLast, if_pos List.getLast?_concat, List.dropLast_concat]

theorem withoutLast_of_ne {items : List α} (hlast : items.getLast? ≠ some last) :
    withoutLast last items = items :=
  if_neg hlast

theorem withoutLast_cons_cons (first second : α) (items : List α) :
    withoutLast last (first :: second :: items) = first :: withoutLast last (second :: items) := by
  unfold withoutLast
  rw [List.getLast?_cons_cons]
  split <;> rfl

theorem mem_of_mem_withoutLast {items : List α} {item : α} (hmem : item ∈ withoutLast last items) :
    item ∈ items := by
  unfold withoutLast at hmem
  split at hmem
  · exact List.dropLast_subset _ hmem
  · exact hmem

end

theorem lineChars_of_not_mem {chars : List Char} (hnone : '\n' ∉ chars) :
    lineChars chars = if chars = [] then [] else [chars] := by
  rw [lineChars, List.splitOn_eq_singleton hnone]
  by_cases hempty : chars = [] <;> simp [hempty]

theorem lineChars_append {line : List Char} (hline : '\n' ∉ line) (rest : List Char) :
    lineChars (line ++ '\n' :: rest) = withoutLast '\r' line :: lineChars rest := by
  have hrest := List.splitOn_ne_nil '\n' rest
  rw [lineChars, List.splitOn_append_cons_self_of_not_mem hline,
    List.dropLast_cons_of_ne_nil hrest, List.getLast?_cons_of_ne_nil hrest]
  rfl

example : lines "1\r\n\n2\r3" = ["1", "", "2\r3"] := by decide

/-- What holds of a list without a member, and of a list up to that member once it
holds of the rest, holds of all lists. -/
theorem line_induction {α : Type} {motive : List α → Prop} (separator : α)
    (single : ∀ line, separator ∉ line → motive line)
    (more : ∀ line rest, separator ∉ line → motive rest → motive (line ++ separator :: rest))
    (items : List α) : motive items := by
  induction hlength : items.length using Nat.strongRecOn generalizing items with
  | _ length ih =>
      by_cases hmem : separator ∈ items
      · obtain ⟨line, rest, rfl, hline⟩ := List.eq_append_cons_of_mem hmem
        refine more line rest hline (ih rest.length ?_ rest rfl)
        rw [← hlength, List.length_append, List.length_cons]
        omega
      · exact single items hmem

end CipherCalc.Text
