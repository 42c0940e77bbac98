import CipherCalc.Text.Blank
import Mathlib.Data.List.DropRight

/-!
# What trimming keeps

Trimming only looks at which characters are blank, so it commutes with every
change of characters that leaves the blank ones blank and the others not
(`trim_map`).  It drops nothing else (`mem_toList_trim`), leaves nothing of a
blank text (`trim_eq_empty_iff`), and what it leaves of any other text starts
with a character that is not blank (`isBlank_of_head_trim`).  Blank characters
behind a text make no difference to it (`trim_append`).

What is left is the only part of a text that has blank characters alone on either
side and none at its own ends (`exists_blank_append_trim`, `toList_trim_eq`).
-/

namespace CipherCalc.Text

/-! ## Dropping from the end -/

theorem dropEndWhile_eq_rdropWhile {α : Type} (p : α → Bool) (items : List α) :
    dropEndWhile p items = items.rdropWhile p := rfl

theorem dropEndWhile_map {α β : Type} (p : β → Bool) (f : α → β) (items : List α) :
    dropEndWhile p (items.map f) = (dropEndWhile (p ∘ f) items).map f := by
  rw [dropEndWhile, ← List.map_reverse, List.dropWhile_map, ← List.map_reverse]
  rfl

theorem mem_dropWhile_of_not {α : Type} {p : α → Bool} {items : List α} {item : α}
    (hmem : item ∈ items) (hnot : ¬ p item) : item ∈ items.dropWhile p := by
  rw [← List.takeWhile_append_dropWhile (p := p) (l := items)] at hmem
  rcases List.mem_append.mp hmem with hmem | hmem
  · exact absurd (List.mem_takeWhile_imp hmem) hnot
  · exact hmem

theorem mem_dropEndWhile_of_not {α : Type} {p : α → Bool} {items : List α} {item : α}
    (hmem : item ∈ items) (hnot : ¬ p item) : item ∈ dropEndWhile p items :=
  List.mem_reverse.mpr (mem_dropWhile_of_not (List.mem_reverse.mpr hmem) hnot)

theorem dropEndWhile_append_of_forall {α : Type} {p : α → Bool} {items tail : List α}
    (htail : ∀ item ∈ tail, p item) : dropEndWhile p (items ++ tail) = dropEndWhile p items := by
  rw [dropEndWhile, List.reverse_append, List.dropWhile_append_of_pos, dropEndWhile]
  exact fun item hitem => htail item (List.mem_reverse.mp hitem)

theorem exists_eq_dropEndWhile_append {α : Type} (p : α → Bool) (items : List α) :
    ∃ tail, (∀ item ∈ tail, p item) ∧ items = dropEndWhile p items ++ tail := by
  refine ⟨(items.reverse.takeWhile p).reverse, fun item hitem => ?_, ?_⟩
  · exact List.mem_takeWhile_imp (List.mem_reverse.mp hitem)
  · rw [dropEndWhile, ← List.reverse_append, List.takeWhile_append_dropWhile, List.reverse_reverse]

theorem dropFinalNewlines_eq_self {text : String} (hlast : text.toList.getLast? ≠ some '\n') :
    dropFinalNewlines text = text := by
  rw [← String.toList_inj, toList_dropFinalNewlines, dropEndWhile_eq_rdropWhile,
    List.rdropWhile_eq_self_iff]
  intro hne hnewline
  rw [List.getLast?_eq_some_getLast hne, beq_iff_eq.mp hnewline] at hlast
  exact hlast rfl

/-! ## Trimmed texts -/

theorem trim_map {f : Char → Char} (hblank : ∀ char, isBlank (f char) = isBlank char)
    (text : String) :
    trim (String.ofList (text.toList.map f)) = String.ofList ((trim text).toList.map f) := by
  have hsame : isBlank ∘ f = isBlank := funext hblank
  rw [← String.toList_inj, toList_trim, String.toList_ofList, String.toList_ofList, toList_trim,
    List.dropWhile_map, dropEndWhile_map, hsame]

theorem mem_toList_trim {char : Char} (hblank : ¬ isBlank char) {text : String} :
    char ∈ (trim text).toList ↔ char ∈ text.toList := by
  rw [toList_trim]
  constructor
  · intro hmem
    rw [dropEndWhile_eq_rdropWhile] at hmem
    have hdropped := (List.rdropWhile_prefix isBlank _).sublist.mem hmem
    exact (List.dropWhile_sublist isBlank).mem hdropped
  · intro hmem
    exact mem_dropEndWhile_of_not (mem_dropWhile_of_not hmem hblank) hblank

theorem isBlank_of_head_trim {text : String} {char : Char}
    (hhead : (trim text).toList.head? = some char) : ¬ isBlank char := by
  rw [toList_trim, dropEndWhile_eq_rdropWhile] at hhead
  obtain ⟨dropped, hdropped⟩ := List.rdropWhile_prefix isBlank (text.toList.dropWhile isBlank)
  have hfirst : (text.toList.dropWhile isBlank).head? = some char := by
    rw [← hdropped, List.head?_append, hhead, Option.some_or]
  have hnot := List.head?_dropWhile_not isBlank text.toList
  rw [hfirst] at hnot
  exact Bool.eq_false_iff.mp hnot

theorem trim_eq_empty_iff {text : String} : trim text = "" ↔ isBlankText text := by
  rw [← String.toList_eq_nil_iff, isBlankText, List.all_eq_true]
  constructor
  · intro hnil char hchar
    by_contra hblank
    have hmem := (mem_toList_trim hblank).mpr hchar
    rw [hnil] at hmem
    exact absurd hmem List.not_mem_nil
  · intro hall
    rw [toList_trim, List.dropWhile_eq_nil_iff.mpr hall, dropEndWhile_nil]

/-- Blank characters behind a text are trimmed with its own. -/
theorem trim_append {tail : String} (htail : isBlankText tail) (text : String) :
    trim (text ++ tail) = trim text := by
  have hblank : ∀ char ∈ tail.toList, isBlank char := List.all_eq_true.mp htail
  rw [← String.toList_inj, toList_trim, toList_trim, String.toList_append, List.dropWhile_append]
  by_cases hempty : (text.toList.dropWhile isBlank).isEmpty = true
  · rw [if_pos hempty, List.dropWhile_eq_nil_iff.mpr hblank, List.isEmpty_iff.mp hempty]
  · rw [if_neg hempty, dropEndWhile_append_of_forall hblank]

theorem exists_blank_append_trim (text : String) :
    ∃ before after, (∀ char ∈ before, isBlank char) ∧ (∀ char ∈ after, isBlank char) ∧
      text.toList = before ++ (trim text).toList ++ after := by
  obtain ⟨after, hafter, hrest⟩ :=
    exists_eq_dropEndWhile_append isBlank (text.toList.dropWhile isBlank)
  refine ⟨text.toList.takeWhile isBlank, after, fun char hchar => List.mem_takeWhile_imp hchar,
    hafter, ?_⟩
  rw [toList_trim, List.append_assoc, ← hrest, List.takeWhile_append_dropWhile]

theorem toList_trim_eq {text : String} {before core after : List Char}
    (htext : text.toList = before ++ core ++ after) (hbefore : ∀ char ∈ before, isBlank char)
    (hafter : ∀ char ∈ after, isBlank char)
    (hfirst : ∀ char, core.head? = some char → ¬ isBlank char)
    (hlast : ∀ char, core.getLast? = some char → ¬ isBlank char) : (trim text).toList = core := by
  have hend : dropEndWhile isBlank core = core := by
    rw [dropEndWhile_eq_rdropWhile, List.rdropWhile_eq_self_iff]
    exact fun hne => hlast _ (List.getLast?_eq_some_getLast hne)
  rw [toList_trim, htext, List.append_assoc, List.dropWhile_append_of_pos hbefore]
  cases core with
  | nil => rw [List.nil_append, List.dropWhile_eq_nil_iff.mpr hafter, dropEndWhile_nil]
  | cons first rest =>
      rw [List.cons_append, List.dropWhile_cons_of_neg (hfirst first rfl), ← List.cons_append,
        dropEndWhile_append_of_forall hafter, hend]

end CipherCalc.Text
