import CipherCalc.Readers.Grapheme

/-!
# Lines with backspaces

A backspace in a line that was not typed at a terminal takes the grapheme
cluster before it away, and itself.

The clusters are those of the line as it came, backspaces included.  So a mark
after a backspace is a cluster of its own, although it extends the character
that is left before it.  A line without backspaces stays as it is
(`applyBackspaces_of_not_mem`).
-/

namespace CipherCalc.Text

open Grapheme

/-- The backspace character. -/
def backspace : Char := '\x08'

/-- The number of bytes of characters in UTF-8. -/
def utf8Size (chars : List Char) : Nat :=
  chars.foldr (fun char size => char.utf8Size + size) 0

/-- Sizes of clusters are remembered modulo this number: each has one byte. -/
def sizeModulus : Nat := 256

/-- Takes bytes away from the front, and with its first byte a whole character. -/
def dropBytes : Nat → List Char → List Char
  | _, [] => []
  | 0, chars => chars
  | size + 1, char :: rest => dropBytes (size + 1 - char.utf8Size) rest

/-- What is left of the beginning of a line. -/
structure Remainder where
  /-- The characters that are left, the last one first. -/
  chars : List Char := []
  /-- The sizes of the clusters that can still be taken away, the last one
  first. -/
  sizes : List Nat := []
  deriving DecidableEq

/-- What is left after one more cluster. -/
def Remainder.next (remainder : Remainder) (cluster : List Char) : Remainder :=
  if cluster = [backspace] then
    match remainder.sizes with
    | [] => remainder
    | size :: sizes => { chars := dropBytes size remainder.chars, sizes }
  else
    { chars := cluster.reverse ++ remainder.chars
      sizes := utf8Size cluster % sizeModulus :: remainder.sizes }

/-- What backspaces leave of a line. -/
def applyBackspaces (line : String) : String :=
  String.ofList ((clusters line.toList).foldl Remainder.next {}).chars.reverse

/-! ## Lines without backspaces -/

theorem chars_foldl_next (clusters : List (List Char)) (remainder : Remainder)
    (h : [backspace] ∉ clusters) :
    (clusters.foldl Remainder.next remainder).chars =
      clusters.flatten.reverse ++ remainder.chars := by
  induction clusters generalizing remainder with
  | nil => rfl
  | cons cluster rest ih =>
      simp only [List.mem_cons, not_or] at h
      simp [ih _ h.2, Remainder.next, Ne.symm h.1]

/-- A line without backspaces stays as it is. -/
theorem applyBackspaces_of_not_mem {line : String} (h : backspace ∉ line.toList) :
    applyBackspaces line = line := by
  have hclusters : [backspace] ∉ clusters line.toList := fun hmem =>
    h (flatten_clusters line.toList ▸ List.mem_flatten_of_mem hmem (List.mem_singleton.2 rfl))
  simp [applyBackspaces, chars_foldl_next _ _ hclusters]

end CipherCalc.Text
