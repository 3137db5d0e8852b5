import ExamHall.Text.Pieces
import Mathlib.Data.List.Basic

/-!
# What is left of trimmed and joined texts

Trimming takes characters off the two ends of a text and adds none.  Pieces that
are joined by a mark come apart again, if the mark does not stand in them.
-/

namespace ExamHall.Text

theorem trimChars_sublist (cs : List Char) : (trimChars cs).Sublist cs := by
  have front : ∀ cs : List Char, (cs.dropWhile isBlank).Sublist cs := fun cs =>
    (List.dropWhile_suffix isBlank).sublist
  have back := (front (cs.dropWhile isBlank).reverse).reverse
  rw [List.reverse_reverse] at back
  exact back.trans (front cs)

theorem length_trim_le (text : String) : (trim text).length ≤ text.length := by
  rw [← String.length_toList, ← String.length_toList, toList_trim]
  exact (trimChars_sublist text.toList).length_le

variable {mark : Char}

theorem pieces_of_not_mem {piece : List Char} (free : mark ∉ piece) :
    pieces mark piece = [piece] := by
  induction piece with
  | nil => rfl
  | cons c rest ih =>
      rw [List.mem_cons, not_or] at free
      simp only [pieces, Ne.symm free.1, if_false, ih free.2]

theorem pieces_append_mark {piece : List Char} (free : mark ∉ piece)
    (rest : List Char) :
    pieces mark (piece ++ mark :: rest) = piece :: pieces mark rest := by
  induction piece with
  | nil => exact pieces_mark mark rest
  | cons c piece ih =>
      rw [List.mem_cons, not_or] at free
      simp only [List.cons_append, pieces, Ne.symm free.1, if_false, ih free.2]

/-- Joining some pieces is undone by taking the text apart. -/
theorem pieces_intercalate {parts : List (List Char)} (nonempty : parts ≠ [])
    (free : ∀ part ∈ parts, mark ∉ part) :
    pieces mark (List.intercalate [mark] parts) = parts := by
  induction parts with
  | nil => exact absurd rfl nonempty
  | cons first rest ih =>
      have firstFree := free first List.mem_cons_self
      cases rest with
      | nil =>
          rw [List.intercalate_singleton]
          exact pieces_of_not_mem firstFree
      | cons second rest =>
          rw [List.intercalate_cons_cons, List.append_assoc,
            List.singleton_append, pieces_append_mark firstFree,
            ih (List.cons_ne_nil second rest)]
          exact fun part inside => free part (List.mem_cons_of_mem first inside)

/-- Joining adds nothing but marks. -/
theorem mem_intercalate {c : Char} {parts : List (List Char)}
    (inside : c ∈ List.intercalate [mark] parts) :
    c = mark ∨ ∃ part ∈ parts, c ∈ part := by
  induction parts with
  | nil => cases inside
  | cons first rest ih =>
      cases rest with
      | nil =>
          rw [List.intercalate_singleton] at inside
          exact .inr ⟨first, List.mem_cons_self, inside⟩
      | cons second rest =>
          rw [List.intercalate_cons_cons, List.append_assoc, List.mem_append,
            List.mem_append, List.mem_singleton] at inside
          rcases inside with here | same | later
          · exact .inr ⟨first, List.mem_cons_self, here⟩
          · exact .inl same
          · exact (ih later).imp_right fun ⟨part, listed, inside⟩ =>
              ⟨part, List.mem_cons_of_mem first listed, inside⟩

end ExamHall.Text
