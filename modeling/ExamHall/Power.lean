/-!
# Powers of two and ten

The sizes of words with a number of bits, and the units of numbers with a number
of decimal places.
-/

namespace ExamHall

/-- The number of values that a number of bits can hold. -/
def twoTo (bits : Nat) : Nat := Nat.pow 2 bits

/-- The number that has a one before a number of zeros. -/
def tenTo (places : Nat) : Nat := Nat.pow 10 places

theorem tenTo_zero : tenTo 0 = 1 := rfl

theorem tenTo_succ (places : Nat) :
    tenTo (places + 1) = tenTo places * 10 := rfl

theorem tenTo_pos (places : Nat) : 0 < tenTo places :=
  Nat.pow_pos (by decide)

theorem two_le_tenTo {places : Nat} (positive : 0 < places) :
    2 ≤ tenTo places := by
  cases places with
  | zero => exact absurd positive (Nat.lt_irrefl 0)
  | succ places =>
    have := tenTo_pos places
    rw [tenTo_succ]
    omega

theorem twoTo_pos (bits : Nat) : 0 < twoTo bits :=
  Nat.pow_pos (by decide)

end ExamHall
