import ExamHall.Power
import ExamHall.Text.Numeral
import Mathlib.Logic.Function.Defs

/-!
# Numerals are read back

The digits of a number are read as that number, with and without leading zeros,
so different numbers have different digits.
-/

namespace ExamHall.Text

theorem digitValue?_digitChar {digit : Nat} (small : digit < 10) :
    digitValue? (digitChar digit) = some digit := by
  revert digit
  decide

theorem digitChar_mod (number : Nat) :
    digitChar (number % 10) = digitChar number := by
  simp [digitChar]

theorem readDigitsFrom_append (value : Nat) (front back : List Char) :
    readDigitsFrom value (front ++ back) =
      (readDigitsFrom value front).bind fun read =>
        readDigitsFrom read back := by
  induction front generalizing value with
  | nil => rfl
  | cons c rest ih =>
      simp only [List.cons_append, readDigitsFrom]
      cases digitValue? c with
      | none => rfl
      | some digit => exact ih _

theorem readDigitsFrom_digitChar (value number : Nat) :
    readDigitsFrom value [digitChar number] =
      some (10 * value + number % 10) := by
  rw [← digitChar_mod]
  simp [readDigitsFrom,
    digitValue?_digitChar (Nat.mod_lt number (by decide : 0 < 10))]

/-- Reading goes through the digits from the left, while they are written from
the right. -/
theorem readDigitsFrom_numeralWithin {fuel number : Nat}
    (enough : number < fuel) :
    readDigitsFrom 0 (numeralWithin fuel number) = some number := by
  induction fuel generalizing number with
  | zero => exact absurd enough (Nat.not_lt_zero number)
  | succ fuel ih =>
      unfold numeralWithin
      split
      · next small =>
          rw [readDigitsFrom_digitChar]
          simp [Nat.mod_eq_of_lt small]
      · next large =>
          rw [readDigitsFrom_append, ih (by omega), Option.bind_some,
            readDigitsFrom_digitChar]
          congr 1
          omega

theorem readDigitsFrom_numeral (number : Nat) :
    readDigitsFrom 0 (numeral number) = some number :=
  readDigitsFrom_numeralWithin (Nat.lt_succ_self number)

theorem numeral_injective : Function.Injective numeral := by
  intro left right same
  have read := readDigitsFrom_numeral left
  rw [same, readDigitsFrom_numeral] at read
  exact (Option.some.inj read).symm

theorem ofNat_injective : Function.Injective ofNat := by
  intro left right same
  exact numeral_injective (String.ofList_inj.mp same)

theorem mem_numeralWithin {fuel number : Nat} {c : Char}
    (membership : c ∈ numeralWithin fuel number) :
    ∃ digit, c = digitChar digit := by
  induction fuel generalizing number with
  | zero => cases membership
  | succ fuel ih =>
      unfold numeralWithin at membership
      split at membership
      · exact ⟨number, List.mem_singleton.mp membership⟩
      · rcases List.mem_append.mp membership with front | last
        · exact ih front
        · exact ⟨number, List.mem_singleton.mp last⟩

/-- A numeral consists of digits. -/
theorem mem_toList_ofNat {number : Nat} {c : Char}
    (membership : c ∈ (ofNat number).toList) :
    ∃ digit, c = digitChar digit := by
  rw [ofNat, String.toList_ofList] at membership
  exact mem_numeralWithin membership

/-- The last digit of a numeral is that of the number. -/
theorem numeral_eq_append (number : Nat) :
    ∃ front, numeral number = front ++ [digitChar number] := by
  unfold numeral numeralWithin
  split
  · exact ⟨[], rfl⟩
  · exact ⟨_, rfl⟩

/-- Digits are none of the other characters. -/
theorem digitChar_ne {c : Char} (other : ∀ digit < 10, digitChar digit ≠ c)
    (number : Nat) : digitChar number ≠ c := by
  rw [← digitChar_mod]
  exact other _ (Nat.mod_lt number (by decide))

theorem digitChar_ne_space (number : Nat) : digitChar number ≠ ' ' :=
  digitChar_ne (by decide) number

theorem digitChar_ne_nul (number : Nat) : digitChar number ≠ '\x00' :=
  digitChar_ne (by decide) number

theorem mem_paddedNumeral {width number : Nat} {c : Char}
    (membership : c ∈ paddedNumeral width number) :
    ∃ digit, c = digitChar digit := by
  induction width generalizing number with
  | zero => cases membership
  | succ width ih =>
      rcases List.mem_append.mp membership with front | last
      · exact ih front
      · exact ⟨number, List.mem_singleton.mp last⟩

/-- A small number has few digits. -/
theorem length_numeralWithin_le {fuel number digits : Nat}
    (small : number < tenTo (digits + 1)) :
    (numeralWithin fuel number).length ≤ digits + 1 := by
  induction fuel generalizing number digits with
  | zero => exact Nat.zero_le _
  | succ fuel ih =>
      unfold numeralWithin
      split
      · exact Nat.succ_le_succ (Nat.zero_le digits)
      · next large =>
          cases digits with
          | zero => exact absurd small large
          | succ digits =>
              rw [List.length_append]
              apply Nat.succ_le_succ
              apply ih
              rw [tenTo_succ] at small
              omega

theorem length_numeral_le {number digits : Nat}
    (small : number < tenTo (digits + 1)) :
    (numeral number).length ≤ digits + 1 :=
  length_numeralWithin_le small

theorem length_paddedNumeral (width number : Nat) :
    (paddedNumeral width number).length = width := by
  induction width generalizing number with
  | zero => rfl
  | succ width ih => simp [paddedNumeral, ih]

/-- A numeral with leading zeros is read as the number that its digits leave of
it. -/
theorem readDigitsFrom_paddedNumeral (value width number : Nat) :
    readDigitsFrom value (paddedNumeral width number) =
      some (value * tenTo width + number % tenTo width) := by
  induction width generalizing number with
  | zero => simp [paddedNumeral, readDigitsFrom, tenTo_zero, Nat.mod_one]
  | succ width ih =>
      rw [paddedNumeral, readDigitsFrom_append, ih, Option.bind_some,
        readDigitsFrom_digitChar, tenTo_succ, Nat.mul_comm (tenTo width),
        Nat.mod_mul, Nat.mul_left_comm value]
      congr 1
      omega

theorem readDigits?_eq {cs : List Char} (some : cs ≠ []) :
    readDigits? cs = readDigitsFrom 0 cs := by
  cases cs with
  | nil => exact (some rfl).elim
  | cons c rest => rfl

theorem readDigits?_paddedNumeral {width number : Nat} (positive : 0 < width)
    (small : number < tenTo width) :
    readDigits? (paddedNumeral width number) = some number := by
  have some : paddedNumeral width number ≠ [] := by
    intro empty
    have none := length_paddedNumeral width number
    rw [empty] at none
    exact Nat.ne_of_lt positive none
  rw [readDigits?_eq some, readDigitsFrom_paddedNumeral, Nat.zero_mul,
    Nat.zero_add, Nat.mod_eq_of_lt small]

end ExamHall.Text
