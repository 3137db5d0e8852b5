import ExamHall.Decimal.Text
import ExamHall.Proofs.Text.Numeral

/-!
# Decimals are read back

The text of a decimal shows all its digits, so it is read as the same decimal
with the same scale.  Only the sign of a negative zero is lost.
-/

namespace ExamHall.Decimal

open ExamHall.Text

theorem digitChar_ne_mark (digit : Nat) :
    digitChar digit ≠ '.' ∧ digitChar digit ≠ '_' ∧ digitChar digit ≠ '-' ∧
    digitChar digit ≠ '+' :=
  ⟨digitChar_ne (by decide) digit, digitChar_ne (by decide) digit,
    digitChar_ne (by decide) digit, digitChar_ne (by decide) digit⟩

/-- The text of a decimal has digits in it, a sign and a point. -/
theorem mem_toChars {value : Decimal} {c : Char} (inside : c ∈ value.toChars) :
    c = '-' ∨ c = '.' ∨ ∃ digit, c = digitChar digit := by
  simp only [toChars, List.mem_append] at inside
  rcases inside with (sign | whole) | fraction
  · split at sign
    · exact .inl (List.mem_singleton.mp sign)
    · cases sign
  · exact .inr (.inr (mem_numeralWithin whole))
  · split at fraction
    · cases fraction
    · rcases List.mem_cons.mp fraction with point | digit
      · exact .inr (.inl point)
      · exact .inr (.inr (mem_paddedNumeral digit))

/-- One more digit that fits is taken in. -/
theorem readMagnitude_digitChar {scan : Scan} {number : Nat} {rest : List Char}
    (room : ¬(scan.afterPoint = true ∧ scan.scale = maxScale))
    (fits : 10 * scan.magnitude + number % 10 < limit) :
    readMagnitude scan (digitChar number :: rest) = readMagnitude
      { magnitude := 10 * scan.magnitude + number % 10
        scale := if scan.afterPoint then scan.scale + 1 else scan.scale
        afterPoint := scan.afterPoint
        anyDigit := true } rest := by
  obtain ⟨point, blank, -, -⟩ := digitChar_ne_mark number
  have read : digitValue? (digitChar number) = some (number % 10) := by
    rw [← digitChar_mod]
    exact digitValue?_digitChar (Nat.mod_lt number (by decide))
  rw [readMagnitude, if_neg room, if_neg point, if_neg blank, read]
  exact if_pos fits

/-- What a numeral adds to a scan that has not seen a digit. -/
theorem readMagnitude_numeralWithin {fuel number : Nat} {anyDigit : Bool}
    {rest : List Char} (enough : number < fuel) (fits : number < limit) :
    readMagnitude ⟨0, 0, false, anyDigit⟩ (numeralWithin fuel number ++ rest) =
      readMagnitude ⟨number, 0, false, true⟩ rest := by
  induction fuel generalizing number anyDigit rest with
  | zero => exact absurd enough (Nat.not_lt_zero number)
  | succ fuel ih =>
      unfold numeralWithin
      split
      · next small =>
          have digit := Nat.mod_eq_of_lt small
          rw [List.singleton_append,
            readMagnitude_digitChar (by simp) (by simpa [digit] using fits)]
          simp [digit]
      · next large =>
          have digits : 10 * (number / 10) + number % 10 = number :=
            Nat.div_add_mod number 10
          rw [List.append_assoc, ih (by omega) (by omega),
            List.singleton_append,
            readMagnitude_digitChar (by simp) (by simpa [digits] using fits)]
          simp [digits]

/-- What fractional digits add to a scan with room for them. -/
theorem readMagnitude_paddedNumeral {width magnitude scale number : Nat}
    {rest : List Char} (room : scale + width ≤ maxScale)
    (fits : magnitude * tenTo width + number % tenTo width < limit) :
    readMagnitude ⟨magnitude, scale, true, true⟩
      (paddedNumeral width number ++ rest) =
      readMagnitude ⟨magnitude * tenTo width + number % tenTo width,
        scale + width, true, true⟩
        rest := by
  induction width generalizing number rest with
  | zero => simp [paddedNumeral, tenTo_zero, Nat.mod_one]
  | succ width ih =>
      have split : 10 * (magnitude * tenTo width + number / 10 % tenTo width) +
          number % 10 =
          magnitude * tenTo (width + 1) + number % tenTo (width + 1) := by
        rw [tenTo_succ, Nat.mul_comm (tenTo width) 10, Nat.mod_mul,
          Nat.mul_left_comm]
        omega
      rw [paddedNumeral, List.append_assoc, ih (by omega) (by omega),
        List.singleton_append,
        readMagnitude_digitChar (by simp; omega) (by simpa [split] using fits)]
      simp [split, Nat.add_assoc]

/-- The digits of a decimal and its point are read as its magnitude and its
scale. -/
theorem readMagnitude_digits (value : Decimal) :
    readMagnitude ⟨0, 0, false, false⟩
      (numeral (value.magnitude / tenTo value.scale) ++ if value.scale = 0
        then [] else
        '.' ::
          paddedNumeral value.scale (value.magnitude % tenTo value.scale)) =
      some (value.magnitude, value.scale) := by
  have whole : value.magnitude / tenTo value.scale < limit :=
    Nat.lt_of_le_of_lt (Nat.div_le_self _ _) value.magnitude_lt
  rw [numeral, readMagnitude_numeralWithin (Nat.lt_succ_self _) whole]
  split
  · next plain => simp [plain, tenTo_zero, readMagnitude]
  · next places =>
      have digits := Nat.div_add_mod' value.magnitude (tenTo value.scale)
      rw [readMagnitude, if_neg (by simp), if_pos rfl, if_neg (by simp),
        ← List.append_nil (paddedNumeral _ _),
        readMagnitude_paddedNumeral (by simpa using value.scale_le)
          (by simpa [digits] using value.magnitude_lt)]
      simp [digits, readMagnitude]

/-- A numeral starts with a digit. -/
theorem exists_numeral_eq_cons (number : Nat) :
    ∃ digit rest, numeral number = digitChar digit :: rest := by
  cases digits : numeral number with
  | nil =>
      obtain ⟨front, ending⟩ := numeral_eq_append number
      simp [digits] at ending
  | cons first rest =>
      have inside : first ∈ numeral number := digits ▸ List.mem_cons_self
      obtain ⟨digit, rfl⟩ := mem_numeralWithin inside
      exact ⟨digit, rest, rfl⟩

/-- What starts with a digit has no sign. -/
theorem readPlain?_digitChar (digit : Nat) (rest : List Char) :
    readPlain? (digitChar digit :: rest) =
      (readMagnitude ⟨0, 0, false, false⟩ (digitChar digit :: rest)).bind
        fun part => (ofParts? false part.1 part.2).map plainZero := by
  obtain ⟨-, -, minus, plus⟩ := digitChar_ne_mark digit
  simp [readPlain?, minus, plus]

theorem readPlain?_toChars (value : Decimal) :
    readPlain? value.toChars = some value.plainZero := by
  have parts :
      (ofParts? value.negative value.magnitude value.scale).map plainZero =
        some value.plainZero := by
    simp
  have digits := readMagnitude_digits value
  unfold toChars
  cases sign : value.negative with
  | true =>
      rw [sign] at parts
      simp [readPlain?, digits, parts]
  | false =>
      rw [sign] at parts
      obtain ⟨digit, rest, first⟩ :=
        exists_numeral_eq_cons (value.magnitude / tenTo value.scale)
      rw [first, List.cons_append] at digits
      simp only [first, Bool.false_eq_true, if_false, List.nil_append,
        List.cons_append]
      rw [readPlain?_digitChar, digits]
      exact parts

/-- A decimal is read back from its text, except for the sign of a zero. -/
theorem ofText?_toText (value : Decimal) :
    ofText? value.toText = some value.plainZero := by
  rw [ofText?, toText, String.toList_ofList, readPlain?_toChars]

theorem ofAnyText?_toText (value : Decimal) :
    ofAnyText? value.toText = some value.plainZero := by
  have plainly : readPlain? value.toText.toList = some value.plainZero :=
    ofText?_toText value
  rw [ofAnyText?, plainly]
  rfl

/-! ## Where a negative zero comes from -/

/-- Only a zero can lose anything, and only its sign. -/
theorem plainZero_eq_self_iff {value : Decimal} :
    value.plainZero = value ↔ value.magnitude = 0 → value.negative = false := by
  obtain ⟨negative, magnitude, scale, bounds, few⟩ := value
  simp only [plainZero]
  split
  · next zero => simp [zero, eq_comm]
  · next nonzero => simp [nonzero]

@[simp] theorem plainZero_plainZero (value : Decimal) :
    value.plainZero.plainZero = value.plainZero := by
  rw [plainZero_eq_self_iff, plainZero]
  split <;> simp_all

theorem plainZero_of_make? {coefficient : Int} {scale : Nat} {value : Decimal}
    (made : make? coefficient scale = some value) :
    value.plainZero = value := by
  unfold make? ofParts? at made
  split at made
  · cases made
    rw [plainZero_eq_self_iff]
    intro zero
    have : coefficient = 0 := Int.natAbs_eq_zero.mp zero
    simp [this]
  · cases made

theorem plainZero_of_readPlain? {cs : List Char} {value : Decimal}
    (read : readPlain? cs = some value) : value.plainZero = value := by
  obtain ⟨part, -, made⟩ := Option.bind_eq_some_iff.mp read
  obtain ⟨signed, -, rfl⟩ := Option.map_eq_some_iff.mp made
  exact plainZero_plainZero signed

/-- Moving the point to the right leaves a value that has lost no digit. -/
theorem plainZero_of_shiftRight? {value moved : Decimal} {places : Nat}
    (plain : value.plainZero = value)
    (shifted : value.shiftRight? places = some moved) :
    moved.plainZero = moved := by
  unfold shiftRight? at shifted
  split at shifted
  · unfold ofParts? at shifted
    split at shifted
    · cases shifted
      have unsigned : value.magnitude = 0 → value.negative = false :=
        plainZero_eq_self_iff.mp plain
      exact plainZero_eq_self_iff.mpr unsigned
    · cases shifted
  · obtain ⟨signed, -, rfl⟩ := Option.map_eq_some_iff.mp shifted
    exact plainZero_plainZero signed

/-- A text in scientific form that moves the point to the left. -/
def HasNegativeExponent (text : String) : Prop :=
  ∃ mantissa mark places, text.toList = mantissa ++ mark :: '-' :: places ∧
    (mark = 'e' ∨ mark = 'E')

/-- A negative zero is what moving the point to the left has left of a negative
value. -/
theorem hasNegativeExponent_of_ofAnyText? {text : String} {value : Decimal}
    (read : ofAnyText? text = some value) (signed : value.plainZero ≠ value) :
    HasNegativeExponent text := by
  rw [ofAnyText?, Option.or_eq_some_iff] at read
  rcases read with plainly | ⟨-, read⟩
  · exact absurd (plainZero_of_readPlain? plainly) signed
  · unfold readScientific? at read
    dsimp only at read
    split at read
    · cases read
    · next mark exponent tail =>
        obtain ⟨mantissa, plainly, read⟩ := Option.bind_eq_some_iff.mp read
        have parts := List.takeWhile_append_dropWhile (l := text.toList)
          (p := fun c => !(c == 'e' || c == 'E'))
        rw [tail] at parts
        have isMark : mark = 'e' ∨ mark = 'E' := by
          have first
            := List.head?_dropWhile_not (fun c => !(c == 'e' || c == 'E'))
              text.toList
          rw [tail] at first
          simpa [Decidable.or_iff_not_imp_left] using first
        split at read
        · exact ⟨_, mark, _, parts.symm, isMark⟩
        · obtain ⟨places, -, shifted⟩ := Option.bind_eq_some_iff.mp read
          exact absurd (plainZero_of_shiftRight?
              (plainZero_of_readPlain? plainly) shifted) signed

end ExamHall.Decimal
