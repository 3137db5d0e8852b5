import ExamHall.Assignment.AccessCode
import ExamHall.Proofs.Store.Lawful
import ExamHall.Proofs.Text.Bytes
import ExamHall.Proofs.Text.Case
import Mathlib.Data.Set.Function

/-!
# Comparing access codes

The canonical form of a code is its own canonical form, so it does not matter
how often a code has been brought into it before it is hashed.  As far as the
hashes of two codes do not collide, the codes are taken for the same exactly if
their canonical forms are.
-/

namespace ExamHall

theorem Sha256.length_hash (message : List UInt8) :
    (Sha256.hash message).length = 32 := by
  simp [Sha256.hash, Sha256.State.bytes, Sha256.bytesOf]

namespace AccessCode

theorem canonical_canonical (code : String) :
    canonical (canonical code) = canonical code :=
  Text.upper_trim_idem code

theorem hash_eq_of_canonical {code other : String}
    (same : canonical code = canonical other) : hash code = hash other := by
  rw [hash, same, hash]

/-- The hashes of two codes do not collide. -/
def AreApart (code other : String) : Prop :=
  Set.InjOn Sha256.hash {Text.utf8 (canonical code),
    Text.utf8 (canonical other)}

theorem hash_eq_iff {code other : String} (apart : AreApart code other) :
    hash code = hash other ↔ canonical code = canonical other := by
  constructor
  · intro same
    have bytes : Text.utf8 (canonical code) = Text.utf8 (canonical other) :=
      apart (Set.mem_insert _ _) (Set.mem_insert_of_mem _ rfl)
        (Text.hex_injective same)
    exact Text.utf8_injective bytes
  · exact hash_eq_of_canonical

theorem admits_hash_iff {code other : String} (apart : AreApart code other) :
    admits (some (hash other)) (some code) = true ↔
      canonical code = canonical other := by
  rw [← hash_eq_iff apart]
  exact beq_iff_eq

/-- What is stored guards an assignment with a code: whoever brings no code is
turned away, whoever brings one of the same canonical form is let in, and where
hashes do not collide nobody else is. -/
structure Guards (stored : Option String) (code : String) : Prop where
  required : admits stored none = false
  accepts : ∀ supplied, canonical supplied = canonical code →
    admits stored (some supplied) = true
  exact : ∀ supplied, AreApart supplied code →
    (admits stored (some supplied) = true ↔ canonical supplied = canonical code)

theorem guards_hash (code : String) : Guards (some (hash code)) code where
  required := rfl
  accepts _ same := beq_iff_eq.mpr (hash_eq_of_canonical same)
  exact _ apart := admits_hash_iff apart

/-- The hash of a code fits into its column. -/
theorem fitsId_hash (code : String) : FitsId (hash code) := by
  constructor
  · have plain : ∀ nibble < 16, ((Text.hexChar nibble).toNat == 0) = false := by
      decide
    unfold Column.hasNul
    rw [List.any_eq_false]
    intro c inside
    obtain ⟨nibble, small, rfl⟩ := Text.exists_hexChar_of_mem inside
    exact Bool.eq_false_iff.mp (plain nibble small)
  · rw [hash, Text.length_hex, Sha256.length_hash]
    exact Nat.le_refl 64

/-! ## The length of a code -/

/-- The canonical form of a code is as long as the code without the blanks
around it, or up to three times as long. -/
theorem length_canonical_bounds (code : String) :
    (Text.trim code).length ≤ (canonical code).length ∧
      (canonical code).length ≤ 3 * (Text.trim code).length :=
  Text.length_upper_bounds (Text.trim code)

/-- Letters that expand in upper case are what makes the canonical form of a
code longer. -/
theorem length_canonical_of_forall {code : String}
    (single : ∀ c ∈ (Text.trim code).toList, (Text.upperChar c).length = 1) :
    (canonical code).length = (Text.trim code).length :=
  Text.length_upper_of_forall single

end AccessCode

end ExamHall
