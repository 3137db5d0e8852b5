import ExamHall.Digest.Sha256
import ExamHall.Text.Bytes
import ExamHall.Text.Case
import ExamHall.Text.Pieces

/-!
# Access codes

A code is kept as the hash of its canonical form, trimmed and in upper case, so
padding and capitalisation do not matter. An assignment without a stored hash
lets every student in.
-/

namespace ExamHall.AccessCode

/-- The form in which codes are compared. -/
def canonical (code : String) : String :=
  Text.upper (Text.trim code)

/-- The stored form of a code. -/
def hash (code : String) : String :=
  Text.hex (Sha256.hash (Text.utf8 (canonical code)))

/-- Whether a student may enter with what was supplied. -/
def admits (storedHash supplied : Option String) : Bool :=
  match storedHash, supplied with
  | none, _ => true
  | some _, none => false
  | some stored, some code => hash code == stored

end ExamHall.AccessCode
