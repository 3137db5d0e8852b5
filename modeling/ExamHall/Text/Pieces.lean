/-!
# Trimming texts and taking them apart

The blank characters are those with the Unicode property `White_Space`. Trimming
removes them at both ends of a text and nowhere else.

Texts are taken apart at the places where a mark stands. A text without the mark
is one piece.
-/

namespace ExamHall.Text

/-- The characters with the Unicode property `White_Space`. -/
def isBlank (c : Char) : Bool :=
  let n := c.toNat
  (0x9 ≤ n && n ≤ 0xD) || n == 0x20 || n == 0x85 || n == 0xA0 || n ==
    0x1680 || (0x2000 ≤ n && n ≤ 0x200A) || n == 0x2028 || n == 0x2029 || n ==
    0x202F || n == 0x205F || n == 0x3000

/-- A character list without the blanks at its two ends. -/
def trimChars (cs : List Char) : List Char :=
  ((cs.dropWhile isBlank).reverse.dropWhile isBlank).reverse

/-- A text without the blanks at its two ends. -/
def trim (text : String) : String :=
  String.ofList (trimChars text.toList)

@[simp] theorem toList_trim (text : String) :
    (trim text).toList = trimChars text.toList := by
  simp [trim]

@[simp] theorem trimChars_nil : trimChars [] = [] := rfl

/-- A text is blank when nothing is left of it after trimming. -/
def isBlankText (text : String) : Bool :=
  (trimChars text.toList).isEmpty

/-- The pieces of a list of characters between the places where `mark`
stands. -/
def pieces (mark : Char) : List Char → List (List Char)
  | [] => [[]]
  | c :: rest =>
    if c = mark then [] :: pieces mark rest
    else
      match pieces mark rest with
      | [] => [[c]]
      | piece :: others => (c :: piece) :: others

/-- The part of a list of characters before the first place where `mark`
stands. -/
def before (mark : Char) (cs : List Char) : List Char :=
  cs.takeWhile fun c => !decide (c = mark)

/-- The part of a list of characters after the first place where `mark`
stands. -/
def after (mark : Char) (cs : List Char) : List Char :=
  (cs.dropWhile fun c => !decide (c = mark)).drop 1

@[simp] theorem pieces_nil (mark : Char) : pieces mark [] = [[]] := rfl

@[simp] theorem pieces_mark (mark : Char) (rest : List Char) :
    pieces mark (mark :: rest) = [] :: pieces mark rest := by
  simp [pieces]

end ExamHall.Text
