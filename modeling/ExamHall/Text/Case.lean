import ExamHall.Text.CaseTable

/-!
# Upper and lower case

The full case mappings: every character is mapped on its own, to one or more
characters, with one exception. A capital sigma becomes the final form of the
small letter at the end of a word, that is when a cased letter stands before it
and none after it, where the search on both sides passes over characters such as
apostrophes and combining marks.
-/

namespace ExamHall.Text

/-- One character through a table of expansions and a table of runs. -/
def mapCase (expansions : List (Nat × List Nat)) (runs : List CaseRun)
    (c : Char) : List Char :=
  match expansions.find? (fun entry => entry.1 == c.toNat) with
  | some entry => entry.2.map Char.ofNat
  | none =>
    match runs.find? (fun run => run.holds c.toNat) with
    | some run => [Char.ofNat (c.toNat + run.distance).toNat]
    | none => [c]

/-- The upper case of one character. -/
def upperChar (c : Char) : List Char :=
  mapCase upperExpansions upperRuns c

/-- The lower case of one character, apart from the form of a final sigma. -/
def lowerChar (c : Char) : List Char :=
  mapCase lowerExpansions lowerRuns c

/-- The upper case of a text. -/
def upper (text : String) : String :=
  String.ofList (text.toList.flatMap upperChar)

/-- Whether the first character that the search does not pass over is a cased
letter. -/
def startsCased (cs : List Char) : Bool :=
  match cs.dropWhile (fun c => inRanges caseIgnorableRanges c.toNat) with
  | [] => false
  | c :: _ => inRanges casedRanges c.toNat

/-- The lower case of `cs`, where `before` holds the characters before it, last
one first. -/
def lowerFrom (before : List Char) : List Char → List Char
  | [] => []
  | c :: rest =>
    (if c = 'Σ' then
      (if startsCased before && !startsCased rest then ['ς'] else ['σ'])
    else lowerChar c) ++ lowerFrom (c :: before) rest

/-- The lower case of a text. -/
def lower (text : String) : String :=
  String.ofList (lowerFrom [] text.toList)

@[simp] theorem toList_upper (text : String) :
    (upper text).toList = text.toList.flatMap upperChar := by
  simp [upper]

@[simp] theorem toList_lower (text : String) :
    (lower text).toList = lowerFrom [] text.toList := by
  simp [lower]

end ExamHall.Text
