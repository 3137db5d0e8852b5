import ExamHall.Json.Decode
import ExamHall.Question.Payload

/-!
# Answers

An answer is what a student gave to a question, in the form that the question's
type asks for. A client sends a bare JSON value; reading it checks its shape
against the type, and nothing at all stands for no answer.
-/

namespace ExamHall

/-- Chosen right items by left item, in the order of the left items, each at
most once. -/
structure Pairing where
  entries : List (String × String)
  sorted : entries.Pairwise fun first second => first.1 < second.1
deriving DecidableEq

namespace Pairing

/-- Puts a pair into its place among sorted entries, replacing one with the same
left item. -/
def insertEntry (left right : String) :
    List (String × String) → List (String × String)
  | [] => [(left, right)]
  | entry :: rest =>
    if left < entry.1 then (left, right) :: entry :: rest
    else if left = entry.1 then (left, right) :: rest
    else entry :: insertEntry left right rest

theorem mem_insertEntry {left right : String} {entries : List (String × String)}
    {entry : String × String}
    (inside : entry ∈ insertEntry left right entries) :
    entry = (left, right) ∨ entry ∈ entries := by
  induction entries with
  | nil => simpa [insertEntry] using inside
  | cons first rest ih =>
    unfold insertEntry at inside
    split at inside
    · simpa using inside
    · split at inside
      · rcases List.mem_cons.1 inside with new | old
        · exact .inl new
        · exact .inr (List.mem_cons_of_mem _ old)
      · rcases List.mem_cons.1 inside with here | later
        · exact .inr (here ▸ List.mem_cons_self ..)
        · exact (ih later).imp id (List.mem_cons_of_mem _)

theorem pairwise_insertEntry (left right : String)
    {entries : List (String × String)}
    (sorted : entries.Pairwise fun first second => first.1 < second.1) :
    (insertEntry left right entries).Pairwise fun first second =>
      first.1 < second.1 := by
  induction entries with
  | nil => simp [insertEntry]
  | cons first rest ih =>
    obtain ⟨ahead, sortedRest⟩ := List.pairwise_cons.1 sorted
    unfold insertEntry
    split
    · next below =>
      refine List.pairwise_cons.2 ⟨fun entry inside => ?_, sorted⟩
      rcases List.mem_cons.1 inside with rfl | later
      · exact below
      · exact String.lt_trans below (ahead entry later)
    · split
      · next same =>
        refine List.pairwise_cons.2 ⟨fun entry inside => ?_, sortedRest⟩
        exact same ▸ ahead entry inside
      · next notBelow notSame =>
        refine List.pairwise_cons.2 ⟨fun entry inside => ?_, ih sortedRest⟩
        rcases mem_insertEntry inside with rfl | later
        · rcases Std.lt_trichotomy first.1 left with above | equal | below
          · exact above
          · exact absurd equal.symm notSame
          · exact absurd below notBelow
        · exact ahead entry later

/-- No pairs. -/
def empty : Pairing := ⟨[], List.Pairwise.nil⟩

/-- The pairing with one more pair. -/
def insert (pairing : Pairing) (left right : String) : Pairing :=
  ⟨insertEntry left right pairing.entries,
    pairwise_insertEntry left right pairing.sorted⟩

/-- The right item chosen for a left item. -/
def find? (pairing : Pairing) (left : String) : Option String :=
  (pairing.entries.find? fun entry => entry.1 == left).map (·.2)

/-- The pairing of a list of pairs; a later pair replaces an earlier one. -/
def ofList (pairs : List (String × String)) : Pairing :=
  pairs.foldl (fun pairing pair => pairing.insert pair.1 pair.2) empty

end Pairing

/-- A student's answer. -/
inductive Answer where
  | choice (option : String)
  | choices (options : List String)
  | truth (word : String)
  | pairs (pairing : Pairing)
  | sequence (items : List String)
  | text (text : String)
deriving DecidableEq

/-- A client value that is no answer to a question of its type. -/
structure AnswerShapeError where
  type : QuestionType
  expected : String
deriving DecidableEq, Repr

/-- What an answer error tells the student. -/
def AnswerShapeError.message (error : AnswerShapeError) : String :=
  "expected " ++ error.expected ++ " for a " ++ error.type.title ++ " question"

namespace Answer

/-- The texts of a JSON list, if it holds nothing else. -/
def textsOf? : List Json → Option (List String)
  | [] => some []
  | .text item :: rest => (textsOf? rest).map (item :: ·)
  | _ :: _ => none

/-- The pairs of a JSON object, if all its values are texts. -/
def pairsOf? : List (String × Json) → Option (List (String × String))
  | [] => some []
  | (left, .text right) :: rest => (pairsOf? rest).map ((left, right) :: ·)
  | (_, _) :: _ => none

/-- Each name once, with its last value. -/
def lastValues : List (String × Json) → List (String × Json)
  | [] => []
  | member :: rest =>
    if rest.any fun later => later.1 == member.1 then lastValues rest
    else member :: lastValues rest

/-- The answer that a client value gives to a question of a type; `null` gives
none. -/
def ofClient? (type : QuestionType) (json : Json) :
    Except AnswerShapeError (Option Answer) :=
  let fail := fun expected => .error ⟨type, expected⟩
  match json with
  | .null => .ok none
  | _ =>
    match type with
    | .singleChoice => match json with
      | .text option => .ok (some (.choice option))
      | _ => fail "an option id string"
    | .multiChoice => match json with
      | .list items => match textsOf? items with
        | some options => .ok (some (.choices options))
        | none => fail "a list of option ids"
      | _ => fail "a list of option ids"
    | .trueFalse => match json with
      | .bool value => .ok (some (.truth (truthWord value)))
      | .text word => .ok (some (.truth (normalTruth word)))
      | _ => fail "a boolean or \"true\"/\"false\""
    | .matching => match json with
      | .record members => match pairsOf? (lastValues members) with
        | some entries => .ok (some (.pairs (.ofList entries)))
        | none => fail "string pair values"
      | _ => fail "an object of pairs"
    | .ordering => match json with
      | .list items => match textsOf? items with
        | some ordered => .ok (some (.sequence ordered))
        | none => fail "a list of item ids"
      | _ => fail "a list of item ids"
    | .shortAnswer | .essay | .fillBlank => match json with
      | .text written => .ok (some (.text written))
      | _ => fail "a text answer"

/-- The value that a client sends for an answer. -/
def toClient : Answer → Json
  | .choice value | .truth value | .text value => .text value
  | .choices values | .sequence values => .ofTexts values
  | .pairs pairing =>
      .record (pairing.entries.map fun entry => (entry.1, .text entry.2))

end Answer

end ExamHall
