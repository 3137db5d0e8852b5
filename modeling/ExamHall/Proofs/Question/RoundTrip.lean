import ExamHall.Proofs.Decimal.Value
import ExamHall.Proofs.Question.ClientAnswer
import ExamHall.Proofs.Question.Stored

/-!
# Documents that are written again

Payloads, answers and the questions of a variant are read back from their stored
forms, and what has been read from any document is read again from the form that
it is then stored in, however much was left out of the document or was unknown
in it.  One thing is lost: points that are a zero with a minus sign come back
without it.  A document gives such points only if it writes them with a negative
exponent, and after one more round nothing changes any more.
-/

namespace ExamHall

open Json

/-- What is read from a document is read again from the form that it is stored
in, which then stays as it is. -/
def SettlesAtOnce {α : Type} (encode : α → Json) (decode : Decoder α)
    (json : Json) : Prop :=
  ∀ value, decode json = .ok value → decode (encode value) = .ok value ∧
    encode <$> decode (encode value) = .ok (encode value)

theorem settlesAtOnce_of_back {α : Type} {encode : α → Json}
    {decode : Decoder α} {json : Json}
    (back : ∀ value, decode json = .ok value →
      decode (encode value) = .ok value) :
    SettlesAtOnce encode decode json := by
  intro value read
  refine ⟨back value read, ?_⟩
  rw [back value read]
  rfl

/-! ## Answers -/

theorem Pairing.ofJson_toJson (pairing : Pairing) :
    Pairing.ofJson pairing.toJson = .ok pairing := by
  simp [Pairing.ofJson, Pairing.toJson, Pairing.ofList_entries]

namespace Answer

theorem ofContent_content (answer : Answer) :
    ofContent answer.kind answer.content = .ok answer := by
  have texts : ∀ texts : List String,
    asList asText (.ofTexts texts) = .ok texts := decodeTexts_map
  cases answer <;>
    simp [ofContent, kind, content, asText, texts, Pairing.ofJson_toJson,
      Functor.map, Except.map]

/-- An answer is read back from its stored form. -/
theorem ofJson_toJson (answer : Answer) :
    Answer.ofJson answer.toJson = .ok answer := by
  have kind : kindIn answer.toJson (.text answer.kind) = .ok answer.kind := rfl
  rw [toJson] at kind
  simp [Answer.ofJson, toJson, asRecord, namesOnce, firstMember?,
    Fields.required, kind, ofContent_content, bind, Except.bind]

end Answer

/-! ## Numbers in a document -/

theorem Json.Fields.required_eq_ok {α : Type} {fields : Fields} {name : String}
    {decode : Decoder α} {value : α} :
    fields.required name decode = .ok value ↔ ∃ json,
      fields.find? name = some json ∧ decode json = .ok value := by
  unfold required
  cases fields.find? name with
  | none => simp
  | some json => simp

/-- A number that has been read fits into its column. -/
theorem int32_of_asSigned {json : Json} {value : Int}
    (read : asSigned 32 json = .ok value) : Column.int32 value = .ok value := by
  unfold asSigned asInt at read
  split at read
  · split at read
    · next number bounds =>
        cases read
        exact if_pos ⟨bounds.1, Int.lt_of_le_sub_one bounds.2⟩
    · cases read
  · cases read

/-- Points are read with a minus sign although they are zero only from a text
with a negative exponent. -/
theorem plainZero_of_asDecimal {json : Json} {value : Decimal}
    (read : asDecimal json = .ok value)
    (without : ∀ text, json = .text text → ¬Decimal.HasNegativeExponent text) :
    value.plainZero = value := by
  by_contra signed
  unfold asDecimal at read
  split at read
  · next text =>
      split at read
      · next made =>
          cases read
          exact without text
            rfl (Decimal.hasNegativeExponent_of_ofAnyText? made signed)
      · cases read
  · split at read
    · next made =>
        cases read
        exact signed (Decimal.plainZero_of_make? made)
    · cases read
  · split at read
    · next made =>
        cases read
        exact signed (Decimal.plainZero_of_readPlain? made)
    · cases read
  · cases read

/-! ## Questions of a variant -/

namespace VariantQuestion

/-- Where a document of a question has its points. -/
def pointsIn? (json : Json) : Option Json :=
  match asRecord ["question_id", "version", "prompt", "difficulty", "points",
      "payload", "option_order", "answer_key"] json with
  | .ok fields => fields.find? "points"
  | .error _ => none

/-- Whether a document of a question writes its points with a negative
exponent. -/
def WritesNegativeExponent (json : Json) : Prop :=
  ∃ text, pointsIn? json = some (.text text) ∧ Decimal.HasNegativeExponent text

variable {json : Json} {question : VariantQuestion}

/-- The number of the version and the points that are read from a document. -/
theorem numbers_of_ofJson (read : VariantQuestion.ofJson json = .ok question) :
    Column.int32 question.version = .ok question.version ∧ ∃ points,
      pointsIn? json = some points ∧
      asDecimal points = .ok question.points := by
  obtain ⟨fields, record, read⟩ := exceptBind_eq_ok.mp read
  simp only [exceptBind_eq_ok] at read
  obtain ⟨_, -, version, versionRead, _, -, _, -, points, pointsRead, _, -, _,
    -, _, -, made⟩ := read
  cases made
  obtain ⟨number, -, numberRead⟩ := Fields.required_eq_ok.mp versionRead
  obtain ⟨amount, found, amountRead⟩ := Fields.required_eq_ok.mp pointsRead
  refine ⟨int32_of_asSigned numberRead, amount, ?_, amountRead⟩
  rw [pointsIn?, record]
  exact found

theorem ofJson_toJson_of_ofJson
    (read : VariantQuestion.ofJson json = .ok question) :
    VariantQuestion.ofJson question.toJson = .ok question.plain :=
  ofJson_toJson_eq_plain (numbers_of_ofJson read).1

theorem plain_of_ofJson (read : VariantQuestion.ofJson json = .ok question)
    (without : ¬WritesNegativeExponent json) : question.plain = question := by
  obtain ⟨-, points, found, pointsRead⟩ := numbers_of_ofJson read
  apply plain_eq_self_iff.mpr
  apply plainZero_of_asDecimal pointsRead
  rintro text rfl negative
  exact without ⟨text, found, negative⟩

theorem plain_plain (question : VariantQuestion) :
    question.plain.plain = question.plain :=
  plain_eq_self_iff.mpr (Decimal.plainZero_plainZero question.points)

theorem settlesAtOnce (without : ¬WritesNegativeExponent json) :
    SettlesAtOnce VariantQuestion.toJson VariantQuestion.ofJson json := by
  apply settlesAtOnce_of_back
  intro question read
  rw [ofJson_toJson_of_ofJson read, plain_of_ofJson read without]

/-- A stored form that was written after reading some document need not be kept,
but the next one is. -/
theorem settlesAtOnce_toJson
    (read : VariantQuestion.ofJson json = .ok question) :
    SettlesAtOnce VariantQuestion.toJson VariantQuestion.ofJson
      question.toJson := by
  apply settlesAtOnce_of_back
  intro again readAgain
  obtain rfl :=
    Except.ok.inj ((ofJson_toJson_of_ofJson read).symm.trans readAgain)
  rw [ofJson_toJson_of_ofJson readAgain, plain_plain]

end VariantQuestion

/-- Stored forms are read back, and documents of any kind settle at once.  Only
the sign of points that are zero is lost, which delays the questions that have
been read with it by one round. -/
theorem stored_forms_are_read_back :
    (∀ payload : Payload, Payload.ofJson payload.toJson = .ok payload) ∧
    (∀ answer : Answer, Answer.ofJson answer.toJson = .ok answer) ∧
    (∀ question : VariantQuestion,
      Column.int32 question.version = .ok question.version →
      VariantQuestion.ofJson question.toJson = .ok question.plain ∧
      question.plain.points.toRat = question.points.toRat ∧
      question.plain.points.scale = question.points.scale ∧
      ((question.points.toRat = 0 → question.points.negative = false) →
        question.plain = question)) ∧
    (∀ json, SettlesAtOnce Payload.toJson Payload.ofJson json) ∧
    (∀ json, SettlesAtOnce Answer.toJson Answer.ofJson json) ∧
    (∀ json, ¬VariantQuestion.WritesNegativeExponent json →
      SettlesAtOnce VariantQuestion.toJson VariantQuestion.ofJson json) ∧
    ∀ json question, VariantQuestion.ofJson json = .ok question →
      VariantQuestion.ofJson question.toJson = .ok question.plain ∧
      SettlesAtOnce VariantQuestion.toJson VariantQuestion.ofJson
        question.toJson := by
  refine ⟨Payload.ofJson_toJson, Answer.ofJson_toJson, ?_, ?_, ?_, ?_, ?_⟩
  · intro question fits
    refine ⟨VariantQuestion.ofJson_toJson_eq_plain fits,
      Decimal.toRat_plainZero _, Decimal.scale_plainZero _, fun unsigned => ?_⟩
    apply VariantQuestion.plain_eq_self_iff.mpr
    rwa [Decimal.plainZero_eq_self_iff, ← Decimal.toRat_eq_zero_iff]
  · intro json
    exact settlesAtOnce_of_back fun payload _ => Payload.ofJson_toJson payload
  · intro json
    exact settlesAtOnce_of_back fun answer _ => Answer.ofJson_toJson answer
  · intro json without
    exact VariantQuestion.settlesAtOnce without
  · intro json question read
    exact ⟨VariantQuestion.ofJson_toJson_of_ofJson read,
      VariantQuestion.settlesAtOnce_toJson read⟩

/-- A document of a question that is worth the given points, with a note that
nobody reads. -/
def documentWorth (points : String) : Json :=
  .record [("note", .null), ("question_id", .text "q"), ("version", .ofInt 1),
    ("prompt", .text "Is it?"), ("difficulty", .text "easy"),
    ("points", .text points), ("payload", .record [("kind", .text "true_false"),
      ("correct", .text "True")]), ("answer_key", .text "true")]

/-- The question that such a document gives. -/
def questionWorth (points : Decimal) : VariantQuestion :=
  ⟨"q", 1, "Is it?", .easy, points, .trueFalse (.text "True"), none, "true"⟩

/-- A question worth one point, written with one fractional digit, is read back;
it is read from the document with the note, which settles at once. -/
theorem stored_forms_are_read_back_one :
    Column.int32 (questionWorth ⟨false, 10, 1, by decide, by decide⟩).version =
      .ok 1 ∧
    VariantQuestion.ofJson
      (questionWorth ⟨false, 10, 1, by decide, by decide⟩).toJson =
      .ok (questionWorth ⟨false, 10, 1, by decide, by decide⟩) ∧
    ¬VariantQuestion.WritesNegativeExponent (documentWorth "1.0") ∧
    VariantQuestion.ofJson (documentWorth "1.0") =
      .ok (questionWorth ⟨false, 10, 1, by decide, by decide⟩) ∧
    SettlesAtOnce VariantQuestion.toJson VariantQuestion.ofJson
      (documentWorth "1.0") := by
  have fits :
    Column.int32 (questionWorth ⟨false, 10, 1, by decide, by decide⟩).version =
      .ok 1 := rfl
  have without :
      ¬VariantQuestion.WritesNegativeExponent (documentWorth "1.0") := by
    rintro ⟨text, found, mantissa, mark, places, chars, -⟩
    obtain rfl : "1.0" = text := by
      have points : VariantQuestion.pointsIn? (documentWorth "1.0") =
        some (.text "1.0") := by rfl
      simpa [points] using found
    have dash : '-' ∈ "1.0".toList := by
      rw [chars]
      simp
    revert dash
    decide
  have read : VariantQuestion.ofJson (documentWorth "1.0") =
      .ok (questionWorth ⟨false, 10, 1, by decide, by decide⟩) := by
    rfl
  obtain ⟨-, -, questions, -, -, documents, -⟩ := stored_forms_are_read_back
  obtain ⟨back, -, -, unsigned⟩ := questions _ fits
  refine ⟨fits, ?_, without, read, documents _ without⟩
  rw [back, unsigned fun _ => rfl]

/-- A document can give points that are a zero with a minus sign.  They are
stored with the sign and read back without it, so the form that is stored next
is another one. -/
theorem stored_forms_are_not_always_kept :
    VariantQuestion.ofJson (documentWorth "-0.04e-28") =
      .ok (questionWorth ⟨true, 0, 28, by decide, by decide⟩) ∧
    VariantQuestion.ofJson
      (questionWorth ⟨true, 0, 28, by decide, by decide⟩).toJson =
      .ok (questionWorth ⟨false, 0, 28, by decide, by decide⟩) ∧
    (questionWorth ⟨true, 0, 28, by decide, by decide⟩).toJson ≠
      (questionWorth ⟨false, 0, 28, by decide, by decide⟩).toJson := by
  refine ⟨by rfl, by rfl, fun same => ?_⟩
  have texts : Decimal.toText ⟨true, 0, 28, by decide, by decide⟩ ≠
      Decimal.toText ⟨false, 0, 28, by decide, by decide⟩ := by
    decide
  apply texts
  simpa [VariantQuestion.toJson, questionWorth] using same

end ExamHall
