import ExamHall.Proofs.Decimal.Reading
import ExamHall.Proofs.Generation.PrintedKey
import ExamHall.Proofs.Steps
import ExamHall.Proofs.Store.Lawful

/-!
# Stored questions are read back

The questions of a variant are kept as a JSON document.  Reading the document
gives the questions again, whatever their kind and with all digits of their
points.  A document column takes only documents without the character zero, and
the stored form of a question has it only if one of its own texts has.
-/

namespace ExamHall

open Json

theorem decodeItems_map {α : Type} {encode : α → Json} {decode : Decoder α}
    {items : List α} (back : ∀ item ∈ items, decode (encode item) = .ok item) :
    decodeItems decode (items.map encode) = .ok items := by
  induction items with
  | nil => rfl
  | cons item rest ih =>
      obtain ⟨here, later⟩ := List.forall_mem_cons.mp back
      rw [List.map_cons, decodeItems, here, ih later]

theorem decodeTexts_map (texts : List String) :
    decodeItems asText (texts.map .text) = .ok texts :=
  decodeItems_map fun _ _ => rfl

/-- A record that starts with its tag is read by what the tag says. -/
theorem asTagged_cons {α : Type} {tag word : String}
    {members : List (String × Json)}
    {decode : String → Json → Except DecodeFault α}
    (apart : ∀ member ∈ members, member.1 ≠ tag) :
    asTagged tag decode (.record ((tag, .text word) :: members)) =
      decode word (.record members) := by
  have others : members.countP (fun member => member.1 == tag) = 0 :=
    List.countP_eq_zero.mpr fun member inside => by
      simpa using apart member inside
  have kept : members.filter (fun member => member.1 != tag) = members :=
    List.filter_eq_self.mpr fun member inside => by
      simpa using apart member inside
  simp [asTagged, namesOnce, firstMember?, others, kept]

namespace Payload

@[simp] theorem optionOfJson_optionToJson (option : ChoiceOption) :
    optionOfJson (optionToJson option) = .ok option := by
  simp [optionOfJson, optionToJson, asRecord, namesOnce, firstMember?,
    Fields.required, Fields.withDefault, asText, asBool, pure, Except.pure,
    bind, Except.bind]

@[simp] theorem truthKeyOfJson_truthKeyToJson (key : TruthKey) :
    truthKeyOfJson (truthKeyToJson key) = .ok key := by
  cases key <;> rfl

@[simp] theorem pairOfJson_pairToJson (pair : MatchingPair) :
    pairOfJson (pairToJson pair) = .ok pair := by
  simp [pairOfJson, pairToJson, asRecord, namesOnce, firstMember?,
    Fields.required, asText, pure, Except.pure, bind, Except.bind]

@[simp] theorem soleField_record {α : Type} (name : String) (decode : Decoder α)
    (json : Json) :
    soleField name decode (.record [(name, json)]) = decode json := by
  simp [soleField, asRecord, namesOnce, firstMember?, Fields.required, bind,
    Except.bind]

@[simp] theorem referenceOfJson_record (reference : Option String) :
    referenceOfJson
      (.record [("reference_answer", .ofOption .text reference)]) =
      .ok reference := by
  cases reference <;>
    simp [referenceOfJson, asRecord, namesOnce, firstMember?, Fields.optional,
      Fields.withDefault, asOption, asText, ofOption, bind, Except.bind,
      Functor.map, Except.map]

theorem ofWord?_word (type : QuestionType) :
    QuestionType.ofWord? type.word = some type := by
  cases type <;> decide +kernel

/-- The members of a payload are read by its type. -/
theorem ofMembers_ownMembers (payload : Payload) :
    ofMembers payload.type (.record payload.ownMembers) = .ok payload := by
  have options : ∀ options : List ChoiceOption,
    asList optionOfJson (.list (options.map optionToJson)) = .ok options :=
    fun _ => decodeItems_map fun option _ => optionOfJson_optionToJson option
  have pairs : ∀ pairs : List MatchingPair,
      asList pairOfJson (.list (pairs.map pairToJson)) = .ok pairs := fun _ =>
    decodeItems_map fun pair _ => pairOfJson_pairToJson pair
  have texts : ∀ texts : List String,
    asList asText (.ofTexts texts) = .ok texts := decodeTexts_map
  cases payload <;> simp [type, ofMembers, ownMembers, options, pairs, texts,
    Functor.map, Except.map]

/-- A payload is read back from its stored form. -/
theorem ofJson_toJson (payload : Payload) :
    Payload.ofJson payload.toJson = .ok payload := by
  have apart : ∀ member ∈ payload.ownMembers, member.1 ≠ "kind" := by
    cases payload <;> simp [ownMembers]
  rw [Payload.ofJson, Payload.toJson, asTagged_cons apart]
  simp [ofWord?_word, ofMembers_ownMembers]

end Payload

namespace VariantQuestion

/-- A question whose stored form can be read back. -/
structure IsReadable (question : VariantQuestion) : Prop where
  version : Column.int32 question.version = .ok question.version
  points : question.points.plainZero = question.points

theorem difficulty_ofWord?_word (difficulty : Difficulty) :
    Difficulty.ofWord? difficulty.word = some difficulty := by
  cases difficulty <;> decide +kernel

theorem asSigned_ofInt {value : Int} (fits : Column.int32 value = .ok value) :
    asSigned 32 (.ofInt value) = .ok value := by
  unfold Column.int32 at fits
  split at fits
  · next bounds => exact if_pos ⟨bounds.1, Int.le_sub_one_of_lt bounds.2⟩
  · cases fits

theorem asDecimal_toText (value : Decimal) :
    asDecimal (.text value.toText) = .ok value.plainZero := by
  rw [asDecimal, Decimal.ofAnyText?_toText]

/-- The question without the sign of points that are zero. -/
def plain (question : VariantQuestion) : VariantQuestion :=
  { question with points := question.points.plainZero }

/-- A question of a variant is read back from its stored form, except for the
sign of points that are zero. -/
theorem ofJson_toJson_eq_plain {question : VariantQuestion}
    (fits : Column.int32 question.version = .ok question.version) :
    VariantQuestion.ofJson question.toJson = .ok question.plain := by
  have version := asSigned_ofInt fits
  have points := asDecimal_toText question.points
  have difficulty : asWord Difficulty.ofWord? (.text question.difficulty.word) =
      .ok question.difficulty := by
    rw [asWord, difficulty_ofWord?_word]
  have payload := Payload.ofJson_toJson question.payload
  have texts : ∀ texts : List String,
      asOption (asList asText) (.ofTexts texts) = .ok (some texts) :=
    fun listed => congrArg (some <$> ·) (decodeTexts_map listed)
  obtain ⟨questionId, number, prompt, level, worth, content, order, key⟩ :=
    question
  cases order <;>
    simp [VariantQuestion.ofJson, VariantQuestion.toJson, plain, optionalMember,
      asRecord, namesOnce, firstMember?, Fields.required, Fields.optional,
      Fields.withDefault, asText, version, points,
      difficulty, payload, texts, pure, Except.pure, bind, Except.bind]

theorem plain_eq_self_iff {question : VariantQuestion} :
    question.plain = question ↔
      question.points.plainZero = question.points := by
  constructor
  · intro same
    exact congrArg points same
  · intro same
    rw [plain, same]

/-- A question of a variant is read back from its stored form. -/
theorem ofJson_toJson {question : VariantQuestion}
    (readable : question.IsReadable) :
    VariantQuestion.ofJson question.toJson = .ok question := by
  rw [ofJson_toJson_eq_plain readable.version,
    plain_eq_self_iff.mpr readable.points]

/-- The questions of a variant are read back from the document that holds
them. -/
theorem questionsOfJson_toJson {questions : List VariantQuestion}
    (readable : ∀ question ∈ questions, question.IsReadable) :
    asList VariantQuestion.ofJson
      (.list (questions.map VariantQuestion.toJson)) = .ok questions :=
  decodeItems_map fun question inside =>
    ofJson_toJson (readable question inside)

end VariantQuestion

/-! ## Documents without the character zero -/

open Column

@[simp] theorem itemsHaveNul_eq_false {items : List Json} :
    itemsHaveNul items = false ↔ ∀ item ∈ items,
      documentHasNul item = false := by
  induction items with
  | nil => simp [itemsHaveNul]
  | cons item rest ih => simp [itemsHaveNul, ih]

@[simp] theorem documentHasNul_ofTexts {texts : List String} :
    documentHasNul (ofTexts texts) = false ↔ ∀ text ∈ texts,
      hasNul text = false := by
  simp [ofTexts, documentHasNul]

theorem hasNul_toText (value : Decimal) : hasNul value.toText = false := by
  apply hasNul_eq_false.mpr
  intro c inside
  rw [Decimal.toText, String.toList_ofList] at inside
  rcases Decimal.mem_toChars inside with rfl | rfl | ⟨digit, rfl⟩
  · decide
  · decide
  · exact Text.digitChar_ne_nul digit

/-! ## Payloads -/

/-- The texts of a choice question are those of its options. -/
theorem documentHasNul_of_options {payload : Payload}
    {options : List ChoiceOption} (choice : payload.options? = some options) :
    documentHasNul payload.toJson = false ↔ ∀ option ∈ options,
      hasNul option.id = false ∧ hasNul option.text = false := by
  have names : hasNul "kind" = false ∧ hasNul "options" = false ∧
      hasNul "id" = false ∧
      hasNul "text" = false ∧ hasNul "is_correct" = false ∧
      hasNul QuestionType.singleChoice.word = false ∧
      hasNul QuestionType.multiChoice.word = false := by
    decide +kernel
  cases payload with
  | singleChoice given | multiChoice given =>
      obtain rfl := Option.some.inj choice
      simp [Payload.toJson, Payload.ownMembers, Payload.type,
        Payload.optionToJson, documentHasNul, membersHaveNul, names]
  | _ => cases choice

/-! ## Keys -/

theorem hasNul_optionLabel (index : Nat) :
    hasNul (optionLabel index) = false := by
  apply hasNul_eq_false.mpr
  intro c inside
  rw [optionLabel, String.toList_ofList] at inside
  obtain ⟨digit, rfl⟩ := mem_labelChars inside
  exact letter_ne (by decide) digit

theorem hasNul_intercalate {texts : List String}
    (plain : ∀ text ∈ texts, hasNul text = false) :
    hasNul (String.intercalate "," texts) = false := by
  apply hasNul_eq_false.mpr
  intro c inside
  have joined : (String.intercalate "," texts).toList =
      List.intercalate [','] (texts.map String.toList) := by
    simp [String.toList_intercalate]
  rw [joined] at inside
  rcases Text.mem_intercalate inside with rfl | ⟨part, listed, inside⟩
  · decide
  · obtain ⟨text, given, rfl⟩ := List.mem_map.mp listed
    exact hasNul_eq_false.mp (plain text given) c inside

/-- The key of a choice question is made of letters and commas. -/
theorem hasNul_answerKey_of_options {payload : Payload}
    {options : List ChoiceOption} (choice : payload.options? = some options) :
    hasNul (answerKey payload) = false := by
  rw [answerKey_of_options choice]
  apply hasNul_intercalate
  intro label listed
  obtain ⟨index, -, rfl⟩ := List.mem_map.mp listed
  exact hasNul_optionLabel index

/-- The key of a question that can be used is plain. -/
theorem hasNul_answerKey {payload : Payload}
    (usable : payload.isUsable = true) :
    hasNul (answerKey payload) = false := by
  cases payload with
  | singleChoice options | multiChoice options =>
      apply hasNul_answerKey_of_options
      rfl
  | trueFalse key =>
      have words : ∀ value, hasNul (truthWord value) = false := by
        intro value
        cases value <;> decide +kernel
      have normal : key.normal = truthWord true ∨
          key.normal = truthWord false := by
        simpa [Payload.isUsable] using usable
      rcases normal with same | same
      · exact (congrArg hasNul same).trans (words true)
      · exact (congrArg hasNul same).trans (words false)
  | _ => cases usable

/-! ## Questions of a variant -/

/-- The texts of a question are its own ones, those of its payload, and the ids
in its order. -/
theorem VariantQuestion.documentHasNul_toJson {question : VariantQuestion} :
    documentHasNul question.toJson = false ↔
      hasNul question.questionId = false ∧ hasNul question.prompt = false ∧
    documentHasNul question.payload.toJson = false ∧
    (∀ order, question.optionOrder = some order → ∀ id ∈ order,
      hasNul id = false) ∧ hasNul question.answerKey = false := by
  have names : hasNul "question_id" = false ∧ hasNul "version" = false ∧
      hasNul "prompt" = false ∧ hasNul "difficulty" = false ∧
      hasNul "points" = false ∧ hasNul "payload" = false ∧
      hasNul "option_order" = false ∧ hasNul "answer_key" = false := by
    decide +kernel
  have words : ∀ difficulty : Difficulty, hasNul difficulty.word = false := by
    intro difficulty
    cases difficulty <;> decide +kernel
  have version : ∀ number, documentHasNul (ofInt number) = false := fun _ => rfl
  obtain ⟨questionId, number, prompt, level, worth, content, order, key⟩ :=
    question
  cases order <;>
    simp [VariantQuestion.toJson, optionalMember, documentHasNul,
      membersHaveNul, names, words, version, hasNul_toText]

end ExamHall
