import ExamHall.Grading.Rules
import ExamHall.Proofs.Text.Case

/-!
# Reading what a client sends

A client value is read exactly if it has the shape that the type of the question
asks for.  What is read has one form for each type, which the grading rule of
the type takes, and writing it down and reading it again gives the same answer.
-/

namespace ExamHall

/-! ## Texts of lists and objects -/

namespace Answer

@[simp] theorem textsOf?_map (texts : List String) :
    textsOf? (texts.map .text) = some texts := by
  induction texts with
  | nil => rfl
  | cons text rest ih => simp [textsOf?, ih]

theorem textsOf?_eq_some_iff {items : List Json} {texts : List String} :
    textsOf? items = some texts ↔ items = texts.map .text := by
  constructor
  · intro read
    induction items generalizing texts with
    | nil =>
        obtain rfl : [] = texts := Option.some.inj read
        rfl
    | cons item rest ih =>
        cases item with
        | text text =>
            rw [textsOf?, Option.map_eq_some_iff] at read
            obtain ⟨others, read, rfl⟩ := read
            simp [ih read]
        | _ => cases read
  · rintro rfl
    exact textsOf?_map texts

@[simp] theorem pairsOf?_map (entries : List (String × String)) :
    pairsOf? (entries.map fun entry => (entry.1, .text entry.2)) =
      some entries := by
  induction entries with
  | nil => rfl
  | cons entry rest ih => simp [pairsOf?, ih]

theorem pairsOf?_isSome_iff {members : List (String × Json)} :
    (pairsOf? members).isSome = true ↔ ∀ member ∈ members, ∃ text,
        member.2 = .text text := by
  induction members with
  | nil => simp [pairsOf?]
  | cons member rest ih =>
      obtain ⟨name, value⟩ := member
      cases value with
      | text text => simp [pairsOf?, ih]
      | _ => simp [pairsOf?]

end Answer

/-- A member of an object that no later one of the same name replaces. -/
def IsLastValue (members : List (String × Json))
    (member : String × Json) : Prop :=
  ∃ before after, members = before ++ member :: after ∧ ∀ later ∈ after,
    later.1 ≠ member.1

theorem isLastValue_cons {members : List (String × Json)}
    {first member : String × Json} :
    IsLastValue (first :: members) member ↔
      (member = first ∧ ∀ later ∈ members, later.1 ≠ first.1) ∨
    IsLastValue members member := by
  constructor
  · rintro ⟨before, after, whole, last⟩
    cases before with
    | nil =>
        obtain ⟨rfl, rfl⟩ := List.cons.inj whole
        exact .inl ⟨rfl, last⟩
    | cons other before =>
        obtain ⟨-, rest⟩ := List.cons.inj whole
        exact .inr ⟨before, after, rest, last⟩
  · rintro (⟨rfl, last⟩ | ⟨before, after, rfl, last⟩)
    · exact ⟨[], members, rfl, last⟩
    · exact ⟨first :: before, after, rfl, last⟩

namespace Answer

theorem mem_lastValues {members : List (String × Json)}
    {member : String × Json} :
    member ∈ lastValues members ↔ IsLastValue members member := by
  induction members with
  | nil => simp [lastValues, IsLastValue]
  | cons first rest ih =>
      rw [isLastValue_cons, lastValues]
      split
      · next repeated =>
          obtain ⟨later, inside, same⟩ := List.any_eq_true.mp repeated
          have replaced : ¬∀ later ∈ rest, later.1 ≠ first.1 := fun last =>
            last later inside (beq_iff_eq.mp same)
          rw [ih, or_iff_right fun here => replaced here.2]
      · next alone =>
          have last : ∀ later ∈ rest, later.1 ≠ first.1 :=
            fun later inside same =>
              alone (List.any_eq_true.mpr ⟨later, inside, beq_iff_eq.mpr same⟩)
          rw [List.mem_cons, ih, and_iff_left last]

/-- Where no name is repeated, every value is the last one. -/
theorem lastValues_eq_self {members : List (String × Json)}
    (apart : members.Pairwise fun first second => first.1 ≠ second.1) :
    lastValues members = members := by
  induction members with
  | nil => rfl
  | cons member rest ih =>
      obtain ⟨ahead, apart⟩ := List.pairwise_cons.mp apart
      have alone : (rest.any fun later => later.1 == member.1) = false := by
        simpa [List.any_eq_false] using fun later value inside =>
          (ahead (later, value) inside).symm
      simp [lastValues, alone, ih apart]

end Answer

/-! ## Pairings -/

namespace Pairing

theorem insertEntry_of_forall_lt {left right : String}
    {entries : List (String × String)}
    (ahead : ∀ entry ∈ entries, entry.1 < left) :
    insertEntry left right entries = entries ++ [(left, right)] := by
  induction entries with
  | nil => rfl
  | cons entry rest ih =>
      have below : entry.1 < left := ahead entry List.mem_cons_self
      rw [insertEntry, if_neg (String.lt_asymm below),
        if_neg (String.ne_of_lt below).symm,
        ih fun later inside => ahead later (List.mem_cons_of_mem entry inside)]
      rfl

/-- Entries that come in order are put one behind the other. -/
theorem entries_foldl_insert {pairing : Pairing}
    {entries : List (String × String)}
    (sorted : (pairing.entries ++ entries).Pairwise fun first second =>
      first.1 < second.1) :
    (entries.foldl (fun pairing entry => pairing.insert entry.1 entry.2)
      pairing).entries = pairing.entries ++ entries := by
  induction entries generalizing pairing with
  | nil => simp
  | cons entry rest ih =>
      have ahead : ∀ other ∈ pairing.entries, other.1 < entry.1 :=
        fun other inside => (List.pairwise_append.mp sorted).2.2 other inside
          entry List.mem_cons_self
      have grown : (pairing.insert entry.1 entry.2).entries =
          pairing.entries ++ [entry] :=
        insertEntry_of_forall_lt ahead
      rw [List.foldl_cons, ih, grown, List.append_assoc]
      · rfl
      · rwa [grown, List.append_assoc]

theorem ofList_entries (pairing : Pairing) :
    ofList pairing.entries = pairing := by
  have same : (ofList pairing.entries).entries = pairing.entries := by
    have started : (empty.entries ++ pairing.entries).Pairwise
      fun first second => first.1 < second.1 := pairing.sorted
    exact entries_foldl_insert started
  cases listed : ofList pairing.entries with
  | mk entries sorted =>
      rw [listed] at same
      cases pairing
      cases same
      rfl

end Pairing

/-! ## Shapes and forms -/

/-- The values that are read as an answer to a question of a type. -/
inductive Json.IsShapedFor : QuestionType → Json → Prop where
  | choice (option : String) : IsShapedFor .singleChoice (.text option)
  | choices (options : List String) :
      IsShapedFor .multiChoice (.ofTexts options)
  | truth (value : Bool) : IsShapedFor .trueFalse (.bool value)
  | word (text : String) : IsShapedFor .trueFalse (.text text)
  | pairs {members : List (String × Json)}
      (texts : ∀ member, IsLastValue members member → ∃ text,
        member.2 = .text text) : IsShapedFor .matching (.record members)
  | sequence (items : List String) : IsShapedFor .ordering (.ofTexts items)
  | shortAnswer (text : String) : IsShapedFor .shortAnswer (.text text)
  | essay (text : String) : IsShapedFor .essay (.text text)
  | fillBlank (text : String) : IsShapedFor .fillBlank (.text text)

/-- The form that the answers to a question of a type are kept in. -/
inductive Answer.IsFormOf : QuestionType → Answer → Prop where
  | choice (option : String) : IsFormOf .singleChoice (.choice option)
  | choices (options : List String) : IsFormOf .multiChoice (.choices options)
  | truth {word : String} (normal : normalTruth word = word) :
      IsFormOf .trueFalse (.truth word)
  | pairs (pairing : Pairing) : IsFormOf .matching (.pairs pairing)
  | sequence (items : List String) : IsFormOf .ordering (.sequence items)
  | shortAnswer (text : String) : IsFormOf .shortAnswer (.text text)
  | essay (text : String) : IsFormOf .essay (.text text)
  | fillBlank (text : String) : IsFormOf .fillBlank (.text text)

/-- The rule that grades an answer in the form that its question asks for. -/
inductive Grading.IsRuleOf :
    Payload → Answer → (Decimal → Option GradeOutcome) → Prop where
  | singleChoice (options : List ChoiceOption) (chosen : String) :
      IsRuleOf (.singleChoice options) (.choice chosen) fun points =>
        some (singleChoice options points chosen)
  | multiChoice (options : List ChoiceOption) (selected : List String) :
      IsRuleOf (.multiChoice options) (.choices selected) fun points =>
        multiChoice? options points selected
  | trueFalse (key : TruthKey) (given : String) :
    IsRuleOf (.trueFalse key) (.truth given) fun points =>
      some (trueFalse key points given)
  | matching (pairs : List MatchingPair) (given : Pairing) :
    IsRuleOf (.matching pairs) (.pairs given) fun points =>
      matching? pairs points given
  | ordering (sequence given : List String) :
      IsRuleOf (.ordering sequence) (.sequence given) fun points =>
        some (ordering sequence points given)
  | shortAnswer (reference : Option String) (given : String) :
      IsRuleOf (.shortAnswer reference) (.text given) fun _ =>
        some { GradeOutcome.unanswered with needsManual := true }
  | essay (reference : Option String) (given : String) :
      IsRuleOf (.essay reference) (.text given) fun _ =>
        some { GradeOutcome.unanswered with needsManual := true }
  | fillBlank (reference : Option String) (given : String) :
      IsRuleOf (.fillBlank reference) (.text given) fun _ =>
        some { GradeOutcome.unanswered with needsManual := true }

/-- Every answer in the form of its question is graded by the rule for that
form, and never for want of it. -/
theorem Grading.exists_isRuleOf {payload : Payload} {answer : Answer}
    (form : answer.IsFormOf payload.type) :
    ∃ rule, IsRuleOf payload answer rule ∧
      ∀ points, grade? payload points (some answer) = rule points := by
  cases payload with
  | singleChoice options =>
      cases form with
      | choice chosen => exact ⟨_, .singleChoice options chosen, fun _ => rfl⟩
  | multiChoice options =>
      cases form with
      | choices selected =>
          exact ⟨_, .multiChoice options selected, fun _ => rfl⟩
  | trueFalse key =>
      cases form with
      | truth normal => exact ⟨_, .trueFalse key _, fun _ => rfl⟩
  | matching pairs =>
      cases form with
      | pairs given => exact ⟨_, .matching pairs given, fun _ => rfl⟩
  | ordering sequence =>
      cases form with
      | sequence given => exact ⟨_, .ordering sequence given, fun _ => rfl⟩
  | shortAnswer reference =>
      cases form with
      | shortAnswer given =>
          exact ⟨_, .shortAnswer reference given, fun _ => rfl⟩
  | essay reference =>
      cases form with
      | essay given => exact ⟨_, .essay reference given, fun _ => rfl⟩
  | fillBlank reference =>
      cases form with
      | fillBlank given => exact ⟨_, .fillBlank reference given, fun _ => rfl⟩

/-! ## Words for truth values -/

theorem normalTruth_idem (text : String) :
    normalTruth (normalTruth text) = normalTruth text :=
  Text.lower_trim_idem text

theorem isPlainWord_truthWord (value : Bool) :
    Text.IsPlainWord (truthWord value) := by
  cases value <;> decide

theorem normalTruth_of_spells {value : Bool} {text : String}
    (spells : Text.Spells (truthWord value) text) :
    normalTruth text = truthWord value :=
  Text.lower_trim_of_spells (isPlainWord_truthWord value) spells

theorem spells_truthWord (value : Bool) :
    Text.Spells (truthWord value) (truthWord value) := by
  have same : Text.Spells (truthWord value)
      (String.ofList ([] ++ (truthWord value).toList ++ [])) :=
    .intro (List.forall_mem_nil _) (List.forall₂_same.mpr fun _ _ => .inl rfl)
      (List.forall_mem_nil _)
  simpa using same

theorem normalTruth_truthWord (value : Bool) :
    normalTruth (truthWord value) = truthWord value :=
  normalTruth_of_spells (spells_truthWord value)

/-! ## Reading -/

namespace Answer

variable {type : QuestionType} {json : Json} {answer : Answer}

theorem ofClient?_eq_ok_none_iff :
    ofClient? type json = .ok none ↔ json = .null := by
  constructor
  · intro read
    cases json with
    | null => rfl
    | _ =>
        exfalso
        revert read
        unfold ofClient?
        dsimp only
        repeat' split
        all_goals nofun
  · rintro rfl
    rfl

/-- What is read as an answer has the shape, and the answer the form, of the
question's type. -/
theorem isShapedFor_and_isFormOf
    (read : ofClient? type json = .ok (some answer)) :
    json.IsShapedFor type ∧ answer.IsFormOf type := by
  cases type with
  | singleChoice =>
      cases json with
      | text option =>
          cases read
          exact ⟨.choice option, .choice option⟩
      | _ => cases read
  | multiChoice =>
      cases json with
      | list items =>
          cases texts : textsOf? items with
          | none => simp [ofClient?, texts] at read
          | some options =>
              simp only [ofClient?, texts, Except.ok.injEq, Option.some.injEq]
                at read
              obtain rfl := textsOf?_eq_some_iff.mp texts
              exact ⟨.choices options, read ▸ .choices options⟩
      | _ => cases read
  | trueFalse =>
      cases json with
      | bool value =>
          cases read
          exact ⟨.truth value, .truth (normalTruth_truthWord value)⟩
      | text word =>
          cases read
          exact ⟨.word word, .truth (normalTruth_idem word)⟩
      | _ => cases read
  | matching =>
      cases json with
      | record members =>
          cases texts : pairsOf? (lastValues members) with
          | none => simp [ofClient?, texts] at read
          | some entries =>
              simp only [ofClient?, texts, Except.ok.injEq, Option.some.injEq]
                at read
              have each :=
                pairsOf?_isSome_iff.mp (Option.isSome_of_eq_some texts)
              exact ⟨.pairs fun member last => each member
                (mem_lastValues.mpr last), read ▸ .pairs (.ofList entries)⟩
      | _ => cases read
  | ordering =>
      cases json with
      | list items =>
          cases texts : textsOf? items with
          | none => simp [ofClient?, texts] at read
          | some ordered =>
              simp only [ofClient?, texts, Except.ok.injEq, Option.some.injEq]
                at read
              obtain rfl := textsOf?_eq_some_iff.mp texts
              exact ⟨.sequence ordered, read ▸ .sequence ordered⟩
      | _ => cases read
  | shortAnswer =>
      cases json with
      | text written =>
          cases read
          exact ⟨.shortAnswer written, .shortAnswer written⟩
      | _ => cases read
  | essay =>
      cases json with
      | text written =>
          cases read
          exact ⟨.essay written, .essay written⟩
      | _ => cases read
  | fillBlank =>
      cases json with
      | text written =>
          cases read
          exact ⟨.fillBlank written, .fillBlank written⟩
      | _ => cases read

theorem exists_ofClient? (shaped : json.IsShapedFor type) :
    ∃ answer, ofClient? type json = .ok (some answer) := by
  cases shaped with
  | choice option => exact ⟨_, rfl⟩
  | choices options =>
      exact ⟨.choices options, by simp [ofClient?, Json.ofTexts]⟩
  | truth value => exact ⟨_, rfl⟩
  | word text => exact ⟨_, rfl⟩
  | @pairs members texts =>
      have read : (pairsOf? (lastValues members)).isSome = true :=
        pairsOf?_isSome_iff.mpr fun member inside =>
          texts member (mem_lastValues.mp inside)
      obtain ⟨entries, read⟩ := Option.isSome_iff_exists.mp read
      exact ⟨.pairs (.ofList entries), by simp [ofClient?, read]⟩
  | sequence items => exact ⟨.sequence items, by simp [ofClient?, Json.ofTexts]⟩
  | shortAnswer text => exact ⟨_, rfl⟩
  | essay text => exact ⟨_, rfl⟩
  | fillBlank text => exact ⟨_, rfl⟩

/-- An answer in its form is read again from what a client sends for it. -/
theorem ofClient?_toClient (form : answer.IsFormOf type) :
    ofClient? type answer.toClient = .ok (some answer) := by
  cases form with
  | choice option => rfl
  | choices options => simp [ofClient?, toClient, Json.ofTexts]
  | truth normal => simp [ofClient?, toClient, normal]
  | pairs pairing =>
      have apart : (pairing.entries.map fun entry =>
            (entry.1, Json.text entry.2)).Pairwise
          fun first second => first.1 ≠ second.1 :=
        List.pairwise_map.mpr (pairing.sorted.imp fun below =>
            String.ne_of_lt below)
      simp [ofClient?, toClient, lastValues_eq_self apart,
        Pairing.ofList_entries]
  | sequence items => simp [ofClient?, toClient, Json.ofTexts]
  | shortAnswer text => rfl
  | essay text => rfl
  | fillBlank text => rfl

/-- Answers of one type that a client sends alike are the same. -/
theorem eq_of_toClient_eq {other : Answer} (form : answer.IsFormOf type)
    (form' : other.IsFormOf type) (same : answer.toClient = other.toClient) :
    answer = other := by
  have read := ofClient?_toClient form
  rw [same, ofClient?_toClient form'] at read
  exact (Option.some.inj (Except.ok.inj read)).symm

/-- A truth value and its word are read alike, however the word is written. -/
theorem ofClient?_of_spells {value : Bool} {text : String}
    (spells : Text.Spells (truthWord value) text) :
    ofClient? .trueFalse (.text text) = ofClient? .trueFalse (.bool value) := by
  simp [ofClient?, normalTruth_of_spells spells]

end Answer

/-- Client values are read exactly and in one form as answers to the questions
of a type. -/
structure QuestionType.ReadsCanonically (type : QuestionType) : Prop where
  nothing : ∀ json, Answer.ofClient? type json = .ok none ↔ json = .null
  something : ∀ json,
    (∃ answer, Answer.ofClient? type json = .ok (some answer)) ↔
      json.IsShapedFor type
  form : ∀ json answer, Answer.ofClient? type json = .ok (some answer) →
    answer.IsFormOf type
  graded : ∀ json answer payload,
    Answer.ofClient? type json = .ok (some answer) →
    payload.type = type → ∃ rule, Grading.IsRuleOf payload answer rule ∧
      ∀ points, Grading.grade? payload points (some answer) = rule points
  again : ∀ json answer, Answer.ofClient? type json = .ok (some answer) →
    Answer.ofClient? type answer.toClient = .ok (some answer)
  alike : ∀ left right answer other,
    Answer.ofClient? type left = .ok (some answer) →
    Answer.ofClient? type right = .ok (some other) →
    answer.toClient = other.toClient → ∀ payload, payload.type = type →
      ∀ points, Grading.grade? payload points (some answer) =
          Grading.grade? payload points (some other)

theorem QuestionType.readsCanonically (type : QuestionType) :
    type.ReadsCanonically where
  nothing _ := Answer.ofClient?_eq_ok_none_iff
  something _ :=
    ⟨fun ⟨_, read⟩ => (Answer.isShapedFor_and_isFormOf read).1,
      Answer.exists_ofClient?⟩
  form _ _ read := (Answer.isShapedFor_and_isFormOf read).2
  graded json answer payload read same := by
    subst same
    exact Grading.exists_isRuleOf (Answer.isShapedFor_and_isFormOf read).2
  again _ _ read :=
    Answer.ofClient?_toClient (Answer.isShapedFor_and_isFormOf read).2
  alike left right answer other read read' same payload _ points := by
    have form := (Answer.isShapedFor_and_isFormOf read).2
    have form' := (Answer.isShapedFor_and_isFormOf read').2
    rw [Answer.eq_of_toClient_eq form form' same]

end ExamHall
