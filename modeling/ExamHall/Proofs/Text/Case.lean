import ExamHall.Proofs.Lists
import ExamHall.Proofs.Text.Pieces
import ExamHall.Text.Case
import ExamHall.Text.Pieces
import Mathlib.Data.List.DropRight

/-!
# Trimming and mapping case, done once

What trimming leaves does not begin or end with a blank.  A case mapping settles
if it leaves as they are the characters that it writes, and none of them is
blank unless it comes from a blank; whether it does can be read off its tables.

The lower case mapping settles, so the lower case of a trimmed text is both
trimmed and in lower case: doing it again changes nothing.
-/

namespace ExamHall.Text

/-! ## Trimming -/

/-- A list of characters that has no blank at its ends. -/
structure IsTrimmed (cs : List Char) : Prop where
  front : ∀ c ∈ cs.head?, isBlank c = false
  back : ∀ c ∈ cs.getLast?, isBlank c = false

theorem dropWhile_isBlank_eq_self {cs : List Char}
    (front : ∀ c ∈ cs.head?, isBlank c = false) :
    cs.dropWhile isBlank = cs := by
  cases cs with
  | nil => rfl
  | cons c rest => simp [front c rfl]

theorem front_dropWhile_isBlank (cs : List Char) :
    ∀ c ∈ (cs.dropWhile isBlank).head?, isBlank c = false := by
  intro c first
  have shown := List.head?_dropWhile_not isBlank cs
  rwa [Option.mem_def.mp first] at shown

theorem trimChars_eq_rdropWhile (cs : List Char) :
    trimChars cs = (cs.dropWhile isBlank).rdropWhile isBlank :=
  rfl

theorem IsTrimmed.trimChars_eq {cs : List Char} (trimmed : IsTrimmed cs) :
    trimChars cs = cs := by
  unfold trimChars
  rw [dropWhile_isBlank_eq_self trimmed.front, dropWhile_isBlank_eq_self,
    List.reverse_reverse]
  simpa using trimmed.back

theorem isTrimmed_trimChars (cs : List Char) : IsTrimmed (trimChars cs) := by
  constructor
  · -- What is left is the beginning of the text without its first blanks.
    intro c first
    have ahead := List.rdropWhile_prefix isBlank (cs.dropWhile isBlank)
    rw [← trimChars_eq_rdropWhile] at ahead
    obtain ⟨rest, whole⟩ := ahead
    apply front_dropWhile_isBlank cs c
    rw [← whole, List.head?_append, Option.mem_def.mp first]
    rfl
  · simpa [trimChars]
      using front_dropWhile_isBlank (cs.dropWhile isBlank).reverse

theorem dropWhile_isBlank_of_forall {cs : List Char}
    (blank : ∀ c ∈ cs, isBlank c = true) : cs.dropWhile isBlank = [] :=
  List.dropWhile_eq_nil_iff.mpr blank

/-- Blanks around a text are cut off. -/
theorem trimChars_append_blanks {front cs back : List Char}
    (trimmed : IsTrimmed cs) (before : ∀ c ∈ front, isBlank c = true)
    (behind : ∀ c ∈ back, isBlank c = true) :
    trimChars (front ++ cs ++ back) = cs := by
  have behind' : ∀ c ∈ back.reverse, isBlank c = true := by simpa using behind
  unfold trimChars
  rw [List.append_assoc, List.dropWhile_append_of_pos before,
    List.dropWhile_append, dropWhile_isBlank_eq_self trimmed.front,
    dropWhile_isBlank_of_forall behind]
  cases cs with
  | nil => rfl
  | cons c rest =>
      have whole := trimmed.trimChars_eq
      rw [trimChars, dropWhile_isBlank_eq_self trimmed.front] at whole
      simpa [List.dropWhile_append_of_pos behind'] using whole

/-! ## Mappings that settle -/

/-- What may stand for a character: characters that the mapping leaves as they
are, none of them blank unless it is. -/
structure IsSettled (change : Char → List Char) (c : Char)
    (written : List Char) : Prop where
  nonempty : written ≠ []
  fixed : ∀ d ∈ written, change d = [d]
  blank : ∀ d ∈ written, isBlank d = true → isBlank c = true

theorem isSettled_singleton {change : Char → List Char} {c d : Char}
    (fixed : change d = [d]) (blank : isBlank d = true → isBlank c = true) :
    IsSettled change c [d] :=
  ⟨List.cons_ne_nil _ _, by simpa using fixed, by simpa using blank⟩

namespace CaseRun

/-- How many code points a run holds. -/
def size (run : CaseRun) : Nat :=
  (run.last - run.first) / run.stride + 1

/-- A code point of a run. -/
def place (run : CaseRun) (index : Nat) : Nat :=
  run.first + run.stride * index

/-- Where a run moves a code point. -/
def image (run : CaseRun) (code : Nat) : Nat :=
  (code + run.distance).toNat

/-- Whether another run holds none of the code points to which a run moves its
own. -/
def misses (run other : CaseRun) : Bool :=
  Nat.blt (run.image run.last) other.first ||
    Nat.blt other.last (run.image run.first) ||
      (List.range run.size).all fun index =>
        !other.holds (run.image (run.place index))

/-- Whether a run moves its code points to characters that are not blank. -/
def landsOnLetters (run : CaseRun) : Bool :=
  (List.range run.size).all fun index =>
    let code := run.image (run.place index)
    decide code.isValidChar && !isBlank (Char.ofNat code)

/-- The run of a single code point, which it does not move. -/
def single (code : Nat) : CaseRun :=
  ⟨code, code, 1, 0⟩

@[simp] theorem holds_single (code : Nat) :
    (single code).holds code = true := by
  simp [single, holds]

variable {run other : CaseRun} {code : Nat}

theorem exists_place (inside : run.holds code = true) :
    ∃ index, index < run.size ∧ code = run.place index := by
  simp only [holds, Bool.and_eq_true, decide_eq_true_eq, beq_iff_eq] at inside
  obtain ⟨⟨above, below⟩, divides⟩ := inside
  refine ⟨(code - run.first) / run.stride, ?_, ?_⟩
  · exact Nat.lt_succ_of_le
      (Nat.div_le_div_right (Nat.sub_le_sub_right below _))
  · rw [place, Nat.mul_div_cancel' (Nat.dvd_of_mod_eq_zero divides)]
    omega

theorem holds_image_of_misses (misses : run.misses other = true)
    (inside : run.holds code = true) :
    other.holds (run.image code) = false := by
  simp only [CaseRun.misses, Bool.or_eq_true, Nat.blt_eq] at misses
  have bounds : run.first ≤ code ∧ code ≤ run.last := by
    simp only [holds, Bool.and_eq_true, decide_eq_true_eq] at inside
    exact inside.1
  rcases misses with (below | above) | apart
  · have order : run.image code ≤ run.image run.last := by
      unfold image
      omega
    have outside : ¬other.first ≤ run.image code := by omega
    simp [holds, outside]
  · have order : run.image run.first ≤ run.image code := by
      unfold image
      omega
    have outside : ¬run.image code ≤ other.last := by omega
    simp [holds, outside]
  · obtain ⟨index, bound, rfl⟩ := exists_place inside
    simpa using List.all_eq_true.mp apart index (List.mem_range.mpr bound)

end CaseRun

/-- Tables of a mapping that moves nothing that it has written. -/
structure AreSettled (expansions : List (Nat × List Nat))
    (runs : List CaseRun) : Prop where
  misses : (runs.all fun run => runs.all run.misses) = true
  plain : (runs.all fun run => expansions.all fun entry =>
      run.misses (.single entry.1)) = true
  letters : runs.all CaseRun.landsOnLetters = true
  expanded : ∀ entry ∈ expansions,
    IsSettled (mapCase expansions runs) (Char.ofNat entry.1)
      (entry.2.map Char.ofNat)

section Tables

variable {expansions : List (Nat × List Nat)} {runs : List CaseRun}

theorem mapCase_of_unmoved {c : Char}
    (plain : (expansions.any fun entry => entry.1 == c.toNat) = false)
    (unmoved : ∀ run ∈ runs, run.holds c.toNat = false) :
    mapCase expansions runs c = [c] := by
  have none : expansions.find? (fun entry => entry.1 == c.toNat) = none := by
    simpa [List.find?_eq_none] using plain
  have still : runs.find? (fun run => run.holds c.toNat) = Option.none := by
    simpa [List.find?_eq_none] using unmoved
  rw [mapCase, none, still]

theorem AreSettled.image (settled : AreSettled expansions runs) {run : CaseRun}
    {c : Char} (listed : run ∈ runs) (inside : run.holds c.toNat = true) :
    IsSettled (mapCase expansions runs) c [Char.ofNat (run.image c.toNat)] := by
  have apart : ∀ other ∈ runs, other.holds (run.image c.toNat) = false := by
    intro other listed'
    have misses := List.all_eq_true.mp
      (List.all_eq_true.mp settled.misses run listed) other listed'
    exact CaseRun.holds_image_of_misses misses inside
  have plain : (expansions.any fun entry => entry.1 == run.image c.toNat) =
      false := by
    rw [List.any_eq_false]
    intro entry listed' same
    have misses := List.all_eq_true.mp
      (List.all_eq_true.mp settled.plain run listed) entry listed'
    have other := CaseRun.holds_image_of_misses misses inside
    rw [beq_iff_eq.mp same, CaseRun.holds_single] at other
    cases other
  obtain ⟨index, bound, place⟩ := CaseRun.exists_place inside
  have lands :=
    List.all_eq_true.mp (List.all_eq_true.mp settled.letters run listed) index
      (List.mem_range.mpr bound)
  rw [← place] at lands
  simp only [Bool.and_eq_true, decide_eq_true_eq, Bool.not_eq_true'] at lands
  obtain ⟨valid, visible⟩ := lands
  have code : (Char.ofNat (run.image c.toNat)).toNat = run.image c.toNat := by
    rw [Char.ofNat, dif_pos valid]
    rfl
  apply isSettled_singleton
  · apply mapCase_of_unmoved
    · rwa [code]
    · rwa [code]
  · intro blank
    exact absurd (visible.symm.trans blank) Bool.false_ne_true

/-- What settled tables write for a character, they leave as it is. -/
theorem AreSettled.isSettled_mapCase (settled : AreSettled expansions runs)
    (c : Char) :
    IsSettled (mapCase expansions runs) c (mapCase expansions runs c) := by
  generalize written : mapCase expansions runs c = there
  unfold mapCase at written
  split at written
  · next entry found =>
      have expanded := settled.expanded entry (List.mem_of_find?_eq_some found)
      have same := List.find?_some found
      rwa [beq_iff_eq.mp same, Char.ofNat_toNat, written] at expanded
  next none =>
    split at written
    · next run found =>
        have inside := List.find?_some found
        exact written ▸ settled.image (List.mem_of_find?_eq_some found) inside
    · next still =>
        subst written
        apply isSettled_singleton
        · apply mapCase_of_unmoved
          · simpa [List.find?_eq_none] using none
          · simpa [List.find?_eq_none] using still
        · exact id

end Tables

/-! ## The lower case of one character -/

/-- A character that the lower case mapping leaves as it is. -/
def IsSmall (c : Char) : Prop :=
  lowerChar c = [c]

instance (c : Char) : Decidable (IsSmall c) :=
  inferInstanceAs (Decidable (lowerChar c = [c]))

theorem IsSmall.ne_sigma {c : Char} (small : IsSmall c) : c ≠ 'Σ' := by
  rintro rfl
  revert small
  decide

/-- What may stand for a character in lower case: characters in lower case, none
of them blank unless it is. -/
structure IsLowered (c : Char) (written : List Char) : Prop where
  nonempty : written ≠ []
  small : ∀ d ∈ written, IsSmall d
  blank : ∀ d ∈ written, isBlank d = true → isBlank c = true

theorem isLowered_singleton {c d : Char} (small : IsSmall d)
    (blank : isBlank d = true → isBlank c = true) : IsLowered c [d] :=
  ⟨List.cons_ne_nil _ _, by simpa using small, by simpa using blank⟩

theorem lowerTables_areSettled : AreSettled lowerExpansions lowerRuns := by
  refine ⟨by decide +kernel, by decide +kernel, by decide +kernel,
    fun entry listed => ?_⟩
  obtain rfl := List.mem_singleton.mp listed
  refine ⟨List.cons_ne_nil _ _, ?_, ?_⟩
  · exact List.forall_mem_cons.mpr ⟨by decide,
      List.forall_mem_singleton.mpr (by decide)⟩
  · exact List.forall_mem_cons.mpr ⟨by decide,
      List.forall_mem_singleton.mpr (by decide)⟩

/-- The lower case of a character is in lower case. -/
theorem isLowered_lowerChar (c : Char) : IsLowered c (lowerChar c) := by
  have settled := lowerTables_areSettled.isSettled_mapCase c
  exact ⟨settled.nonempty, settled.fixed, settled.blank⟩

/-! ## The lower case of a text -/

theorem lowerFrom_cons (before : List Char) (c : Char) (rest : List Char) :
    ∃ written, IsLowered c written ∧
      lowerFrom before (c :: rest) =
        written ++ lowerFrom (c :: before) rest := by
  refine ⟨_, ?_, rfl⟩
  split
  · next sigma =>
      subst sigma
      split
      · exact isLowered_singleton (by decide) (by decide)
      · exact isLowered_singleton (by decide) (by decide)
  · exact isLowered_lowerChar c

theorem isSmall_of_mem_lowerFrom {before cs : List Char} :
    ∀ c ∈ lowerFrom before cs, IsSmall c := by
  induction cs generalizing before with
  | nil => exact List.forall_mem_nil _
  | cons c rest ih =>
      obtain ⟨written, lowered, eq⟩ := lowerFrom_cons before c rest
      rw [eq]
      exact List.forall_mem_append.mpr ⟨lowered.small, ih⟩

/-- Texts are mapped letter by letter where no capital sigma stands. -/
theorem lowerFrom_eq_of_forall₂ {before word letters : List Char}
    (each : List.Forall₂
      (fun small letter => letter ≠ 'Σ' ∧ lowerChar letter = [small]) word
      letters) : lowerFrom before letters = word := by
  induction each generalizing before with
  | nil => rfl
  | cons here _ ih =>
      obtain ⟨plain, lowered⟩ := here
      rw [lowerFrom, if_neg plain, lowered, ih]
      rfl

theorem lowerFrom_of_isSmall {before cs : List Char}
    (small : ∀ c ∈ cs, IsSmall c) : lowerFrom before cs = cs := by
  apply lowerFrom_eq_of_forall₂
  rw [List.forall₂_same]
  intro c inside
  exact ⟨(small c inside).ne_sigma, small c inside⟩

theorem lowerFrom_ne_nil {before : List Char} (c : Char) (rest : List Char) :
    lowerFrom before (c :: rest) ≠ [] := by
  obtain ⟨written, lowered, eq⟩ := lowerFrom_cons before c rest
  rw [eq]
  exact List.append_ne_nil_of_left_ne_nil lowered.nonempty _

theorem back_lowerFrom {before cs : List Char}
    (back : ∀ c ∈ cs.getLast?, isBlank c = false) :
    ∀ c ∈ (lowerFrom before cs).getLast?, isBlank c = false := by
  induction cs generalizing before with
  | nil => simp [lowerFrom]
  | cons c rest ih =>
      obtain ⟨written, lowered, eq⟩ := lowerFrom_cons before c rest
      rw [eq]
      cases rest with
      | nil =>
          intro d last
          rw [lowerFrom, List.append_nil] at last
          have visible := back c (by simp)
          rw [Bool.eq_false_iff] at visible ⊢
          exact fun blank =>
            visible (lowered.blank d (List.mem_of_getLast? last) blank)
      | cons next rest =>
          rw [List.getLast?_append_of_ne_nil _ (lowerFrom_ne_nil next rest)]
          rw [List.getLast?_cons_cons] at back
          exact ih back

/-- A trimmed text is trimmed in lower case, too. -/
theorem IsTrimmed.lowerFrom {before cs : List Char} (trimmed : IsTrimmed cs) :
    IsTrimmed (lowerFrom before cs) := by
  constructor
  · cases cs with
    | nil => simp [Text.lowerFrom]
    | cons c rest =>
        obtain ⟨written, lowered, eq⟩ := lowerFrom_cons before c rest
        rw [eq, List.head?_append_of_ne_nil _ lowered.nonempty]
        intro d first
        have visible := trimmed.front c rfl
        rw [Bool.eq_false_iff] at visible ⊢
        exact fun blank =>
          visible (lowered.blank d (List.mem_of_head? first) blank)
  · exact back_lowerFrom trimmed.back

/-- A text that is trimmed and put into lower case once is so for good. -/
theorem lower_trim_idem (text : String) :
    lower (trim (lower (trim text))) = lower (trim text) := by
  apply String.toList_inj.mp
  rw [toList_lower, toList_trim, toList_lower, toList_trim]
  have trimmed : IsTrimmed (lowerFrom [] (trimChars text.toList)) :=
    (isTrimmed_trimChars text.toList).lowerFrom
  rw [trimmed.trimChars_eq]
  exact lowerFrom_of_isSmall isSmall_of_mem_lowerFrom

/-! ## Spellings of a word -/

/-- A text that spells a word with letters of either case and blanks around
it. -/
inductive Spells (word : String) : String → Prop where
  | intro {front letters back : List Char}
    (before : ∀ c ∈ front, isBlank c = true) (each : List.Forall₂
      (fun small letter => letter = small ∨ upperChar small = [letter])
      word.toList letters) (behind : ∀ c ∈ back, isBlank c = true) :
    Spells word (String.ofList (front ++ letters ++ back))

/-- Whether the letters of a word have a capital form at most that is mapped
back to them alone. -/
def IsPlainWord (word : String) : Prop :=
  ∀ small ∈ word.toList, ∀ letter ∈ small :: upperChar small,
    letter ≠ 'Σ' ∧ lowerChar letter = [small] ∧ isBlank letter = false

instance (word : String) : Decidable (IsPlainWord word) :=
  @List.decidableBAll _ _ (fun _ => List.decidableBAll _ _) _

/-- All spellings of a word are the same text when they are trimmed and put into
lower case. -/
theorem lower_trim_of_spells {word text : String} (plain : IsPlainWord word)
    (spells : Spells word text) : lower (trim text) = word := by
  obtain @⟨front, letters, back, before, each, behind⟩ := spells
  have lowered : List.Forall₂ (fun small letter =>
        (letter ≠ 'Σ' ∧ lowerChar letter = [small]) ∧ isBlank letter = false)
      word.toList letters := by
    apply forall₂_imp_mem each
    intro small inside letter spelled
    have written : letter ∈ small :: upperChar small := by
      rcases spelled with rfl | capital
      · exact List.mem_cons_self
      · simp [capital]
    obtain ⟨ordinary, maps, visible⟩ := plain small inside letter written
    exact ⟨⟨ordinary, maps⟩, visible⟩
  have visible : ∀ letter ∈ letters, isBlank letter = false := by
    intro letter inside
    obtain ⟨_, -, -, shown⟩ := exists_mem_left_of_forall₂ lowered inside
    exact shown
  have trimmed : IsTrimmed letters :=
    ⟨fun c first => visible c (List.mem_of_head? first),
      fun c last => visible c (List.mem_of_getLast? last)⟩
  apply String.toList_inj.mp
  rw [toList_lower, toList_trim, String.toList_ofList,
    trimChars_append_blanks trimmed before behind]
  exact lowerFrom_eq_of_forall₂ (lowered.imp fun _ _ here => here.1)

end ExamHall.Text

/-!
## Trimming and upper case, done once

The upper case mapping settles as the lower case mapping does, and writes one to
three characters for each.  So the upper case of a trimmed text is both trimmed
and in upper case, and at most three times as long.
-/

namespace ExamHall.Text

/-! ### The upper case of one character -/

/-- The characters that a capital form of several characters is made of are
capitals, and none of them is blank. -/
theorem upperExpansions_expanded :
    ∀ entry ∈ upperExpansions, (2 ≤ entry.2.length ∧ entry.2.length ≤ 3) ∧
      ∀ code ∈ entry.2, upperChar (Char.ofNat code) = [Char.ofNat code] ∧
        isBlank (Char.ofNat code) = false := by
  decide +kernel

theorem upperTables_areSettled : AreSettled upperExpansions upperRuns := by
  refine ⟨by decide +kernel, by decide +kernel, by decide +kernel,
    fun entry listed => ?_⟩
  obtain ⟨⟨long, -⟩, capitals⟩ := upperExpansions_expanded entry listed
  refine ⟨?_, ?_, ?_⟩
  · intro empty
    rw [List.map_eq_nil_iff.mp empty] at long
    exact absurd long (by decide)
  · exact List.forall_mem_map.mpr fun code inside => (capitals code inside).1
  · refine List.forall_mem_map.mpr fun code inside blank => ?_
    exact absurd ((capitals code inside).2.symm.trans blank) Bool.false_ne_true

/-- The upper case of a character is in upper case. -/
theorem isSettled_upperChar (c : Char) : IsSettled upperChar c (upperChar c) :=
  upperTables_areSettled.isSettled_mapCase c

theorem length_upperChar (c : Char) :
    1 ≤ (upperChar c).length ∧ (upperChar c).length ≤ 3 := by
  refine ⟨List.length_pos_iff.mpr (isSettled_upperChar c).nonempty, ?_⟩
  unfold upperChar mapCase
  split
  · next entry found =>
      rw [List.length_map]
      exact (upperExpansions_expanded entry
          (List.mem_of_find?_eq_some found)).1.2
  · split
    · exact Nat.le_of_ble_eq_true rfl
    · exact Nat.le_of_ble_eq_true rfl

/-! ### The upper case of a text -/

theorem flatMap_upperChar_of_capitals {cs : List Char}
    (capitals : ∀ c ∈ cs, upperChar c = [c]) : cs.flatMap upperChar = cs := by
  induction cs with
  | nil => rfl
  | cons c rest ih =>
      obtain ⟨here, later⟩ := List.forall_mem_cons.mp capitals
      rw [List.flatMap_cons, here, ih later]
      rfl

theorem upperChar_of_mem_flatMap {cs : List Char} {d : Char}
    (inside : d ∈ cs.flatMap upperChar) : upperChar d = [d] := by
  obtain ⟨c, -, written⟩ := List.mem_flatMap.mp inside
  exact (isSettled_upperChar c).fixed d written

/-- A trimmed text is trimmed in upper case, too. -/
theorem IsTrimmed.flatMap_upperChar {cs : List Char} (trimmed : IsTrimmed cs) :
    IsTrimmed (cs.flatMap upperChar) := by
  have visible : ∀ c, isBlank c = false → ∀ d ∈ upperChar c,
      isBlank d = false := by
    intro c shown d written
    rw [Bool.eq_false_iff] at shown ⊢
    exact fun blank => shown ((isSettled_upperChar c).blank d written blank)
  constructor
  · cases cs with
    | nil => simp
    | cons c rest =>
        rw [List.flatMap_cons,
          List.head?_append_of_ne_nil _ (isSettled_upperChar c).nonempty]
        exact fun d first
          => visible c (trimmed.front c rfl) d (List.mem_of_head? first)
  · rcases List.eq_nil_or_concat cs with rfl | ⟨front, c, rfl⟩
    · simp
    · have last := trimmed.back c (by simp)
      rw [List.concat_eq_append, List.flatMap_append, List.flatMap_singleton,
        List.getLast?_append_of_ne_nil _ (isSettled_upperChar c).nonempty]
      exact fun d final => visible c last d (List.mem_of_getLast? final)

/-- A text that is trimmed and put into upper case once is so for good. -/
theorem upper_trim_idem (text : String) :
    upper (trim (upper (trim text))) = upper (trim text) := by
  apply String.toList_inj.mp
  rw [toList_upper, toList_trim, toList_upper, toList_trim,
    (isTrimmed_trimChars text.toList).flatMap_upperChar.trimChars_eq]
  exact flatMap_upperChar_of_capitals fun _ => upperChar_of_mem_flatMap

/-- The upper case of a text is as long as the text, or up to three times as
long. -/
theorem length_upper_bounds (text : String) :
    text.length ≤ (upper text).length ∧
    (upper text).length ≤ 3 * text.length := by
  rw [← String.length_toList, ← String.length_toList, toList_upper]
  induction text.toList with
  | nil => simp
  | cons c rest ih =>
      have here := length_upperChar c
      rw [List.flatMap_cons, List.length_append, List.length_cons]
      omega

/-- A text without letters that expand is as long in upper case. -/
theorem length_upper_of_forall {text : String}
    (single : ∀ c ∈ text.toList, (upperChar c).length = 1) :
    (upper text).length = text.length := by
  rw [← String.length_toList, ← String.length_toList, toList_upper]
  revert single
  induction text.toList with
  | nil => exact fun _ => rfl
  | cons c rest ih =>
      intro single
      obtain ⟨here, later⟩ := List.forall_mem_cons.mp single
      rw [List.flatMap_cons, List.length_append, here, ih later,
        List.length_cons, Nat.add_comm]

end ExamHall.Text
