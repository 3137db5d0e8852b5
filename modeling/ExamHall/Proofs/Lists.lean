import Mathlib.Data.List.Forall2
import Mathlib.Data.List.Nodup
import Mathlib.Data.List.Sort

/-!
# Lists of related items
-/

namespace ExamHall

variable {α β : Type} {related : α → β → Prop}

theorem forall_mem_of_eq_nil {items : List α} {holds : α → Prop}
    (none : items = []) : ∀ item ∈ items, holds item :=
  none ▸ List.forall_mem_nil holds

theorem exists_mem_left_of_forall₂ {lefts : List α} {rights : List β}
    (pairs : List.Forall₂ related lefts rights) {right : β}
    (membership : right ∈ rights) : ∃ left ∈ lefts, related left right := by
  induction pairs with
  | nil => cases membership
  | cons here _ ih =>
      rcases List.mem_cons.mp membership with rfl | later
      · exact ⟨_, List.mem_cons_self, here⟩
      · obtain ⟨left, inside, linked⟩ := ih later
        exact ⟨left, List.mem_cons_of_mem _ inside, linked⟩

theorem exists_mem_right_of_forall₂ {lefts : List α} {rights : List β}
    (pairs : List.Forall₂ related lefts rights) {left : α}
    (membership : left ∈ lefts) : ∃ right ∈ rights, related left right := by
  obtain ⟨right, inside, linked⟩ :=
    exists_mem_left_of_forall₂ pairs.flip membership
  exact ⟨right, inside, linked⟩

theorem forall₂_imp_mem {other : α → β → Prop} {lefts : List α}
    {rights : List β} (pairs : List.Forall₂ related lefts rights)
    (weaker : ∀ left ∈ lefts, ∀ right, related left right → other left right) :
    List.Forall₂ other lefts rights := by
  induction pairs with
  | nil => exact List.Forall₂.nil
  | @cons left right lefts rights here _ ih =>
      apply List.Forall₂.cons
      · exact weaker left List.mem_cons_self right here
      · exact ih fun later inside =>
          weaker later (List.mem_cons_of_mem left inside)

theorem map_eq_of_forall₂ {γ : Type} {key : α → γ} {key' : β → γ}
    {lefts : List α} {rights : List β}
    (pairs : List.Forall₂ related lefts rights)
    (same : ∀ left right, related left right → key' right = key left) :
    rights.map key' = lefts.map key := by
  induction pairs with
  | nil => rfl
  | cons here _ ih =>
      rw [List.map_cons, List.map_cons, same _ _ here, ih]

/-- Reading a list succeeds exactly when each of its items can be read. -/
theorem mapM_eq_some_iff_forall₂ {read? : α → Option β} {items : List α}
    {values : List β} :
    items.mapM read? = some values ↔
      List.Forall₂ (fun item value => read? item = some value) items
        values := by
  induction items generalizing values with
  | nil => simp [eq_comm]
  | cons item rest ih =>
      rw [List.mapM_cons]
      constructor
      · intro read
        cases here : read? item with
        | none => simp [here] at read
        | some value =>
            cases later : rest.mapM read? with
            | none => simp [here, later] at read
            | some others =>
                obtain rfl : value :: others = values := by
                  simpa [here, later] using read
                exact List.Forall₂.cons here (ih.mp later)
      · intro pairs
        cases pairs with
        | cons here later => simp [here, ih.mpr later]

/-- A list of items that can be read has values. -/
theorem exists_mapM_eq_some {read? : α → Option β} {items : List α}
    (readable : ∀ item ∈ items, (read? item).isSome) :
    ∃ values, items.mapM read? = some values := by
  induction items with
  | nil => exact ⟨[], rfl⟩
  | cons item rest ih =>
      obtain ⟨here, later⟩ := List.forall_mem_cons.mp readable
      obtain ⟨value, read⟩ := Option.isSome_iff_exists.mp here
      obtain ⟨values, others⟩ := ih later
      exact ⟨value :: values, by simp [read, others]⟩

theorem mapM_eq_some_filterMap {read? : α → Option β} {items : List α}
    {values : List β} (read : items.mapM read? = some values) :
    values = items.filterMap read? := by
  have pairs := mapM_eq_some_iff_forall₂.mp read
  clear read
  induction pairs with
  | nil => rfl
  | cons here _ ih => rw [List.filterMap_cons, here, ← ih]

theorem mapM_ok_iff_forall₂ {ε : Type} {make : α → Except ε β} {items : List α}
    {values : List β} :
    items.mapM make = .ok values ↔
      List.Forall₂ (fun item value => make item = .ok value) items values := by
  induction items generalizing values with
  | nil => simp [pure, Except.pure, eq_comm]
  | cons item rest ih =>
      rw [List.mapM_cons]
      constructor
      · intro made
        cases here : make item with
        | error fault => simp [here, bind, Except.bind] at made
        | ok value =>
            cases later : rest.mapM make with
            | error fault => simp [here, later, bind, Except.bind] at made
            | ok others =>
                obtain rfl : value :: others = values := by
                  simpa [here, later, bind, Except.bind, pure, Except.pure]
                    using made
                exact List.Forall₂.cons here (ih.mp later)
      · intro pairs
        cases pairs with
        | cons here later =>
            simp [here, ih.mpr later, bind, Except.bind, pure, Except.pure]

/-- In an ordered list a search finds something no later than a place where it
would. -/
theorem exists_first_of_findSome? {before : α → α → Prop}
    {search : α → Option β} {items : List α} (ordered : items.Pairwise before)
    {item : α} (membership : item ∈ items) (found : (search item).isSome) :
    ∃ first value, items.findSome? search = some value ∧
      search first = some value ∧ first ∈ items ∧
      (first = item ∨ before first item) := by
  induction ordered with
  | nil => cases membership
  | @cons head rest earlier _ ih =>
      rw [List.findSome?_cons]
      cases here : search head with
      | some value =>
          refine ⟨head, value, rfl, here, List.mem_cons_self, ?_⟩
          rcases List.mem_cons.mp membership with rfl | later
          · exact .inl rfl
          · exact .inr (earlier item later)
      | none =>
          rcases List.mem_cons.mp membership with rfl | later
          · simp [here] at found
          · obtain ⟨first, value, ended, same, inside, order⟩ := ih later
            exact ⟨first, value, ended, same,
              List.mem_cons_of_mem head inside, order⟩

/-! ## Looking up keys -/

section Keys

variable {κ : Type} {items : List α}

/-- Items with the same key are the same item. -/
theorem eq_of_key {key : α → κ} (keys : (items.map key).Nodup) {left right : α}
    (leftInside : left ∈ items) (rightInside : right ∈ items)
    (same : key left = key right) : left = right :=
  List.inj_on_of_nodup_map keys leftInside rightInside same

theorem find?_key_eq_some {key : α → String} (keys : (items.map key).Nodup)
    {item : α} (membership : item ∈ items) :
    items.find? (fun other => key other == key item) = some item := by
  cases found : items.find? (fun other => key other == key item) with
  | none =>
      have missing := List.find?_eq_none.mp found item membership
      simp at missing
  | some other =>
      have same : key other = key item := by
        simpa using List.find?_some found
      rw [eq_of_key keys (List.mem_of_find?_eq_some found) membership same]

/-- Where keys are unique, the order of the items does not matter to who looks
for a key. -/
theorem find?_key_eq_of_perm {key : α → String} {others : List α}
    (perm : items.Perm others) (keys : (items.map key).Nodup)
    (wanted : String) :
    items.find? (fun item => key item == wanted) =
      others.find? (fun item => key item == wanted) := by
  cases found : others.find? fun item => key item == wanted with
  | none =>
      rw [List.find?_eq_none] at found ⊢
      exact fun item inside => found item (perm.mem_iff.mp inside)
  | some item =>
      obtain rfl : key item = wanted := by simpa using List.find?_some found
      exact find?_key_eq_some keys
        (perm.mem_iff.mpr (List.mem_of_find?_eq_some found))

theorem mem_and_key_of_find? {key : α → String} {id : String} {item : α}
    (found : items.find? (fun other => key other == id) = some item) :
    item ∈ items ∧ key item = id :=
  ⟨List.mem_of_find?_eq_some found, by simpa using List.find?_some found⟩

theorem find?_key_eq_some_iff {key : α → String} (keys : (items.map key).Nodup)
    {id : String} {item : α} :
    items.find? (fun other => key other == id) = some item ↔ item ∈ items ∧
    key item = id := by
  constructor
  · exact mem_and_key_of_find?
  · rintro ⟨inside, rfl⟩
    exact find?_key_eq_some keys inside

end Keys

/-! ## Places in a list -/

theorem not_sublist_swapped {order : List α} {first second : α}
    (distinct : order.Nodup) (pair : [first, second].Sublist order) :
    ¬[second, first].Sublist order := by
  induction order with
  | nil => cases pair
  | cons head rest ih =>
      obtain ⟨fresh, distinct⟩ := List.nodup_cons.mp distinct
      intro swapped
      cases pair with
      | cons _ later =>
          cases swapped with
          | cons _ swapped => exact ih distinct later swapped
          | cons_cons => exact fresh (later.subset (by simp))
      | cons_cons _ later =>
          cases swapped with
          | cons _ swapped => exact fresh (swapped.subset (by simp))
          | cons_cons => exact fresh (later.subset (by simp))

/-- In an ordered list the place of an item is the number of items before it. -/
theorem idxOf_eq_countP [DecidableEq α] {before : α → α → Prop}
    [DecidableRel before] {order : List α} (ordered : order.Pairwise before)
    (asymm : ∀ first second, before first second → ¬before second first)
    {item : α} (membership : item ∈ order) :
    order.idxOf item = order.countP fun other =>
      decide (before other item) := by
  induction ordered with
  | nil => cases membership
  | @cons head rest ahead _ ih =>
      by_cases here : head = item
      · subst here
        have none : rest.countP (fun other => decide (before other head)) = 0 :=
          List.countP_eq_zero.mpr fun other inside early =>
            asymm head other (ahead other inside) (of_decide_eq_true early)
        have self : ¬before head head := fun loop => asymm head head loop loop
        simp [none, self]
      · have later : item ∈ rest :=
          (List.mem_cons.mp membership).resolve_left (Ne.symm here)
        rw [List.idxOf_cons_ne rest here, ih later, List.countP_cons_of_pos]
        exact decide_eq_true (ahead item later)

/-! ## Beginnings and pieces of a list -/

theorem mem_drop_of_not_mem_take {items : List α} {size : Nat} {item : α}
    (membership : item ∈ items) (missed : item ∉ items.take size) :
    item ∈ items.drop size := by
  rw [← List.take_append_drop size items] at membership
  exact (List.mem_append.mp membership).resolve_left missed

/-- In an ordered list the beginning comes before the rest. -/
theorem rel_of_mem_take_of_mem_drop {before : α → α → Prop} {items : List α}
    (ordered : items.Pairwise before) {size : Nat} {first second : α}
    (early : first ∈ items.take size) (late : second ∈ items.drop size) :
    before first second := by
  rw [← List.take_append_drop size items] at ordered
  exact (List.pairwise_append.mp ordered).2.2 first early second late

/-- Pieces of the same size that follow one another make up the beginning of a
list. -/
theorem flatMap_pieces (items : List α) (size count : Nat) :
    (List.range count).flatMap
      (fun number => (items.drop (number * size)).take size) =
      items.take (count * size) := by
  induction count with
  | zero => simp
  | succ count ih =>
      rw [List.range_succ, List.flatMap_append, ih, List.flatMap_singleton,
        Nat.succ_mul, List.take_add]

/-! ## Sorting by a key -/

theorem pairwise_mergeSort_key {κ : Type} [LE κ] [DecidableLE κ] (key : α → κ)
    (items : List α)
    (trans : ∀ {first second third : κ},
      first ≤ second → second ≤ third → first ≤ third)
    (total : ∀ first second : κ, first ≤ second ∨ second ≤ first) :
    (items.mergeSort fun left right => decide (key left ≤ key right)).Pairwise
      fun left right => key left ≤ key right := by
  have ordered :
      (items.mergeSort fun left right => decide (key left ≤ key right)).Pairwise
        fun left right => decide (key left ≤ key right) := by
    refine List.pairwise_mergeSort (fun left middle right early late => ?_)
      (fun left right => ?_) items
    · exact decide_eq_true
        (trans (of_decide_eq_true early) (of_decide_eq_true late))
    · simpa using total (key left) (key right)
  exact ordered.imp of_decide_eq_true

theorem pairwise_mergeSort_text (key : α → String) (items : List α) :
    (items.mergeSort fun left right => decide (key left ≤ key right)).Pairwise
      fun left right => key left ≤ key right :=
  pairwise_mergeSort_key key items String.le_trans String.le_total

/-- Items with different keys are sorted in one way only, whatever order they
come in. -/
theorem mergeSort_text_eq_of_perm {key : α → String} {items others : List α}
    (perm : items.Perm others)
    (apart : ∀ left ∈ items, ∀ right ∈ items, key left = key right →
      left = right) :
    (items.mergeSort fun left right => decide (key left ≤ key right)) =
      others.mergeSort fun left right => decide (key left ≤ key right) := by
  have reordered := (List.mergeSort_perm items fun left right =>
      decide (key left ≤ key right)).trans (perm.trans (List.mergeSort_perm
        others fun left right => decide (key left ≤ key right)).symm)
  refine reordered.eq_of_pairwise
    (fun left right inside inside' below above => ?_)
    (pairwise_mergeSort_text key items) (pairwise_mergeSort_text key others)
  exact apart left ((List.mergeSort_perm _ _).mem_iff.mp inside) right
    (perm.mem_iff.mpr ((List.mergeSort_perm _ _).mem_iff.mp inside'))
    (String.le_antisymm below above)

end ExamHall
