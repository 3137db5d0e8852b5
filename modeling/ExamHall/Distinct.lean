/-!
# Lists without repetitions

The items of a list in the order of their first occurrence.
-/

namespace ExamHall

/-- Each item once, in the order of first occurrence. -/
def distinct {α : Type} [DecidableEq α] : List α → List α
  | [] => []
  | item :: rest =>
      item :: (distinct rest).filter (fun other => decide (other ≠ item))

@[simp] theorem mem_distinct {α : Type} [DecidableEq α] {item : α}
    {items : List α} : item ∈ distinct items ↔ item ∈ items := by
  induction items with
  | nil => simp [distinct]
  | cons first rest ih =>
    simp only [distinct, List.mem_cons, List.mem_filter, decide_eq_true_eq, ih]
    constructor
    · rintro (rfl | ⟨later, _⟩)
      · exact .inl rfl
      · exact .inr later
    · rintro (rfl | later)
      · exact .inl rfl
      · by_cases same : item = first
        · exact .inl same
        · exact .inr ⟨later, same⟩

theorem nodup_distinct {α : Type} [DecidableEq α] (items : List α) :
    (distinct items).Nodup := by
  induction items with
  | nil => simp [distinct]
  | cons first rest ih =>
    simp only [distinct, List.nodup_cons, List.mem_filter, decide_eq_true_eq]
    exact ⟨fun inside => inside.2 rfl, ih.filter _⟩

end ExamHall
