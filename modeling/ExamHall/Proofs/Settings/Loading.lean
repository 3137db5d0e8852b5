import ExamHall.Proofs.Steps
import ExamHall.Settings.Load
import Mathlib.Logic.Basic

/-!
# What loaded settings keep

Settings are loaded when each variable can be read and no check of a range
fails.  Some of their numbers are checked then, and others are only as large as
the numbers that can be read.
-/

namespace ExamHall.Settings

variable {values : Variables} {settings : Settings}

/-- The bounds of the numbers in loaded settings.  How long grading has to have
stalled is bounded by nothing but the size of the number. -/
structure KeepsBounds (settings : Settings) : Prop where
  sweepInterval : 0 < settings.sweepIntervalSeconds ∧
    settings.sweepIntervalSeconds ≤ 600
  sweepBatch : 0 < settings.sweepBatchSize ∧ settings.sweepBatchSize < twoTo 32
  maxQuestions : 0 < settings.maxQuestions ∧ settings.maxQuestions < twoTo 32
  maxManualIds : 0 < settings.maxManualIds ∧ settings.maxManualIds ≤ 100
  stalledGrading : settings.stalledGradingAfterSeconds < twoTo 64

theorem number_lt {bound found : Nat} {name default : String}
    (given : number values bound name default = .ok found) : found < bound := by
  dsimp only [number] at given
  split at given
  next read =>
    cases given
    exact of_decide_eq_true (Option.filter_eq_some_iff.mp read).2
  next => cases given

theorem load_eq_ok :
    load values = .ok settings ↔ read values = .ok settings ∧
    settings.fault? = none := by
  simp only [load, exceptBind_eq_ok]
  constructor
  · rintro ⟨found, given, checked⟩
    split at checked
    next => cases checked
    next sound =>
      cases checked
      exact ⟨given, sound⟩
  · rintro ⟨given, sound⟩
    exact ⟨settings, given, by rw [sound]⟩

/-- Numbers that have been read are as large as they are allowed to be
written. -/
theorem lt_of_read (given : read values = .ok settings) :
    settings.maxQuestions < twoTo 32 ∧ settings.sweepBatchSize < twoTo 32 ∧
      settings.stalledGradingAfterSeconds < twoTo 64 := by
  simp only [read, exceptBind_eq_ok] at given
  obtain ⟨_, -, _, -, _, -, _, -, _, questions, _, -, _, -, _, batch, _,
    stalled, _, -, made⟩ := given
  cases made
  exact ⟨number_lt questions, number_lt batch, number_lt stalled⟩

theorem keepsBounds_of_load (loaded : load values = .ok settings) :
    settings.KeepsBounds := by
  obtain ⟨given, sound⟩ := load_eq_ok.mp loaded
  obtain ⟨questions, batch, stalled⟩ := lt_of_read given
  unfold fault? at sound
  simp only [ite_eq_iff, reduceCtorEq, and_false, false_or] at sound
  obtain ⟨interval, someBatch, someQuestions, manualIds, -⟩ := sound
  rw [maxSweepInterval] at interval
  rw [maxManualLimit] at manualIds
  exact
    { sweepInterval := by omega
      sweepBatch := ⟨Nat.pos_of_ne_zero someBatch, batch⟩
      maxQuestions := ⟨Nat.pos_of_ne_zero someQuestions, questions⟩
      maxManualIds := by omega
      stalledGrading := stalled }

end ExamHall.Settings
