import Mathlib.Logic.Relation
import Mathlib.Data.List.Basic

/-!
# Runs of a step relation

A large operation that may hand control away in the middle is related to a
sequence of small steps.  Properties are then proved once per small step and hold
at every point of every run, also inside the operation.

What has been observed along a run is a list that grows at its head, so an
occurrence together with its past is a suffix.
-/

namespace Sero.Library.Runs

universe u v

variable {σ : Type u} {α : Type v} {step : σ → σ → Prop}

/-- What every step preserves, every run preserves. -/
theorem invariant {holds : σ → Prop}
    (preserves : ∀ before after, holds before → step before after → holds after)
    {first last : σ} (run : Relation.ReflTransGen step first last) (initially : holds first) :
    holds last := by
  induction run with
  | refl => exact initially
  | tail _ next ih => exact preserves _ _ ih next

/-- A loop is a run if each of its turns is. -/
theorem foldl {body : σ → α → σ}
    (each : ∀ state item, Relation.ReflTransGen step state (body state item))
    (items : List α) (state : σ) : Relation.ReflTransGen step state (items.foldl body state) := by
  induction items generalizing state with
  | nil => exact .refl
  | cons item rest ih => exact (each state item).trans (ih (body state item))

/-- An occurrence that is not among the newest events lies, with its past, behind
them. -/
theorem suffix_of_notMem {occurrence : α} {past newest older : List α}
    (occurs : (occurrence :: past) <:+ newest ++ older) (absent : occurrence ∉ newest) :
    (occurrence :: past) <:+ older := by
  induction newest with
  | nil => exact occurs
  | cons head rest ih =>
      obtain ⟨notHead, notRest⟩ := List.ne_and_not_mem_of_not_mem_cons absent
      rcases List.suffix_cons_iff.mp occurs with same | inRest
      · exact absurd (List.cons.inj same).1 notHead
      · exact ih inRest notRest

/-- An occurrence with its past lies behind the newest events, or is one of them. -/
theorem suffix_append_cases {occurrence : α} {past newest older : List α}
    (occurs : (occurrence :: past) <:+ newest ++ older) :
    (occurrence :: past) <:+ older ∨
      ∃ during between, newest = during ++ occurrence :: between ∧ past = between ++ older := by
  induction newest with
  | nil => exact .inl occurs
  | cons head rest ih =>
      rcases List.suffix_cons_iff.mp occurs with same | inRest
      · obtain ⟨rfl, rfl⟩ := List.cons.inj same
        exact .inr ⟨[], rest, rfl, rfl⟩
      · rcases ih inRest with behind | ⟨during, between, rfl, rfl⟩
        · exact .inl behind
        · exact .inr ⟨head :: during, between, rfl, rfl⟩

/-- An occurrence that has been added to what had been observed before. -/
def Added (older : List α) (occurrence : α) (newer : List α) : Prop :=
  ∃ past, older <:+ past ∧ (occurrence :: past) <:+ newer

theorem Added.mem {older newer : List α} {occurrence : α} (added : Added older occurrence newer) :
    occurrence ∈ newer := by
  obtain ⟨past, -, occurs⟩ := added
  exact occurs.subset (.head _)

theorem exists_suffix {occurrence : α} {history : List α} (member : occurrence ∈ history) :
    ∃ past, (occurrence :: past) <:+ history := by
  obtain ⟨newer, past, equal⟩ := List.append_of_mem member
  exact ⟨past, newer, equal.symm⟩

/-- Suffixes of one history are determined by their length. -/
theorem suffix_unique {left right history : List α} (leftOccurs : left <:+ history)
    (rightOccurs : right <:+ history) (length : left.length = right.length) :
    left = right :=
  (List.suffix_of_suffix_length_le leftOccurs rightOccurs (Nat.le_of_eq length)).eq_of_length length

/-- An occurrence is determined by what is selected of it, if nothing is selected twice. -/
theorem eq_of_nodup_filterMap {β : Type u} {select : α → Option β} {history : List α}
    (distinct : (history.filterMap select).Nodup) {left right : α} (leftOccurs : left ∈ history)
    (rightOccurs : right ∈ history) {value : β} (leftSelected : select left = some value)
    (rightSelected : select right = some value) : left = right := by
  induction history with
  | nil => cases leftOccurs
  | cons event past ih =>
      cases selected : select event with
      | none =>
          rw [List.filterMap_cons_none selected] at distinct
          have elsewhere : ∀ other, other ∈ event :: past → select other = some value →
              other ∈ past := by
            intro other occurs isSelected
            rcases List.mem_cons.mp occurs with rfl | earlier
            · cases selected.symm.trans isSelected
            · exact earlier
          exact ih distinct (elsewhere left leftOccurs leftSelected)
            (elsewhere right rightOccurs rightSelected)
      | some newest =>
          rw [List.filterMap_cons_some selected, List.nodup_cons] at distinct
          have older : ∀ other, other ∈ past → select other = some value → newest ≠ value := by
            rintro other occurs isSelected rfl
            exact distinct.1 (List.mem_filterMap.mpr ⟨other, occurs, isSelected⟩)
          have now : ∀ {other}, other = event → select other = some value → newest = value := by
            rintro other rfl isSelected
            exact Option.some.inj (selected.symm.trans isSelected)
          rcases List.mem_cons.mp leftOccurs with leftNow | leftPast <;>
            rcases List.mem_cons.mp rightOccurs with rightNow | rightPast
          · rw [leftNow, rightNow]
          · exact absurd (now leftNow leftSelected) (older right rightPast rightSelected)
          · exact absurd (now rightNow rightSelected) (older left leftPast leftSelected)
          · exact ih distinct.2 leftPast rightPast

end Sero.Library.Runs
