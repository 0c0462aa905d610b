import Mathlib.Data.List.Forall2
import Sero.Library.Table

/-!
# Tables in relation

Two tables whose entries are related one by one are searched and written alike, as long
as the tests do not see the difference and the writes keep the relation.  Where one
entry is a function of the other the tables commute with the operations.
-/

namespace Sero.Library.Table

universe u v w

variable {α : Type u} {β : Type v} {κ : Type w}

/-! ## Related entries -/

section Related

variable {related : α → β → Prop} {left : List α} {right : List β}
variable {leftTest : α → Bool} {rightTest : β → Bool}

theorem any_related (tables : List.Forall₂ related left right)
    (tests : ∀ first second, related first second → leftTest first = rightTest second) :
    left.any leftTest = right.any rightTest := by
  induction tables with
  | nil => rfl
  | cons entries _ ih => rw [List.any_cons, List.any_cons, tests _ _ entries, ih]

theorem find?_related (tables : List.Forall₂ related left right)
    (tests : ∀ first second, related first second → leftTest first = rightTest second) :
    Option.Rel related (left.find? leftTest) (right.find? rightTest) := by
  induction tables with
  | nil => exact .none
  | cons entries _ ih =>
      rw [List.find?_cons, List.find?_cons, tests _ _ entries]
      split
      · exact .some entries
      · exact ih

theorem getElem?_related (tables : List.Forall₂ related left right) (index : Nat) :
    Option.Rel related left[index]? right[index]? := by
  induction tables generalizing index with
  | nil => exact .none
  | cons entries _ ih =>
      cases index with
      | zero => exact .some entries
      | succ index => exact ih index

theorem updateFirst_related {leftUpdate : α → α} {rightUpdate : β → β}
    (tables : List.Forall₂ related left right)
    (tests : ∀ first second, related first second → leftTest first = rightTest second)
    (updates : ∀ first second, related first second →
      related (leftUpdate first) (rightUpdate second)) :
    List.Forall₂ related (updateFirst leftTest leftUpdate left)
      (updateFirst rightTest rightUpdate right) := by
  induction tables with
  | nil => exact .nil
  | cons entries rest ih =>
      rw [updateFirst, updateFirst, tests _ _ entries]
      split
      · exact .cons (updates _ _ entries) rest
      · exact .cons entries ih

theorem upsert_related {leftUpdate : α → α} {rightUpdate : β → β}
    (tables : List.Forall₂ related left right)
    (tests : ∀ first second, related first second → leftTest first = rightTest second)
    (updates : ∀ first second, related first second →
      related (leftUpdate first) (rightUpdate second))
    {leftFresh : α} {rightFresh : β}
    (fresh : related (leftUpdate leftFresh) (rightUpdate rightFresh)) (capacity : Nat) :
    Option.Rel (List.Forall₂ related) (upsert leftTest leftUpdate leftFresh capacity left)
      (upsert rightTest rightUpdate rightFresh capacity right) := by
  rw [upsert, upsert, any_related tables tests, tables.length_eq]
  split
  · exact .some (updateFirst_related tables tests updates)
  · split
    · exact .some (List.rel_append tables (.cons fresh .nil))
    · exact .none

theorem modify_related {leftUpdate : α → α} {rightUpdate : β → β}
    (tables : List.Forall₂ related left right) (index : Nat)
    (updates : ∀ first second, related first second →
      related (leftUpdate first) (rightUpdate second)) :
    List.Forall₂ related (left.modify index leftUpdate) (right.modify index rightUpdate) := by
  induction tables generalizing index with
  | nil =>
      rw [List.modify_nil, List.modify_nil]
      exact .nil
  | cons entries rest ih =>
      cases index with
      | zero => exact .cons (updates _ _ entries) rest
      | succ index => exact .cons entries (ih index)

end Related

/-! ## Entries that are a function of the other's -/

section Mapped

variable {image : α → β} {test : α → Bool} {imageTest : β → Bool}

theorem any_map (tests : ∀ entry, imageTest (image entry) = test entry) (table : List α) :
    (table.map image).any imageTest = table.any test := by
  rw [List.any_map]
  congr 1
  funext entry
  exact tests entry

theorem find?_map (tests : ∀ entry, imageTest (image entry) = test entry) (table : List α) :
    (table.map image).find? imageTest = (table.find? test).map image := by
  rw [List.find?_map]
  congr 2
  funext entry
  exact tests entry

theorem updateFirst_map {update : α → α} {imageUpdate : β → β}
    (tests : ∀ entry, imageTest (image entry) = test entry)
    (updates : ∀ entry, imageUpdate (image entry) = image (update entry)) (table : List α) :
    updateFirst imageTest imageUpdate (table.map image) =
      (updateFirst test update table).map image := by
  induction table with
  | nil => rfl
  | cons entry rest ih =>
      rw [List.map_cons, updateFirst, updateFirst, tests, updates, ih]
      split <;> rfl

theorem upsert_map {update : α → α} {imageUpdate : β → β} {fresh : α} {imageFresh : β}
    (tests : ∀ entry, imageTest (image entry) = test entry)
    (updates : ∀ entry, imageUpdate (image entry) = image (update entry))
    (freshes : imageUpdate imageFresh = image (update fresh)) (capacity : Nat)
    (table : List α) :
    upsert imageTest imageUpdate imageFresh capacity (table.map image) =
      (upsert test update fresh capacity table).map (List.map image) := by
  rw [upsert, upsert, any_map tests, updateFirst_map tests updates, List.length_map, freshes]
  split
  · rfl
  · split
    · rw [Option.map_some, List.map_append]
      rfl
    · rfl

theorem swapRemove_map (tests : ∀ entry, imageTest (image entry) = test entry)
    (table : List α) :
    swapRemove imageTest (table.map image) = (swapRemove test table).map image := by
  induction table with
  | nil => rfl
  | cons entry rest ih =>
      rw [List.map_cons, swapRemove, swapRemove, tests, List.getLast?_map, ih]
      split
      · cases rest.getLast? with
        | none => rfl
        | some last => simp
      · rfl

end Mapped

end Sero.Library.Table
