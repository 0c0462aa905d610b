import Mathlib.Data.List.FinRange
import Mathlib.Logic.Function.Basic
import Mathlib.Data.Fintype.Card

/-!
# Tables of fixed slots

A table of `m` slots, some of them holding a value.  Filling or clearing one
slot changes the collection of held values by exactly that slot's contents, and
distinct keys in a table leave a free key among any longer list of candidates.
-/

namespace Sero.Library.Slots

universe u v

variable {m : Nat} {α : Type u} {κ : Type v}

/-- The held values in slot order. -/
def held (slots : Fin m → Option α) : List α :=
  (List.finRange m).filterMap slots

/-- Rewriting a slot trades its old contents for the new ones. -/
theorem held_update (slots : Fin m → Option α) (slot : Fin m) (content : Option α) :
    ((slots slot).toList ++ held (Function.update slots slot content)).Perm
      (content.toList ++ held slots) := by
  have whole : slot ∈ List.finRange m := List.mem_finRange slot
  obtain ⟨front, back, split⟩ := List.append_of_mem whole
  have nodup := List.nodup_finRange m
  rw [split] at nodup
  have apart := List.nodup_append.mp nodup
  have notBack : slot ∉ back := (List.nodup_cons.mp apart.2.1).1
  have notFront : slot ∉ front :=
    fun inFront => apart.2.2 slot inFront slot (List.mem_cons_self ..) rfl
  have elsewhere : ∀ part : List (Fin m), slot ∉ part →
      part.filterMap (Function.update slots slot content) = part.filterMap slots := by
    intro part absent
    apply List.filterMap_congr
    intro other membership
    rw [Function.update_of_ne]
    rintro rfl
    exact absent membership
  have cell : ∀ (view : Fin m → Option α),
      (slot :: back).filterMap view = (view slot).toList ++ back.filterMap view := by
    intro view
    cases found : view slot <;> simp [found]
  simp only [held, split, List.filterMap_append, cell, elsewhere front notFront,
    elsewhere back notBack, Function.update_self]
  have middle := List.perm_append_comm_assoc (slots slot).toList
    (front.filterMap slots) (content.toList ++ back.filterMap slots)
  have inner := (List.perm_append_comm_assoc (slots slot).toList content.toList
    (back.filterMap slots)).append_left (front.filterMap slots)
  have outer := List.perm_append_comm_assoc (front.filterMap slots) content.toList
    ((slots slot).toList ++ back.filterMap slots)
  exact middle.trans (inner.trans outer)

/-- A free slot leaves some candidate key unused when there are at least as many
distinct candidates as slots. -/
theorem exists_unused [DecidableEq κ] (used : Fin m → Option κ) {free : Fin m}
    (isFree : used free = none) {candidates : List κ} (distinct : candidates.Nodup)
    (enough : m ≤ candidates.length) :
    ∃ candidate ∈ candidates, ∀ slot, used slot ≠ some candidate := by
  by_contra every
  simp only [not_exists, not_and, not_forall, not_not] at every
  have : Nonempty (Fin m) := ⟨free⟩
  choose! owner owns using every
  have ownerInjective : ∀ left ∈ candidates, ∀ right ∈ candidates,
      owner left = owner right → left = right := by
    intro left leftMember right rightMember same
    have leftOwned := owns left leftMember
    rw [same, owns right rightMember] at leftOwned
    exact (Option.some.inj leftOwned).symm
  have ownersDistinct : (candidates.map owner).Nodup :=
    List.Nodup.map_on ownerInjective distinct
  have freeUnowned : free ∉ candidates.map owner := by
    rintro membership
    obtain ⟨candidate, member, rfl⟩ := List.mem_map.mp membership
    rw [owns candidate member] at isFree
    cases isFree
  have allDistinct : (free :: candidates.map owner).Nodup :=
    List.nodup_cons.mpr ⟨freeUnowned, ownersDistinct⟩
  have bounded := allDistinct.length_le_card
  simp only [List.length_cons, List.length_map, Fintype.card_fin] at bounded
  omega

end Sero.Library.Slots
