import Mathlib.Data.Finset.Basic
import Mathlib.Data.List.Nodup

/-!
# Ownership

Objects that are created, used and deleted, and maps that own what they hold: assigning to a
key or erasing it deletes the object held there.  As long as every object handed to a map is
new, its objects are exactly the ones that exist.
-/

namespace Sero.Library

/-- The objects that exist, and those that were used or deleted when they did not. -/
structure Heap (α : Type*) where
  live : Finset α := ∅
  misused : List α := []

namespace Heap

variable {α : Type*} [DecidableEq α]

def create (object : α) (heap : Heap α) : Heap α :=
  { heap with live := insert object heap.live }

def use (object : α) (heap : Heap α) : Heap α :=
  if object ∈ heap.live then heap else { heap with misused := object :: heap.misused }

def delete (object : α) (heap : Heap α) : Heap α :=
  { heap.use object with live := heap.live.erase object }

@[simp] theorem live_create (object : α) (heap : Heap α) :
    (heap.create object).live = insert object heap.live := rfl

@[simp] theorem misused_create (object : α) (heap : Heap α) :
    (heap.create object).misused = heap.misused := rfl

@[simp] theorem live_use (object : α) (heap : Heap α) : (heap.use object).live = heap.live := by
  rw [use]
  split <;> rfl

theorem use_of_live {object : α} {heap : Heap α} (present : object ∈ heap.live) :
    heap.use object = heap :=
  if_pos present

theorem misused_use_of_dead {object : α} {heap : Heap α} (gone : object ∉ heap.live) :
    (heap.use object).misused = object :: heap.misused := by
  rw [use, if_neg gone]

@[simp] theorem live_delete (object : α) (heap : Heap α) :
    (heap.delete object).live = heap.live.erase object := rfl

theorem misused_delete (object : α) (heap : Heap α) :
    (heap.delete object).misused = (heap.use object).misused := rfl

theorem misused_delete_of_live {object : α} {heap : Heap α} (present : object ∈ heap.live) :
    (heap.delete object).misused = heap.misused := by
  rw [misused_delete, use_of_live present]

/-- What is used is misused exactly if it did not exist. -/
theorem mem_misused_use {object other : α} {heap : Heap α} :
    other ∈ (heap.use object).misused ↔
      other ∈ heap.misused ∨ other = object ∧ object ∉ heap.live := by
  by_cases present : object ∈ heap.live
  · simp [use_of_live present, present]
  · simp [misused_use_of_dead present, present, or_comm]

end Heap

/-- A map whose values are owned. -/
structure OwnerMap (κ α : Type*) where
  entries : List (κ × α) := []
  heap : Heap α := {}

namespace OwnerMap

variable {κ α : Type*}

def objects (map : OwnerMap κ α) : List α :=
  map.entries.map Prod.snd

/-- Every object that exists is held, once, under one key. -/
structure Sound (map : OwnerMap κ α) : Prop where
  keys : (map.entries.map Prod.fst).Nodup
  objects : map.objects.Nodup
  live : ∀ object, object ∈ map.heap.live ↔ object ∈ map.objects

theorem Sound.empty : Sound ({} : OwnerMap κ α) where
  keys := List.nodup_nil
  objects := List.nodup_nil
  live object := by simp [OwnerMap.objects]

variable {map : OwnerMap κ α} {key other : κ} {object : α}

theorem mem_objects : object ∈ map.objects ↔ ∃ key, (key, object) ∈ map.entries := by
  simp [objects]

section Use

variable [DecidableEq α]

def use (object : α) (map : OwnerMap κ α) : OwnerMap κ α :=
  { map with heap := map.heap.use object }

theorem use_of_live (present : object ∈ map.heap.live) : map.use object = map := by
  rw [use, Heap.use_of_live present]

/-- Everything held is deleted. -/
def clear (map : OwnerMap κ α) : OwnerMap κ α where
  entries := []
  heap := map.objects.foldl (fun heap object => heap.delete object) map.heap

theorem Sound.use (sound : map.Sound) (object : α) : (map.use object).Sound where
  keys := sound.keys
  objects := sound.objects
  live other := by
    rw [OwnerMap.use, Heap.live_use]
    exact sound.live other

/-- Deleting what is held deletes everything that exists, each object once. -/
theorem Sound.clear (sound : map.Sound) :
    map.clear.heap.live = ∅ ∧ map.clear.heap.misused = map.heap.misused := by
  have each : ∀ (objects : List α) (heap : Heap α), objects.Nodup →
      (∀ object, object ∈ heap.live ↔ object ∈ objects) →
      (objects.foldl (fun heap object => heap.delete object) heap).live = ∅ ∧
        (objects.foldl (fun heap object => heap.delete object) heap).misused = heap.misused := by
    intro objects
    induction objects with
    | nil =>
        intro heap _ live
        exact ⟨Finset.eq_empty_of_forall_notMem fun object => by simp [live object], rfl⟩
    | cons first rest ih =>
        intro heap distinct live
        obtain ⟨notRest, restDistinct⟩ := List.nodup_cons.mp distinct
        have remaining : ∀ object, object ∈ (heap.delete first).live ↔ object ∈ rest := by
          intro object
          rw [Heap.live_delete, Finset.mem_erase, live, List.mem_cons]
          constructor
          · rintro ⟨different, rfl | later⟩
            · exact absurd rfl different
            · exact later
          · intro later
            exact ⟨fun same => notRest (same ▸ later), .inr later⟩
        obtain ⟨gone, unharmed⟩ := ih (heap.delete first) restDistinct remaining
        refine ⟨gone, unharmed.trans (Heap.misused_delete_of_live ?_)⟩
        exact (live first).mpr (.head _)
  exact each map.objects map.heap sound.objects sound.live

end Use

variable [DecidableEq κ]

def find (key : κ) (map : OwnerMap κ α) : Option α :=
  (map.entries.find? fun entry => entry.1 = key).map Prod.snd

theorem mem_of_find (found : map.find key = some object) : (key, object) ∈ map.entries := by
  obtain ⟨⟨held, value⟩, first, rfl⟩ := Option.map_eq_some_iff.mp found
  obtain rfl : held = key := by simpa using List.find?_some first
  exact List.mem_of_find?_eq_some first

namespace Sound

theorem find_of_mem (sound : map.Sound) (member : (key, object) ∈ map.entries) :
    map.find key = some object := by
  cases found : map.find key with
  | none =>
      rw [find, Option.map_eq_none_iff, List.find?_eq_none] at found
      simpa using found _ member
  | some held =>
      have same := List.inj_on_of_nodup_map sound.keys member (mem_of_find found) rfl
      exact congrArg some (congrArg Prod.snd same).symm

theorem find_live (sound : map.Sound) (found : map.find key = some object) :
    object ∈ map.heap.live :=
  (sound.live object).mpr (mem_objects.mpr ⟨key, mem_of_find found⟩)

/-- Nothing is held under two keys. -/
theorem find_inj (sound : map.Sound) (left : map.find key = some object)
    (right : map.find other = some object) : key = other :=
  congrArg Prod.fst
    (List.inj_on_of_nodup_map sound.objects (mem_of_find left) (mem_of_find right) rfl)

end Sound

variable [DecidableEq α]

/-- The object held under a key is deleted with its entry. -/
def erase (key : κ) (map : OwnerMap κ α) : OwnerMap κ α where
  entries := map.entries.filter fun entry => entry.1 ≠ key
  heap :=
    match map.find key with
    | some object => map.heap.delete object
    | none => map.heap

/-- A new object is created; kept, it takes the place of the one held under the key, and
otherwise it is deleted again. -/
def install (key : κ) (object : α) (kept : Bool) (map : OwnerMap κ α) : OwnerMap κ α :=
  let map := { map with heap := map.heap.create object }
  if kept then
    let erased := map.erase key
    { erased with entries := (key, object) :: erased.entries }
  else { map with heap := map.heap.delete object }

theorem mem_erase {entry : κ × α} :
    entry ∈ (map.erase key).entries ↔ entry ∈ map.entries ∧ entry.1 ≠ key := by
  simp [erase]

theorem find_erase_of_ne (different : other ≠ key) :
    (map.erase key).find other = map.find other := by
  have tests : (fun entry : κ × α => decide (decide (entry.1 ≠ key) = true ∧
      decide (entry.1 = other) = true)) = fun entry => decide (entry.1 = other) := by
    funext entry
    by_cases same : entry.1 = other
    · simp [same, different]
    · simp [same]
  rw [find, find, erase, List.find?_filter, tests]

theorem live_erase : object ∈ (map.erase key).heap.live ↔
    object ∈ map.heap.live ∧ map.find key ≠ some object := by
  rw [erase]
  cases map.find key with
  | none => simp
  | some held => simp [and_comm, eq_comm]

/-- Nothing comes to exist but the object handed over. -/
theorem mem_live_install {held : α} {kept : Bool}
    (member : held ∈ (map.install key object kept).heap.live) :
    held = object ∨ held ∈ map.heap.live := by
  cases kept with
  | false => exact Finset.mem_insert.mp (Finset.mem_of_mem_erase member)
  | true =>
      have created : held ∈ (map.heap.create object).live := (live_erase.mp member).1
      exact Finset.mem_insert.mp created

namespace Sound

theorem erase (sound : map.Sound) (key : κ) : (map.erase key).Sound where
  keys := sound.keys.sublist (List.filter_sublist.map _)
  objects := sound.objects.sublist (List.filter_sublist.map _)
  live object := by
    rw [live_erase, sound.live, mem_objects, mem_objects]
    constructor
    · rintro ⟨⟨holder, member⟩, notHere⟩
      refine ⟨holder, mem_erase.mpr ⟨member, ?_⟩⟩
      rintro rfl
      exact notHere (sound.find_of_mem member)
    · rintro ⟨holder, member⟩
      obtain ⟨kept, different⟩ := mem_erase.mp member
      refine ⟨⟨holder, kept⟩, fun here => different ?_⟩
      exact sound.find_inj (sound.find_of_mem kept) here

theorem misused_erase (sound : map.Sound) (key : κ) :
    (map.erase key).heap.misused = map.heap.misused := by
  rw [OwnerMap.erase]
  cases found : map.find key with
  | none => rfl
  | some object => exact Heap.misused_delete_of_live (sound.find_live found)

/-- A new object takes its place in a sound map, or none. -/
theorem install (sound : map.Sound) (fresh : object ∉ map.heap.live) (key : κ) (kept : Bool) :
    (map.install key object kept).Sound := by
  cases kept with
  | false =>
      refine ⟨sound.keys, sound.objects, fun other => ?_⟩
      have same : ((map.heap.create object).delete object).live = map.heap.live := by
        simp [Finset.erase_insert fresh]
      exact (congrArg (other ∈ ·) same).to_iff.trans (sound.live other)
  | true =>
      have erased := sound.erase key
      have notHeld : map.find key ≠ some object := fun found => fresh (sound.find_live found)
      have live : ∀ other, other ∈ (map.install key object true).heap.live ↔
          other = object ∨ other ∈ (map.erase key).objects := by
        intro other
        have written : other ∈ (map.install key object true).heap.live ↔
            (other = object ∨ other ∈ map.heap.live) ∧ map.find key ≠ some other := by
          refine live_erase.trans ?_
          rw [Heap.live_create, Finset.mem_insert]
          rfl
        rw [written, ← erased.live, live_erase]
        by_cases same : other = object
        · simp [same, notHeld]
        · simp [same]
      refine ⟨?_, ?_, fun other => (live other).trans List.mem_cons.symm⟩
      · refine List.nodup_cons.mpr ⟨fun member => ?_, erased.keys⟩
        obtain ⟨entry, held, same⟩ := List.mem_map.mp member
        exact (mem_erase.mp held).2 same
      · refine List.nodup_cons.mpr ⟨fun member => ?_, erased.objects⟩
        obtain ⟨holder, held⟩ := mem_objects.mp member
        exact fresh ((sound.live object).mpr (mem_objects.mpr ⟨holder, (mem_erase.mp held).1⟩))

theorem misused_install (sound : map.Sound) (object : α) (key : κ) (kept : Bool) :
    (map.install key object kept).heap.misused = map.heap.misused := by
  cases kept with
  | false => exact Heap.misused_delete_of_live (Finset.mem_insert_self _ _)
  | true =>
      change (match map.find key with
        | some held => (map.heap.create object).delete held
        | none => map.heap.create object).misused = map.heap.misused
      cases found : map.find key with
      | none => rfl
      | some held =>
          exact Heap.misused_delete_of_live (Finset.mem_insert_of_mem (sound.find_live found))

end Sound

theorem find_install_self (key : κ) (object : α) (map : OwnerMap κ α) :
    (map.install key object true).find key = some object := by
  simp [install, find]

theorem find_install_of_ne (different : other ≠ key) (object : α) (kept : Bool) :
    (map.install key object kept).find other = map.find other := by
  cases kept with
  | false => rfl
  | true =>
      rw [← @find_erase_of_ne _ _ map key other _ _ different]
      simp [install, find, Ne.symm different]
      rfl

end OwnerMap

end Sero.Library
