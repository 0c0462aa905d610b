import Sero.Library.Buffer
import Sero.Library.Lens

/-!
# Logged memory accesses

A program that addresses byte regions by index is written a second time so that each
access goes through `load` or `store` and is logged.  `Computes` relates such a program
to the value it is meant to compute, and `Follows` an instrumented state to the state it
instruments; both say that every index touched lies inside its region.
-/

namespace Sero.Library

universe u

/-- Consecutive bytes of one region. -/
structure Access (ρ : Type u) where
  region : ρ
  offset : Nat
  count : Nat
  deriving DecidableEq, Repr

/-- Every index touched is below the size of its region. -/
def Access.Inside {ρ : Type u} (size : ρ → Nat) (access : Access ρ) : Prop :=
  ∀ index, access.offset ≤ index → index < access.offset + access.count →
    index < size access.region

theorem Access.inside_of_le {ρ : Type u} {size : ρ → Nat} {access : Access ρ}
    (fits : access.offset + access.count ≤ size access.region) : access.Inside size :=
  fun _ _ below => Nat.lt_of_lt_of_le below fits

/-- A computation that logs its accesses, newest first. -/
abbrev Logged (ρ : Type) := StateM (List (Access ρ))

section Primitives

variable {ρ : Type}

/-- Read some bytes of a region with these contents. -/
def load (region : ρ) (contents : List UInt8) (offset count : Nat) : Logged ρ (List UInt8) :=
  fun log => ((contents.drop offset).take count, ⟨region, offset, count⟩ :: log)

/-- Overwrite some bytes of a buffer. -/
def store {length : Nat} (region : ρ) (buffer : Buffer length) (offset : Nat)
    (data : List UInt8) : Logged ρ (Buffer length) :=
  fun log => (buffer.write offset data, ⟨region, offset, data.length⟩ :: log)

/-- Overwrite several stretches of a buffer, one after the other. -/
def storeAll {length : Nat} (region : ρ) (buffer : Buffer length) :
    Writes → Logged ρ (Buffer length)
  | [] => return buffer
  | write :: rest => do storeAll region (← store region buffer write.1 write.2) rest

end Primitives

/-! ## Programs without a state -/

section Computes

variable {ρ α β : Type} {size : ρ → Nat}

/-- Everything logged lies inside. -/
def AllInside (size : ρ → Nat) (log : List (Access ρ)) : Prop :=
  ∀ access ∈ log, access.Inside size

theorem AllInside.cons {log : List (Access ρ)} {access : Access ρ}
    (inside : access.Inside size) (others : AllInside size log) :
    AllInside size (access :: log) := by
  intro each member
  rcases List.mem_cons.mp member with rfl | earlier
  · exact inside
  · exact others each earlier

/-- The program yields this value and touches nothing outside. -/
def Computes (size : ρ → Nat) (program : Logged ρ α) (value : α) : Prop :=
  ∀ log, AllInside size log → (program log).1 = value ∧ AllInside size (program log).2

theorem Computes.pure (value : α) : Computes size (pure value) value :=
  fun _ inside => ⟨rfl, inside⟩

theorem Computes.bind {program : Logged ρ α} {next : α → Logged ρ β} {value : α} {result : β}
    (first : Computes size program value) (second : Computes size (next value) result) :
    Computes size (program >>= next) result := by
  intro log inside
  obtain ⟨yields, within⟩ := first log inside
  have step : (program >>= next) log = next (program log).1 (program log).2 := rfl
  rw [step, yields]
  exact second _ within

theorem Computes.congr {program : Logged ρ α} {value other : α}
    (computes : Computes size program value) (equal : value = other) :
    Computes size program other :=
  equal ▸ computes

theorem computes_load {region : ρ} {offset count : Nat} (contents : List UInt8)
    (fits : offset + count ≤ size region) :
    Computes size (load region contents offset count) ((contents.drop offset).take count) :=
  fun _ inside => ⟨rfl, inside.cons (Access.inside_of_le fits)⟩

theorem computes_store {length : Nat} {region : ρ} {offset : Nat} (buffer : Buffer length)
    (data : List UInt8) (fits : offset + data.length ≤ size region) :
    Computes size (store region buffer offset data) (buffer.write offset data) :=
  fun _ inside => ⟨rfl, inside.cons (Access.inside_of_le fits)⟩

/-- Writes that reach no byte outside are logged inside. -/
theorem computes_storeAll {length : Nat} {region : ρ} (buffer : Buffer length) {writes : Writes}
    (inside : writes.Inside (size region)) :
    Computes size (storeAll region buffer writes) (buffer.writeAll writes) := by
  induction writes generalizing buffer with
  | nil => exact .pure buffer
  | cons write rest ih =>
      have stored : Computes size (store region buffer write.1 write.2)
          (buffer.write write.1 write.2) := by
        refine fun _ logged => ⟨rfl, logged.cons ?_⟩
        intro index reached below
        exact inside index (Writes.covers_cons.mpr (.inl ⟨reached, below⟩))
      apply stored.bind
      apply ih
      intro index covered
      exact inside index (Writes.covers_cons.mpr (.inr covered))

end Computes

/-! ## Programs with a state -/

/-- A state and the accesses made on the way to it. -/
structure Traced (ρ σ : Type) where
  state : σ
  log : List (Access ρ) := []

namespace Traced

variable {ρ σ τ α : Type}

/-- Run a logged computation. -/
def exec (program : Logged ρ α) (traced : Traced ρ σ) : α × Traced ρ σ :=
  ((program traced.log).1, { traced with log := (program traced.log).2 })

/-- A step that touches no memory. -/
def map (update : σ → σ) (traced : Traced ρ σ) : Traced ρ σ :=
  { traced with state := update traced.state }

/-- The traced state is this one, and it was reached inside all regions. -/
structure Follows (size : ρ → Nat) (traced : Traced ρ σ) (state : σ) : Prop where
  state_eq : traced.state = state
  inside : AllInside size traced.log

variable {size : ρ → Nat}

theorem follows_start (state : σ) : Follows size ⟨state, []⟩ state :=
  ⟨rfl, fun _ member => absurd member List.not_mem_nil⟩

theorem Follows.map {traced : Traced ρ σ} {state : σ} (follows : Follows size traced state)
    (update : σ → σ) : Follows size (traced.map update) (update state) :=
  ⟨congrArg update follows.state_eq, follows.inside⟩

theorem Follows.map_to {traced : Traced ρ σ} {state target : σ}
    (follows : Follows size traced state) {update : σ → σ} (reaches : update state = target) :
    Follows size (traced.map update) target :=
  reaches ▸ follows.map update

/-- A logged computation leaves the state alone. -/
theorem Follows.exec {traced : Traced ρ σ} {state : σ} (follows : Follows size traced state)
    {program : Logged ρ α} {value : α} (computes : Computes size program value) :
    ∃ after, traced.exec program = (value, after) ∧ Follows size after state := by
  obtain ⟨yields, within⟩ := computes traced.log follows.inside
  refine ⟨(traced.exec program).2, ?_, follows.state_eq, within⟩
  rw [← yields]
  rfl

/-- A loop follows a loop when each of its turns does. -/
theorem Follows.foldl {ι : Type} {body : Traced ρ σ → ι → Traced ρ σ} {plain : σ → ι → σ}
    (each : ∀ traced state item, Follows size traced state →
      Follows size (body traced item) (plain state item))
    (items : List ι) {traced : Traced ρ σ} {state : σ} (follows : Follows size traced state) :
    Follows size (items.foldl body traced) (items.foldl plain state) := by
  induction items generalizing traced state with
  | nil => exact follows
  | cons item rest ih => exact ih (each traced state item follows)

end Traced

/-! ## Components -/

/-- The component of an instrumented state. -/
def Lens.traced {ρ σ κ : Type} (lens : Lens σ κ) : Lens (Traced ρ σ) κ where
  get traced := lens.get traced.state
  set part traced := traced.map (lens.set part)
  get_set _ _ := lens.get_set _ _
  set_get traced := by
    rw [Traced.map, lens.set_get]
  set_set _ _ traced := by
    rw [Traced.map, Traced.map, Traced.map, lens.set_set]

theorem Lens.alike_traced {ρ σ κ : Type} (size : ρ → Nat) (lens : Lens σ κ) :
    Lens.Alike (Traced.Follows size) lens.traced lens where
  get follows := congrArg lens.get follows.state_eq
  set follows _ := follows.map _

end Sero.Library
