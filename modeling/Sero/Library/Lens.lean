/-!
# Components of a larger state

An operation of one component that hands control to its environment in the
middle (a callback that may call the component again) cannot be a function on
the component alone: what the environment does to the surrounding state must be
visible when the operation resumes.  Such operations are written against an
arbitrary surrounding state `σ` in which the component `τ` is reached through a
lawful lens, so that one definition serves the component in isolation and the
component inside its owner.
-/

namespace Sero.Library

universe u v w

/-- A component of type `τ` inside a state of type `σ`. -/
structure Lens (σ : Type u) (τ : Type v) where
  get : σ → τ
  set : τ → σ → σ
  get_set : ∀ part state, get (set part state) = part
  set_get : ∀ state, set (get state) state = state
  set_set : ∀ first second state, set second (set first state) = set second state

namespace Lens

variable {σ : Type u} {τ : Type v}

attribute [simp] get_set set_get set_set

/-- Update the component and leave its surroundings alone. -/
def modify (lens : Lens σ τ) (update : τ → τ) (state : σ) : σ :=
  lens.set (update (lens.get state)) state

@[simp] theorem get_modify (lens : Lens σ τ) (update : τ → τ) (state : σ) :
    lens.get (lens.modify update state) = update (lens.get state) := by
  simp [modify]

/-- A whole state seen as its own component. -/
def self : Lens σ σ where
  get := id
  set part _ := part
  get_set _ _ := rfl
  set_get _ := rfl
  set_set _ _ _ := rfl

/-! ## The same component of two states -/

/-- Two states in relation have the same component, and keep the relation when it is
replaced. -/
structure Alike {κ : Type w} (related : σ → τ → Prop) (left : Lens σ κ) (right : Lens τ κ) :
    Prop where
  get : ∀ {first second}, related first second → left.get first = right.get second
  set : ∀ {first second}, related first second → ∀ part,
    related (left.set part first) (right.set part second)

theorem Alike.modify {κ : Type w} {related : σ → τ → Prop}
    {left : Lens σ κ} {right : Lens τ κ} (alike : Alike related left right) {first : σ}
    {second : τ} (holds : related first second) (update : κ → κ) :
    related (left.modify update first) (right.modify update second) := by
  rw [Lens.modify, Lens.modify, alike.get holds]
  exact alike.set holds _

end Lens

end Sero.Library
