import Mathlib.Logic.Function.Basic
import Sero.Library.Runs

/-!
# Parties on an unreliable network

Parties keep states of their own and exchange messages.  A party receives only what has
been sent to it; apart from that the network is free.  It may lose a message, delay it,
deliver it any number of times and let others overtake it.
-/

namespace Sero.Library

universe u v w

/-- What each party can do, and what it has sent so far. -/
structure Parties (ι : Type u) (μ : Type v) (σ : ι → Type w) where
  act : ∀ party, σ party → σ party → Prop
  receive : ∀ party, (source : ι) → (message : μ) → σ party → σ party → Prop
  sent : ∀ party, σ party → (dest : ι) → (message : μ) → Prop

namespace Parties

variable {ι : Type u} {μ : Type v} {σ : ι → Type w} [DecidableEq ι]
  (parties : Parties ι μ σ)

/-- One party takes a step. -/
inductive Step : (∀ party, σ party) → (∀ party, σ party) → Prop where
  | act {states : ∀ party, σ party} (party : ι) {after : σ party}
      (acts : parties.act party (states party) after) :
      Step states (Function.update states party after)
  | receive {states : ∀ party, σ party} (source dest : ι) (message : μ) {after : σ dest}
      (sent : parties.sent source (states source) dest message)
      (receives : parties.receive dest source message (states dest) after) :
      Step states (Function.update states dest after)

/-- Any number of steps, of any parties and in any order. -/
abbrev Run : (∀ party, σ party) → (∀ party, σ party) → Prop :=
  Relation.ReflTransGen parties.Step

variable {parties} {first last : ∀ party, σ party}

/-- What the steps of each party preserve holds of it throughout a run. -/
theorem Run.invariant (run : parties.Run first last) (holds : ∀ party, σ party → Prop)
    (acts : ∀ party before after, holds party before → parties.act party before after →
      holds party after)
    (receives : ∀ party source message before after, holds party before →
      parties.receive party source message before after → holds party after)
    (initially : ∀ party, holds party (first party)) (party : ι) :
    holds party (last party) := by
  induction run generalizing party with
  | refl => exact initially party
  | tail _ step ih =>
      cases step with
      | act actor step =>
          by_cases same : party = actor
          · subst same
            rw [Function.update_self]
            exact acts _ _ _ (ih party) step
          · rw [Function.update_of_ne same]
            exact ih party
      | receive source dest message sent step =>
          by_cases same : party = dest
          · subst same
            rw [Function.update_self]
            exact receives _ _ _ _ _ (ih party) step
          · rw [Function.update_of_ne same]
            exact ih party

/-- What a party has sent stays sent. -/
structure Remembers (parties : Parties ι μ σ) : Prop where
  act : ∀ party before after, parties.act party before after → ∀ dest message,
    parties.sent party before dest message → parties.sent party after dest message
  receive : ∀ party source message before after,
    parties.receive party source message before after → ∀ dest other,
    parties.sent party before dest other → parties.sent party after dest other

theorem Step.remembers (remembers : Remembers parties) {before after : ∀ party, σ party}
    (step : parties.Step before after) {source dest : ι} {message : μ}
    (sent : parties.sent source (before source) dest message) :
    parties.sent source (after source) dest message := by
  cases step with
  | act actor acts =>
      by_cases same : source = actor
      · subst same
        rw [Function.update_self]
        exact remembers.act _ _ _ acts _ _ sent
      · rwa [Function.update_of_ne same]
  | receive _ receiver _ _ receives =>
      by_cases same : source = receiver
      · subst same
        rw [Function.update_self]
        exact remembers.receive _ _ _ _ _ receives _ _ sent
      · rwa [Function.update_of_ne same]

/-- A record of messages that grows by what is received only. -/
structure Records (parties : Parties ι μ σ)
    (recorded : ∀ party, σ party → ι → μ → Prop) : Prop where
  act : ∀ party before after, parties.act party before after → ∀ source message,
    recorded party after source message → recorded party before source message
  receive : ∀ party source message before after,
    parties.receive party source message before after → ∀ other record,
    recorded party after other record →
      recorded party before other record ∨ other = source ∧ record = message

theorem Run.remembers (run : parties.Run first last) (remembers : Remembers parties)
    {source dest : ι} {message : μ} (sent : parties.sent source (first source) dest message) :
    parties.sent source (last source) dest message := by
  induction run with
  | refl => exact sent
  | tail _ step ih => exact step.remembers remembers ih

/-- What a party has on record had been sent to it before it was on record. -/
theorem Run.recorded_origin (run : parties.Run first last)
    {recorded : ∀ party, σ party → ι → μ → Prop} (records : Records parties recorded)
    {party source : ι} {message : μ} (initially : ¬recorded party (first party) source message)
    (record : recorded party (last party) source message) :
    ∃ earlier, parties.Run first earlier ∧ parties.Run earlier last ∧
      ¬recorded party (earlier party) source message ∧
      parties.sent source (earlier source) party message := by
  induction run with
  | refl => exact absurd record initially
  | @tail before after run step ih =>
      by_cases old : recorded party (before party) source message
      · obtain ⟨earlier, reached, rest, unrecorded, sent⟩ := ih old
        exact ⟨earlier, reached, rest.tail step, unrecorded, sent⟩
      · refine ⟨before, run, .single step, old, ?_⟩
        -- only a party that receives the message puts it on record
        cases step with
        | act actor acts =>
            by_cases same : party = actor
            · subst same
              rw [Function.update_self] at record
              exact absurd (records.act _ _ _ acts _ _ record) old
            · rw [Function.update_of_ne same] at record
              exact absurd record old
        | receive sender dest received sent receives =>
            by_cases same : party = dest
            · subst same
              rw [Function.update_self] at record
              obtain ⟨rfl, rfl⟩ := (records.receive _ _ _ _ _ receives _ _ record).resolve_left old
              exact sent
            · rw [Function.update_of_ne same] at record
              exact absurd record old

/-- Whatever a party has on record was sent to it. -/
theorem Run.recorded_sent (run : parties.Run first last) (remembers : Remembers parties)
    {recorded : ∀ party, σ party → ι → μ → Prop} (records : Records parties recorded)
    (initially : ∀ party source message, ¬recorded party (first party) source message)
    {party source : ι} {message : μ} (record : recorded party (last party) source message) :
    parties.sent source (last source) party message := by
  obtain ⟨earlier, -, rest, -, sent⟩ := run.recorded_origin records (initially _ _ _) record
  exact rest.remembers remembers sent

end Parties

end Sero.Library
