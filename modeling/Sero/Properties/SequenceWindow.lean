import Sero.Properties.Replay

/-!
# The sequence tracker under arbitrary calls

The tracking table by itself, over every sequence of `validate_sequence` and
`reset_peer` calls.  The counter of an address is known modulo 256 only; the sum of
the deltas accepted since a frame is the position that never wraps.
-/

namespace Sero

open Library

variable {n : Nat} {cfg : Config n}

/-- A call of the sequence tracker. -/
inductive SequenceCall (n : Nat) where
  | validateSequence (source : Address n) (receivedSeq : UInt8)
  | resetPeer (source : Address n)
  deriving DecidableEq

namespace SequenceCall

/-- The address a call is about. -/
def source : SequenceCall n → Address n
  | validateSequence source _ => source
  | resetPeer source => source

end SequenceCall

namespace E2EProtection

def perform (e2e : E2EProtection cfg) : SequenceCall n → E2EProtection cfg
  | .validateSequence source receivedSeq => (e2e.validateSequence source receivedSeq).2
  | .resetPeer source => e2e.resetPeer source

/-- The tracker after calls, the latest first. -/
def afterCalls : List (SequenceCall n) → E2EProtection cfg
  | [] => {}
  | call :: earlier => (afterCalls earlier).perform call

/-- The result of checking a counter after calls. -/
def resultAfter (cfg : Config n) (calls : List (SequenceCall n)) (source : Address n)
    (receivedSeq : UInt8) : SeqResult :=
  ((afterCalls calls : E2EProtection cfg).validateSequence source receivedSeq).1

/-- The counter of the last `FirstSeen` or `Accept` frame of an address since its
last reset. -/
def lastAccepted (cfg : Config n) (addr : Address n) : List (SequenceCall n) → Option UInt8
  | [] => none
  | .validateSequence source receivedSeq :: earlier =>
      if source = addr ∧ (resultAfter cfg earlier source receivedSeq).records = true then
        some receivedSeq
      else lastAccepted cfg addr earlier
  | .resetPeer source :: earlier =>
      if source = addr then none else lastAccepted cfg addr earlier

/-- The distance by which a call moves the counter of an address on. -/
def acceptedDelta (cfg : Config n) (addr : Address n) (earlier : List (SequenceCall n)) :
    SequenceCall n → Nat
  | .validateSequence source receivedSeq =>
      if source = addr ∧ resultAfter cfg earlier source receivedSeq = .accept then
        (receivedSeq - (lastAccepted cfg addr earlier).getD receivedSeq).toNat
      else 0
  | .resetPeer _ => 0

/-- The deltas accepted from an address by the newer calls, summed up. -/
def acceptedDeltas (cfg : Config n) (addr : Address n) (older : List (SequenceCall n)) :
    List (SequenceCall n) → Nat
  | [] => 0
  | call :: newer =>
      acceptedDeltas cfg addr older newer + acceptedDelta cfg addr (newer ++ older) call

/-! ## The table -/

/-- Distinct addresses, and no more than the table has room for. -/
structure WellFormed (e2e : E2EProtection cfg) : Prop where
  distinct : e2e.Distinct
  bounded : e2e.peers.length ≤ cfg.maxTrackedPeers

theorem validateSequence_length_le (e2e : E2EProtection cfg) (source : Address n)
    (receivedSeq : UInt8) (bounded : e2e.peers.length ≤ cfg.maxTrackedPeers) :
    (e2e.validateSequence source receivedSeq).2.peers.length ≤ cfg.maxTrackedPeers := by
  rw [validateSequence]
  split
  · dsimp only
    split
    · exact bounded
    · split
      · rwa [Table.updateFirst_length]
      · exact bounded
  · split
    · next room =>
        rw [List.length_append, List.length_singleton]
        exact room
    · exact bounded

theorem WellFormed.perform {e2e : E2EProtection cfg} (wellFormed : e2e.WellFormed)
    (call : SequenceCall n) : (e2e.perform call).WellFormed := by
  cases call with
  | validateSequence source receivedSeq =>
      constructor
      · exact wellFormed.distinct.validateSequence source receivedSeq
      · exact e2e.validateSequence_length_le source receivedSeq wellFormed.bounded
  | resetPeer source =>
      constructor
      · exact wellFormed.distinct.resetPeer source
      · exact (Table.swapRemove_length_le _ _).trans wellFormed.bounded

theorem wellFormed_afterCalls (calls : List (SequenceCall n)) :
    (afterCalls calls : E2EProtection cfg).WellFormed := by
  induction calls with
  | nil => exact ⟨List.nodup_nil, Nat.zero_le _⟩
  | cons call earlier ih => exact ih.perform call

/-- No call for another address moves the counter of an address. -/
theorem WellFormed.lastSeen_perform_of_ne {e2e : E2EProtection cfg}
    (wellFormed : e2e.WellFormed) {call : SequenceCall n} {addr : Address n}
    (other : call.source ≠ addr) : (e2e.perform call).lastSeen addr = e2e.lastSeen addr := by
  cases call with
  | validateSequence source receivedSeq =>
      rw [E2EProtection.perform, lastSeen_validateSequence, if_neg fun same => other same.1]
  | resetPeer source =>
      rw [E2EProtection.perform, wellFormed.distinct.lastSeen_resetPeer]
      exact if_neg other

theorem lastSeen_afterCalls (addr : Address n) (calls : List (SequenceCall n)) :
    (afterCalls calls : E2EProtection cfg).lastSeen addr = lastAccepted cfg addr calls := by
  induction calls with
  | nil => rfl
  | cons call earlier ih =>
      cases call with
      | validateSequence source receivedSeq =>
          rw [afterCalls, perform, lastSeen_validateSequence, lastAccepted, ih]
          rfl
      | resetPeer source =>
          rw [afterCalls, perform, (wellFormed_afterCalls earlier).distinct.lastSeen_resetPeer,
            lastAccepted, ih]

/-! ## The window -/

theorem passes_of_records {result : SeqResult} (records : result.records = true) :
    result.passes = true := by
  cases result with
  | accept | firstSeen => rfl
  | duplicate | stale | tableFull => cases records

theorem resultAfter_judged (calls : List (SequenceCall n)) (source : Address n)
    (receivedSeq : UInt8) :
    Judged cfg (lastAccepted cfg source calls) receivedSeq
      (resultAfter cfg calls source receivedSeq) := by
  rw [← lastSeen_afterCalls]
  exact validateSequence_judged _ source receivedSeq

/-- Between resets the counter is the start plus the deltas accepted since. -/
theorem lastAccepted_append {addr : Address n} {older newer : List (SequenceCall n)}
    {start : UInt8} (initially : lastAccepted cfg addr older = some start)
    (kept : SequenceCall.resetPeer addr ∉ newer) :
    lastAccepted cfg addr (newer ++ older) =
      some (start + UInt8.ofNat (acceptedDeltas cfg addr older newer)) := by
  induction newer with
  | nil => simpa [acceptedDeltas] using initially
  | cons call newer ih =>
      have previous := ih fun member => kept (.tail _ member)
      rw [List.cons_append, acceptedDeltas]
      cases call with
      | validateSequence source receivedSeq =>
          have judged := @resultAfter_judged _ cfg (newer ++ older) source receivedSeq
          rw [lastAccepted, acceptedDelta, previous, Option.getD_some, UInt8.ofNat_add,
            ← UInt8.add_assoc]
          by_cases same : source = addr
          · subst same
            rw [previous, Judged] at judged
            rw [judged]
            split
            · simp [SeqResult.records]
            · split
              · have moved := UInt8.sub_add_cancel receivedSeq
                  (start + UInt8.ofNat (acceptedDeltas cfg source older newer))
                rw [UInt8.add_comm] at moved
                simp [SeqResult.records, moved]
              · simp [SeqResult.records]
          · simp [same]
      | resetPeer source =>
          have other : source ≠ addr := by
            rintro rfl
            exact kept (.head _)
          rw [lastAccepted, if_neg other, previous]
          rfl

/-- A counter accepted once is accepted again, without a reset in between, only after
the counters have gone around. -/
theorem window_of_accepted_again {addr : Address n} {older newer : List (SequenceCall n)}
    {counter : UInt8} (accepted : (resultAfter cfg older addr counter).records = true)
    (kept : SequenceCall.resetPeer addr ∉ newer)
    (again : (resultAfter cfg (newer ++ .validateSequence addr counter :: older) addr
      counter).records = true) :
    256 - cfg.seqCounterAcceptWindow.toNat ≤
      acceptedDeltas cfg addr (.validateSequence addr counter :: older) newer := by
  have initially : lastAccepted cfg addr (.validateSequence addr counter :: older) =
      some counter := by
    rw [lastAccepted, if_pos ⟨rfl, accepted⟩]
  have judged := @resultAfter_judged _ cfg
    (newer ++ .validateSequence addr counter :: older) addr counter
  rw [lastAccepted_append initially kept] at judged
  apply Nat.sub_le_of_le_add
  by_contra short
  have stopped := not_passes_of_behind (Nat.lt_of_not_le short) judged
  rw [passes_of_records again] at stopped
  cases stopped

/-- The sequence tracker over every sequence of calls: its table is well formed and
holds the counter accepted last of each address, calls for other addresses leave it
alone, and a counter is accepted again only when the deltas accepted since sum to at
least `256 - SeqCounterAcceptWindow`. -/
theorem sequence_tracker (calls : List (SequenceCall n)) :
    let e2e : E2EProtection cfg := afterCalls calls
    e2e.Distinct ∧ e2e.peers.length ≤ cfg.maxTrackedPeers ∧
      (∀ addr, e2e.lastSeen addr = lastAccepted cfg addr calls) ∧
      (∀ (call : SequenceCall n) (addr : Address n), call.source ≠ addr →
        (e2e.perform call).lastSeen addr = e2e.lastSeen addr) ∧
      ∀ (addr : Address n) (counter : UInt8) (newer older : List (SequenceCall n)),
        calls = newer ++ .validateSequence addr counter :: older →
        (resultAfter cfg older addr counter).records = true →
        SequenceCall.resetPeer addr ∉ newer →
        (e2e.validateSequence addr counter).1.records = true →
        256 - cfg.seqCounterAcceptWindow.toNat ≤
          acceptedDeltas cfg addr (.validateSequence addr counter :: older) newer := by
  intro e2e
  have wellFormed : e2e.WellFormed := wellFormed_afterCalls calls
  refine ⟨wellFormed.distinct, wellFormed.bounded, fun addr => lastSeen_afterCalls addr calls,
    fun call addr other => wellFormed.lastSeen_perform_of_ne other, ?_⟩
  intro addr counter newer older split accepted kept again
  apply window_of_accepted_again accepted kept
  rw [← split]
  exact again

/-- Seventeen steps lead once around, and the first counter is accepted again. -/
theorem sequence_tracker_around :
    let addr : Address 8 := ⟨List.replicate 8 0, by decide⟩
    let newer : List (SequenceCall 8) :=
      ((List.range 16).map fun step => .validateSequence addr (UInt8.ofNat (15 * step + 15)))
        |>.reverse
    let calls := .validateSequence addr 241 :: newer ++ [.validateSequence addr 0]
    ((afterCalls calls : E2EProtection embeddedConfig).validateSequence addr 0).1 = .accept ∧
      256 - embeddedConfig.seqCounterAcceptWindow.toNat ≤
        acceptedDeltas embeddedConfig addr [.validateSequence addr 0]
          (.validateSequence addr 241 :: newer) := by
  intro addr newer calls
  have again : ((afterCalls calls : E2EProtection embeddedConfig).validateSequence
      addr 0).1 = .accept := by decide +kernel
  have tracker := @sequence_tracker _ embeddedConfig calls
  exact ⟨again, tracker.2.2.2.2 addr 0 (.validateSequence addr 241 :: newer) [] rfl
    (by decide +kernel) (by decide +kernel) (congrArg SeqResult.records again)⟩

end E2EProtection

end Sero
