import Sero.Properties.SequenceTracking

/-!
# Duplicated datagrams

A datagram delivered a second time is discarded as long as its source has stayed
tracked and the counters recorded in between have not moved on so far that its own
counter is ahead of them again.
-/

namespace Sero

open Library

variable {n : Nat} {cfg : Config n} {env : Env cfg}

/-- Has `reset_peer` been called for the address? -/
def resets (addr : Address n) (events : History cfg) : Bool :=
  events.any fun
    | .peerReset reset => reset == addr
    | _ => false

/-- The counters recorded for an address, newest first. -/
def recordedCounters (addr : Address n) (events : History cfg) : List UInt8 :=
  events.filterMap fun
    | .verdict source data result =>
        if source = addr ∧ result.records = true then some (counterOf data) else none
    | _ => none

/-- How far recorded counters have moved on from `start`. -/
def advance (start : UInt8) : List UInt8 → Nat
  | [] => 0
  | counter :: older => advance start older + (counter - older.headD start).toNat

/-- The counter reached is the start plus the advance. -/
theorem headD_eq_advance (start : UInt8) (counters : List UInt8) :
    counters.headD start = start + UInt8.ofNat (advance start counters) := by
  induction counters with
  | nil => simp [advance]
  | cons counter older ih =>
      rw [advance, UInt8.ofNat_add, UInt8.ofNat_toNat, ← UInt8.add_assoc, ← ih,
        UInt8.add_comm, UInt8.sub_add_cancel]
      rfl

/-- Without a reset the counter recorded last is the newest recorded since. -/
theorem lastRecorded_append {addr : Address n} {events : History cfg}
    (kept : resets addr events = false) {start : UInt8} {past : History cfg}
    (initially : lastRecorded addr past = some start) :
    lastRecorded addr (events ++ past) =
      some ((recordedCounters addr events).headD start) := by
  induction events with
  | nil => simpa [recordedCounters] using initially
  | cons event rest ih =>
      rw [resets, List.any_cons, Bool.or_eq_false_iff] at kept
      have tail := ih kept.2
      cases event with
      | verdict source data result =>
          simp only [List.cons_append, lastRecorded, recordedCounters, List.filterMap_cons]
          split
          · rfl
          · exact tail
      | peerReset reset =>
          have other : reset ≠ addr := beq_eq_false_iff_ne.mp kept.1
          simpa [lastRecorded, recordedCounters, other] using tail
      | _ => exact tail

/-- A counter that lies less than `256 - window` behind is not accepted again. -/
theorem not_passes_of_behind {counter : UInt8} {moved : Nat}
    (short : moved + cfg.seqCounterAcceptWindow.toNat < 256) {result : SeqResult}
    (judged : E2EProtection.Judged cfg (some (counter + UInt8.ofNat moved)) counter result) :
    result.passes = false := by
  have distance : counter - (counter + UInt8.ofNat moved) = 0 - UInt8.ofNat moved := by
    rw [UInt8.sub_eq_iff_eq_add, UInt8.add_comm counter, ← UInt8.add_assoc,
      UInt8.sub_add_cancel, UInt8.zero_add]
  rw [E2EProtection.Judged, distance] at judged
  subst judged
  have size : (0 - UInt8.ofNat moved).toNat = (256 - moved % 256) % 256 := by
    simp
  split
  · rfl
  · next different =>
      have positive : 0 < moved := by
        refine Nat.pos_of_ne_zero fun zero => different ?_
        rw [zero]
        rfl
      have outside : ¬(0 - UInt8.ofNat moved) ≤ cfg.seqCounterAcceptWindow := by
        rw [UInt8.le_iff_toNat_le, size]
        omega
      rw [if_neg outside]
      rfl

namespace World

/-- A frame delivered twice is dispatched at most once, provided its source could be
tracked at the first delivery and has not been reset since, and the counters recorded
in between advanced by less than `256 - SeqCounterAcceptWindow`. -/
theorem dispatched_at_most_once {w : World cfg} (reachable : Reachable env w)
    (addr : Address n) (frame : Bytes)
    (notSd : (MessageHeader.deserialize frame).serviceId ≠ sdServiceId)
    (room : (w.rt.e2e.lastSeen addr).isSome = true ∨
      w.rt.e2e.peers.length < cfg.maxTrackedPeers)
    (nowMs : UInt32) (moves : List (Move cfg)) :
    let later := run env (.deliver addr frame nowMs :: moves) w
    let between := later.since (w.validate addr frame).2
    resets addr between = false →
    advance (counterOf frame) (recordedCounters addr between) +
      cfg.seqCounterAcceptWindow.toNat < 256 →
    (w.validate addr frame).1 = none ∨ (later.validate addr frame).1 = none := by
  intro later between kept short
  cases first : (w.validate addr frame).1 with
  | none => exact .inl rfl
  | some hdr =>
      right
      by_contra again
      obtain ⟨hdrAgain, second⟩ := Option.ne_none_iff_exists'.mp again
      obtain ⟨checked, firstPasses⟩ := validate_some first
      obtain ⟨checkedAgain, secondPasses⟩ := validate_some second
      cases checked.header
      cases checkedAgain.header
      have recorded : lastRecorded addr (w.validate addr frame).2.history =
          some (counterOf frame) := by
        have tracked := reachable.sequenceTracked.validate addr frame
        obtain ⟨diag, rt, -⟩ := validate_rt addr frame w
        rw [← tracked.recorded, rt]
        simp only [checkFrame_ok_iff.mpr checked, if_neg notSd]
        rw [E2EProtection.lastSeen_validateSequence, if_pos]
        · rfl
        · exact ⟨rfl, E2EProtection.validateSequence_tracks room
            (firstPasses.resolve_left notSd)⟩
      have grown : (w.validate addr frame).2.history <:+ later.history := by
        have dispatched : w.validateAndDispatch env addr frame nowMs =
            (w.validate addr frame).2.dispatchMessage env addr
              (MessageHeader.deserialize frame)
              (payloadOf (MessageHeader.deserialize frame) frame) nowMs := by
          rw [validateAndDispatch]
          rcases outcome : w.validate addr frame with ⟨passed, after⟩
          rw [outcome] at first
          cases first
          rfl
        have accepted := accepted_of_passed first
        have steps := (walk_steps.handleMessage accepted nowMs).trans
          (@run_steps _ _ env moves _)
        rw [← dispatched] at steps
        exact Steps.suffix steps
      have judged := later.rt.e2e.validateSequence_judged addr (counterOf frame)
      have tracked := (reachable.run (.deliver addr frame nowMs :: moves)).sequenceTracked
      rw [tracked.recorded, ← since_append grown, lastRecorded_append kept recorded,
        headD_eq_advance] at judged
      have stopped := not_passes_of_behind short judged
      rw [show counterOf frame = (MessageHeader.deserialize frame).sequenceCounter from rfl,
        secondPasses.resolve_left notSd] at stopped
      cases stopped

/-! A notification, and a discovery request of the same device. -/

def notification : Bytes :=
  messageFrame {
    messageType := MessageType.notification.toByte
    serviceId := 0x1000
    methodEventId := 0x8001 } [] []

def findRequest : Bytes :=
  messageFrame {
    messageType := MessageType.requestNoReturn.toByte
    serviceId := sdServiceId
    methodEventId := SdMethod.findService.toId
    clientId := 7
    payloadLength := 4 } (SdPayload.serializeFind 0x2000) []

theorem notification_dispatched_once :
    let source := Address.zero 8
    let w := World.initial embeddedConfig 1
    let later := run (.benign _) [.deliver source notification 0] w
    (w.validate source notification).1.isSome = true ∧
      ((w.validate source notification).1 = none ∨
        (later.validate source notification).1 = none) :=
  ⟨by decide +kernel, dispatched_at_most_once ⟨1, [], rfl⟩ _ _ (by decide +kernel)
    (.inr (by decide)) 0 [] (by decide +kernel) (by decide +kernel)⟩

/-- A discovery request between two deliveries resets the source, and the second copy
is dispatched again. -/
theorem notification_dispatched_twice :
    let source := Address.zero 8
    let w := World.initial embeddedConfig 1
    let later := run (.benign _)
      [.deliver source notification 0, .deliver source findRequest 0] w
    let between := later.since (w.validate source notification).2
    Reachable (.benign _) w ∧
      (MessageHeader.deserialize notification).serviceId ≠ sdServiceId ∧
      advance (counterOf notification) (recordedCounters source between) +
        embeddedConfig.seqCounterAcceptWindow.toNat < 256 ∧
      (w.validate source notification).1.isSome = true ∧
      (later.validate source notification).1.isSome = true :=
  ⟨⟨1, [], rfl⟩, by decide +kernel, by decide +kernel, by decide +kernel,
    by decide +kernel⟩

end World

end Sero
