import Sero.Runtime.Decomposition

/-!
# Discarded datagrams

What a datagram that fails validation leaves behind.  The sequence check precedes
authentication, so a datagram rejected by step 9 has already been counted as seen
from its source; nothing else remains of any discarded datagram.
-/

namespace Sero

variable {n : Nat} {cfg : Config n}

/-- The traces a discarded datagram may leave: its arrival, the verdict on its
counter and diagnostics. -/
def Event.ofDiscard : Event cfg → Bool
  | .received .. | .verdict .. | .diagnostic .. => true
  | _ => false

/-- No handler or callback has run and no frame has been sent. -/
def OnlyDiscards (before after : World cfg) : Prop :=
  ∃ events, after.history = events ++ before.history ∧
    ∀ event ∈ events, event.ofDiscard = true

theorem OnlyDiscards.trans {first second third : World cfg}
    (left : OnlyDiscards first second) (right : OnlyDiscards second third) :
    OnlyDiscards first third := by
  obtain ⟨older, olderEq, olderKinds⟩ := left
  obtain ⟨newer, newerEq, newerKinds⟩ := right
  refine ⟨newer ++ older, by rw [newerEq, olderEq, List.append_assoc], ?_⟩
  intro event member
  rcases List.mem_append.mp member with inNewer | inOlder
  · exact newerKinds event inNewer
  · exact olderKinds event inOlder

namespace World

theorem emit_discards {event : Event cfg} (trace : event.ofDiscard = true) (w : World cfg) :
    OnlyDiscards w (w.emit event) :=
  ⟨[event], rfl, by simpa using trace⟩

theorem increment_discards (counter : DiagnosticCounter) (header : Option Bytes)
    (w : World cfg) : OnlyDiscards w (w.increment counter header) := by
  rw [increment]
  split
  · exact ⟨[.diagnostic counter header], rfl, by simp [Event.ofDiscard]⟩
  · exact ⟨[], rfl, by simp⟩

theorem checkSequence_discards (source : Address n) (data : Bytes) (hdr : MessageHeader)
    (w : World cfg) : OnlyDiscards w (w.checkSequence source data hdr).2 := by
  rw [checkSequence]
  split
  · exact ⟨[], rfl, by simp⟩
  · have recorded : OnlyDiscards w
        (w.sequenceVerdict source data hdr.sequenceCounter).2 :=
      ⟨[.verdict source data _], rfl, by simp [Event.ofDiscard]⟩
    rcases verdict : w.sequenceVerdict source data hdr.sequenceCounter with ⟨result, after⟩
    rw [verdict] at recorded
    cases result with
    | accept | firstSeen => exact recorded
    | duplicate | stale | tableFull => exact recorded.trans (increment_discards _ _ _)

/-- Validation that ends in a discard observes nothing else. -/
theorem validate_discards {source : Address n} {data : Bytes} {w : World cfg}
    (discarded : (w.validate source data).1 = none) :
    OnlyDiscards w (w.validate source data).2 := by
  have arrived : OnlyDiscards w (w.emit (.received source data)) := emit_discards rfl w
  rw [validate] at *
  cases checked : checkFrame cfg data with
  | error failure => exact arrived.trans (increment_discards _ _ _)
  | ok hdr =>
      have judged := arrived.trans
        (checkSequence_discards source data hdr (w.emit (.received source data)))
      rw [checked] at discarded
      rcases sequence : (w.emit (.received source data)).checkSequence source data hdr with
        ⟨proceed, after⟩
      rw [sequence] at judged
      simp only [sequence] at *
      cases proceed with
      | false => exact judged
      | true =>
          simp only at *
          split at discarded
          · cases discarded
          · next unauthentic =>
              rw [if_neg unauthentic]
              exact judged.trans (increment_discards _ _ _)

/-- The datagram passes steps 1 to 8 and fails step 9. -/
structure RejectedByAuth (source : Address n) (data : Bytes) (hdr : MessageHeader)
    (w : World cfg) : Prop where
  checked : FrameChecked cfg data hdr
  notSd : hdr.serviceId ≠ sdServiceId
  sequence : (w.rt.e2e.validateSequence source hdr.sequenceCounter).1.passes = true
  unauthentic : w.checkAuth source data hdr = false

theorem checkAuth_congr {source : Address n} {data : Bytes} {hdr : MessageHeader}
    {w after : World cfg} (authenticator : after.rt.authenticator = w.rt.authenticator)
    (dispatcher : after.rt.dispatcher = w.rt.dispatcher) :
    after.checkAuth source data hdr = w.checkAuth source data hdr := by
  unfold checkAuth
  rw [authenticator, dispatcher]

/-- Validation of a datagram it discards leaves the sequence table as it was, unless
step 9 rejects the datagram. -/
theorem validate_discard_e2e {source : Address n} {data : Bytes} {w : World cfg}
    (discarded : (w.validate source data).1 = none) :
    (w.validate source data).2.rt.e2e = w.rt.e2e ∨
    ∃ hdr, RejectedByAuth source data hdr w ∧
      (w.validate source data).2.rt.e2e =
        (w.rt.e2e.validateSequence source hdr.sequenceCounter).2 := by
  obtain ⟨diag, rt, -⟩ := validate_rt source data w
  rw [rt]
  cases checked : checkFrame cfg data with
  | error failure => exact .inl rfl
  | ok hdr =>
      by_cases sd : hdr.serviceId = sdServiceId
      · exact .inl (if_pos sd)
      · have written : ∀ e2e : E2EProtection cfg,
            (if hdr.serviceId = sdServiceId then w.rt.e2e else e2e) = e2e :=
          fun _ => if_neg sd
        simp only [written]
        cases passes : ((w.emit (.received source data)).checkSequence source data hdr).1 with
        | false =>
            left
            apply E2EProtection.validateSequence_discard
            have stopped := mt (checkSequence_fst source data hdr
              (w.emit (.received source data))).mpr (by simp [passes])
            simpa [sd] using stopped
        | true =>
            right
            have sequence := (checkSequence_fst source data hdr
              (w.emit (.received source data))).mp passes
            refine ⟨hdr, ⟨checkFrame_ok_iff.mp checked, sd, sequence.resolve_left sd, ?_⟩, rfl⟩
            obtain ⟨sequenceDiag, sequenceRt, -⟩ :=
              checkSequence_rt source data hdr (w.emit (.received source data))
            rw [validate, checked] at discarded
            rcases outcome : (w.emit (.received source data)).checkSequence source data hdr with
              ⟨proceed, after⟩
            rw [outcome] at passes sequenceRt
            simp only at passes sequenceRt
            subst passes
            simp only [outcome] at discarded
            split at discarded
            · cases discarded
            · next unauthentic =>
                have unchanged : after.checkAuth source data hdr =
                    w.checkAuth source data hdr :=
                  checkAuth_congr (by rw [sequenceRt]; rfl) (by rw [sequenceRt]; rfl)
                rw [unchanged] at unauthentic
                simpa using unauthentic

/-- What discarding a datagram leaves behind: counters, and the last-seen counter of
its source if authentication rejected it. -/
structure Discarded (source : Address n) (data : Bytes) (before after : World cfg) :
    Prop where
  observed : OnlyDiscards before after
  tables : after.rt = { before.rt with diag := after.rt.diag, e2e := after.rt.e2e }
  diagCallback : after.rt.diag.callback = before.rt.diag.callback
  sequence : after.rt.e2e = before.rt.e2e ∨
    ∃ hdr, RejectedByAuth source data hdr before ∧
      after.rt.e2e = (before.rt.e2e.validateSequence source hdr.sequenceCounter).2
  otherPeers : ∀ other ≠ source, after.rt.e2e.lastSeen other = before.rt.e2e.lastSeen other
  outgoing : after.rt.e2e.txSeq = before.rt.e2e.txSeq

/-- A discarded datagram changes diagnostic counters only, except that one rejected
by step 9 has been counted as seen from the address it claims to come from. -/
theorem discarded_datagram (env : Env cfg) (source : Address n) (data : Bytes)
    (nowMs : UInt32) (w : World cfg) (discarded : (w.validate source data).1 = none) :
    Discarded source data w (w.validateAndDispatch env source data nowMs) := by
  have stopped : w.validateAndDispatch env source data nowMs = (w.validate source data).2 := by
    rw [validateAndDispatch]
    rcases outcome : w.validate source data with ⟨passed, after⟩
    rw [outcome] at discarded
    cases discarded
    rfl
  have sequence := validate_discard_e2e discarded
  obtain ⟨diag, rt, callback⟩ := validate_rt source data w
  rw [stopped]
  refine ⟨validate_discards discarded, by rw [rt], by rw [rt]; exact callback, sequence, ?_, ?_⟩
  · intro other different
    rcases sequence with same | ⟨hdr, -, moved⟩
    · rw [same]
    · rw [moved, E2EProtection.lastSeen_validateSequence,
        if_neg fun same => different same.1.symm]
  · rcases sequence with same | ⟨hdr, -, moved⟩
    · rw [same]
    · rw [moved, E2EProtection.validateSequence_txSeq]

/-- A request that claims to be authenticated, for a device that holds no key. -/
def forgedRequest : Bytes :=
  messageFrame {
    messageType := MessageType.request.toByte
    flags := flagAuth
    serviceId := 0x1000
    methodEventId := 1
    clientId := 7
    requestId := 1
    sequenceCounter := 100 } [] (List.replicate hmacSize 0)

/-- A device that offers a service, subscribes to another, waits for a reply and has heard
from one peer. -/
def busyDevice : World embeddedConfig :=
  run (.benign _)
    [.api (.registerService 0x1000 0 1 0 true), .api (.registerEvent 0x1000 0x8001),
      .api (.offerService 0x1000 5 0), .api (.findService 0x2000 1 0),
      .api (.subscribeEvent 0x2000 0x8001 0 10 0), .api (.reportDtc 0x10 .error 0),
      .api (.request (some (Address.zero 8)) 0x2000 1 (.bytes [1, 2]) true 100 0),
      .deliver (Address.zero 8) (messageFrame {
        messageType := MessageType.notification.toByte
        serviceId := 0x2000
        methodEventId := 0x8001
        sequenceCounter := 99 } [] []) 1]
    (World.initial _ 1)

/-- The forged request continues the peer's counters and fails at the last step. -/
theorem discarded_forged :
    Discarded (Address.zero 8) forgedRequest busyDevice
      (busyDevice.validateAndDispatch (.benign _) (Address.zero 8) forgedRequest 2) :=
  discarded_datagram (.benign embeddedConfig) (Address.zero 8) forgedRequest 2 busyDevice
    (by decide +kernel)

/-- Authentication rejects the forged request, yet its counter is now the last one
seen from the address it claims. -/
theorem forged_request_moves_lastSeen :
    let source := Address.zero 8
    let before := World.initial embeddedConfig 1
    let after := before.validateAndDispatch (.benign _) source forgedRequest 0
    Reachable (.benign _) before ∧ (before.validate source forgedRequest).1 = none ∧
      before.rt.e2e.lastSeen source = none ∧ after.rt.e2e.lastSeen source = some 100 :=
  ⟨⟨1, [], rfl⟩, by decide +kernel, by decide +kernel, by decide +kernel⟩

end World

end Sero
