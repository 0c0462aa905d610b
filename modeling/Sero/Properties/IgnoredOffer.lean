import Sero.Properties.OfferHandling

/-!
# Ignored offers

An offer without lifetime, for a service that is not looked for or of another major
version is ignored.  The runtime tests every offer for a reboot of its provider before
it is handled, and that test does not ask whether the offer will be ignored.
-/

namespace Sero

open Library ServiceDiscovery

variable {n : Nat} {cfg : Config n} {env : Env cfg}

theorem E2EProtection.resetPeer_peers_iff (e2e : E2EProtection cfg) (source : Address n) :
    (e2e.resetPeer source).peers = e2e.peers ↔ e2e.lastSeen source = none := by
  rw [lastSeen, Option.map_eq_none_iff, findPeer, Table.lookup]
  exact Table.swapRemove_eq_self_iff

/-- Is the application entered? -/
def Event.entersApplication : Event cfg → Bool
  | .callback _ | .onRequest .. | .diagnostic .. => true
  | _ => false

/-- An offer `handle_offer` ignores. -/
def ServiceDiscovery.Ignores (sd : ServiceDiscovery cfg) (offer : SdPayload.Offer n) : Prop :=
  offer.ttlSeconds = 0 ∨ sd.findConsumer offer.serviceId = none ∨
    ∃ entry, sd.findConsumer offer.serviceId = some entry ∧
      offer.majorVersion ≠ entry.expectedMajor

/-- What was processed changed no table and entered no callback. -/
structure NoEffect (before after : World cfg) : Prop where
  sequence : after.rt.e2e.peers = before.rt.e2e.peers
  consumers : after.rt.sd.consumers = before.rt.sd.consumers
  subTrackers : after.rt.sd.subTrackers = before.rt.sd.subTrackers
  silent : ∃ events, after.history = events ++ before.history ∧
    ∀ event ∈ events, event.entersApplication = false

namespace World

/-- A datagram that passes validation and carries an offer. -/
structure ReceivesOffer (source : Address n) (data : Bytes) (offer : SdPayload.Offer n)
    (w : World cfg) : Prop where
  passes : (w.validate source data).1 = some (MessageHeader.deserialize data)
  isSd : (MessageHeader.deserialize data).serviceId = sdServiceId
  operation : SdMethod.ofId (MessageHeader.deserialize data).methodEventId = some .offerService
  decodes : SdPayload.deserializeOffer (payloadOf (MessageHeader.deserialize data) data) =
    some offer

/-- Validation leaves the tables alone on the way of a discovery message. -/
theorem ReceivesOffer.validate {source : Address n} {data : Bytes} {offer : SdPayload.Offer n}
    {w : World cfg} (received : w.ReceivesOffer source data offer) :
    w.validate source data = (some (MessageHeader.deserialize data),
      (w.emit (.received source data)).emit (.dispatched source data)) := by
  have passes := received.passes
  rw [World.validate] at passes ⊢
  cases checked : checkFrame cfg data with
  | error failure =>
      rw [checked] at passes
      cases passes
  | ok hdr =>
      have header := (checkFrame_ok_iff.mp checked).header
      have unchecked : (w.emit (.received source data)).checkSequence source data hdr =
          (true, w.emit (.received source data)) := by
        rw [checkSequence, if_pos (header ▸ received.isSd)]
      simp only [checked, unchecked] at passes ⊢
      split at passes
      · next authentic => rw [if_pos authentic, header]
      · cases passes

theorem ReceivesOffer.processed {source : Address n} {data : Bytes}
    {offer : SdPayload.Offer n} {w : World cfg} (received : w.ReceivesOffer source data offer)
    (nowMs : UInt32) :
    w.validateAndDispatch env source data nowMs =
      ((w.emit (.received source data)).emit (.dispatched source data)).handleOffer env offer
        nowMs := by
  rw [validateAndDispatch, received.validate]
  simp only [dispatchMessage, received.isSd, if_true, handleSdMessage, received.operation,
    received.decodes]

/-- `handle_offer` itself does nothing with an offer it ignores. -/
theorem handleOffer_ignored {offer : SdPayload.Offer n} {w : World cfg}
    (ignored : w.rt.sd.Ignores offer) (nowMs : UInt32) :
    ServiceDiscovery.handleOffer sdLens (sdHooks env) offer.serviceId offer.majorVersion
      offer.ttlSeconds offer.sessionId offer.providerAddr nowMs w = w := by
  rw [ServiceDiscovery.handleOffer]
  split
  · rfl
  · next hasTtl =>
      rcases ignored with noTtl | unknown | ⟨entry, known, major⟩
      · exact absurd noTtl hasTtl
      · rw [sdLens_get, unknown]
      · rw [sdLens_get, known]
        exact if_pos major

/-- An offer is accepted for what is looked for, or ignored. -/
theorem accepted_or_ignored (offer : SdPayload.Offer n) (w : World cfg) :
    (∃ entry, AcceptedOffer offer entry w) ∨ w.rt.sd.Ignores offer := by
  by_cases ttl : offer.ttlSeconds = 0
  · exact .inr (.inl ttl)
  · cases tracked : w.rt.sd.findConsumer offer.serviceId with
    | none => exact .inr (.inr (.inl tracked))
    | some entry =>
        by_cases major : offer.majorVersion = entry.expectedMajor
        · exact .inl ⟨entry, ttl, tracked, major⟩
        · exact .inr (.inr (.inr ⟨entry, tracked, major⟩))

/-- All the runtime does about an offer it ignores is to test it for a reboot. -/
theorem handleOffer_eq_of_ignored {offer : SdPayload.Offer n} {w : World cfg}
    (ignored : w.rt.sd.Ignores offer) (nowMs : UInt32) :
    w.handleOffer env offer nowMs =
      if w.rt.sd.detectReboot offer.serviceId offer.sessionId then
        w.resetPeer offer.providerAddr
      else w := by
  have still : (w.resetPeer offer.providerAddr).rt.sd.Ignores offer := ignored
  rw [handleOffer]
  split
  · exact handleOffer_ignored still nowMs
  · exact handleOffer_ignored ignored nowMs

/-- An ignored offer has no effect unless its session lets the runtime see a reboot and
the provider it names is tracked. -/
theorem ignored_offer_iff {source : Address n} {data : Bytes} {offer : SdPayload.Offer n}
    {w : World cfg} (received : w.ReceivesOffer source data offer)
    (ignored : w.rt.sd.Ignores offer) (nowMs : UInt32) :
    NoEffect w (w.validateAndDispatch env source data nowMs) ↔
      ¬(w.rt.sd.detectReboot offer.serviceId offer.sessionId = true ∧
        (w.rt.e2e.lastSeen offer.providerAddr).isSome = true) := by
  let arrived := (w.emit (.received source data)).emit (.dispatched source data)
  have ignoredBy : ∀ after : World cfg, after.rt.sd = w.rt.sd →
      ServiceDiscovery.handleOffer sdLens (sdHooks env) offer.serviceId offer.majorVersion
        offer.ttlSeconds offer.sessionId offer.providerAddr nowMs after = after := by
    intro after same
    apply handleOffer_ignored
    rw [same]
    exact ignored
  rw [received.processed, World.handleOffer]
  cases reboots : w.rt.sd.detectReboot offer.serviceId offer.sessionId with
  | false =>
      have notReset : arrived.rt.sd.detectReboot offer.serviceId offer.sessionId = false :=
        reboots
      rw [if_neg (by rw [notReset]; exact Bool.false_ne_true), ignoredBy arrived rfl]
      constructor
      · intro _ both
        cases both.1
      · intro _
        exact ⟨rfl, rfl, rfl, [.dispatched source data, .received source data], rfl,
          by simp [Event.entersApplication]⟩
  | true =>
      have reset : arrived.rt.sd.detectReboot offer.serviceId offer.sessionId = true := reboots
      rw [if_pos reset, ignoredBy (arrived.resetPeer offer.providerAddr) rfl]
      have forgets := w.rt.e2e.resetPeer_peers_iff offer.providerAddr
      constructor
      · rintro effect ⟨-, tracked⟩
        rw [forgets.mp effect.sequence] at tracked
        cases tracked
      · intro untracked
        have unknown : w.rt.e2e.lastSeen offer.providerAddr = none :=
          Option.not_isSome_iff_eq_none.mp fun tracked => untracked ⟨rfl, tracked⟩
        exact ⟨forgets.mpr unknown, rfl, rfl,
          [.peerReset offer.providerAddr, .dispatched source data, .received source data],
          rfl, by simp [Event.entersApplication]⟩

/-- An offer of another major version. -/
def foreignOffer (sessionId : UInt16) : SdPayload.Offer 8 :=
  { providerOffer 2 sessionId with majorVersion := 9 }

/-- A consumer that has heard its provider. -/
def hearingConsumer : World embeddedConfig :=
  run (.benign _)
    [.deliver (Address.filled 8 2)
      (messageFrame {
        messageType := MessageType.notification.toByte
        serviceId := 0x2000
        methodEventId := 0x8001
        sequenceCounter := 200 } [] []) 1500]
    (consumerWorld (.benign _))

theorem receives_foreignOffer (sessionId : UInt16) (known : sessionId = 1 ∨ sessionId = 2) :
    hearingConsumer.ReceivesOffer (Address.filled 8 3) (offerFrame (foreignOffer sessionId))
      (foreignOffer sessionId) := by
  rcases known with rfl | rfl
  · exact ⟨by decide +kernel, by decide +kernel, by decide +kernel, by decide +kernel⟩
  · exact ⟨by decide +kernel, by decide +kernel, by decide +kernel, by decide +kernel⟩

theorem ignores_foreignOffer (sessionId : UInt16) :
    hearingConsumer.rt.sd.Ignores (foreignOffer sessionId) := by
  have found : hearingConsumer.rt.sd.findConsumer 0x2000 = some foundEntry := by decide +kernel
  exact .inr (.inr ⟨foundEntry, found, (by decide : (9 : UInt8) ≠ 1)⟩)

/-- A foreign offer of the recorded session has no effect. -/
theorem ignored_offer_same_session :
    NoEffect hearingConsumer (hearingConsumer.validateAndDispatch (.benign _)
      (Address.filled 8 3) (offerFrame (foreignOffer 1)) 2000) :=
  (ignored_offer_iff (receives_foreignOffer 1 (.inl rfl)) (ignores_foreignOffer 1) 2000).mpr
    (by decide +kernel)

/-- A foreign offer of another session, from anywhere, makes the consumer forget the
counter of its provider. -/
theorem ignored_offer_forgets_provider :
    let after := hearingConsumer.validateAndDispatch (.benign _) (Address.filled 8 3)
      (offerFrame (foreignOffer 2)) 2000
    Reachable (.benign _) hearingConsumer ∧
      hearingConsumer.ReceivesOffer (Address.filled 8 3) (offerFrame (foreignOffer 2))
        (foreignOffer 2) ∧
      hearingConsumer.rt.sd.Ignores (foreignOffer 2) ∧
      hearingConsumer.rt.e2e.lastSeen (Address.filled 8 2) = some 200 ∧
      after.rt.e2e.lastSeen (Address.filled 8 2) = none ∧
      ¬NoEffect hearingConsumer after := by
  intro after
  have before : hearingConsumer.rt.e2e.lastSeen (Address.filled 8 2) = some 200 := by
    decide +kernel
  have forgotten : after.rt.e2e.lastSeen (Address.filled 8 2) = none := by decide +kernel
  have searching : Reachable (.benign _) (consumerWorld (.benign _)) := ⟨1, _, rfl⟩
  refine ⟨searching.run _, receives_foreignOffer 2 (.inr rfl), ignores_foreignOffer 2, before,
    forgotten, ?_⟩
  intro effect
  have same : after.rt.e2e.lastSeen (Address.filled 8 2) =
      hearingConsumer.rt.e2e.lastSeen (Address.filled 8 2) := by
    rw [E2EProtection.lastSeen, E2EProtection.findPeer, effect.sequence]
    rfl
  rw [before, forgotten] at same
  cases same

end World

end Sero
