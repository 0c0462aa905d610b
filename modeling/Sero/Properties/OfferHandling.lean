import Sero.Runtime.Decomposition

/-!
# Offers

An offer for a tracked service is a reboot, a newly found service, a change of
provider or a renewal of the lease.  Each treatment is a sequence of writes and
callbacks; `handleOffer_accepted` says which one the runtime chooses.
-/

namespace Sero

open Library ServiceDiscovery

variable {n : Nat} {cfg : Config n} (env : Env cfg)

/-! ## Treatments -/

inductive OfferKind where
  | reboot
  | newlyFound
  | providerChange
  | renewal
  deriving DecidableEq, Repr

namespace World

def recordOffer (offer : SdPayload.Offer n) (nowMs : UInt32) (w : World cfg) : World cfg :=
  sdLens.modify (fun sd => sd.recordOffer offer.serviceId offer.ttlSeconds offer.sessionId
    offer.providerAddr nowMs) w

def markFound (serviceId : UInt16) (w : World cfg) : World cfg :=
  sdLens.modify (fun sd => sd.markFound serviceId) w

def flagResubscribe (serviceId : UInt16) (nowMs : UInt32) (w : World cfg) : World cfg :=
  sdLens.modify (fun sd => sd.flagResubscribe serviceId nowMs) w

/-- `on_service_lost`, if it is set. -/
def notifyLost (serviceId : UInt16) (w : World cfg) : World cfg :=
  callServiceLost sdLens (sdHooks env) serviceId w

/-- `on_service_found`, if it is set. -/
def notifyFound (offer : SdPayload.Offer n) (w : World cfg) : World cfg :=
  callServiceFound sdLens (sdHooks env) offer.serviceId offer.providerAddr w

/-- A reboot up to the return of `on_service_lost`. -/
def rebootLost (offer : SdPayload.Offer n) (nowMs : UInt32) (w : World cfg) : World cfg :=
  ((w.resetPeer offer.providerAddr).recordOffer offer nowMs).notifyLost env offer.serviceId

/-- Treat an offer as one of the four kinds. -/
def treatOffer (offer : SdPayload.Offer n) (nowMs : UInt32) (w : World cfg) :
    OfferKind → World cfg
  | .reboot =>
      (((w.rebootLost env offer nowMs).markFound offer.serviceId).notifyFound env
        offer).flagResubscribe offer.serviceId nowMs
  | .newlyFound =>
      (((w.recordOffer offer nowMs).markFound offer.serviceId).flagResubscribe
        offer.serviceId nowMs).notifyFound env offer
  | .providerChange =>
      ((w.recordOffer offer nowMs).flagResubscribe offer.serviceId nowMs).notifyFound env offer
  | .renewal => w.recordOffer offer nowMs

/-- An offer the consumer does not ignore, and the entry it is about. -/
structure AcceptedOffer (offer : SdPayload.Offer n) (entry : ConsumerEntry n)
    (w : World cfg) : Prop where
  ttl : offer.ttlSeconds ≠ 0
  tracked : w.rt.sd.findConsumer offer.serviceId = some entry
  major : offer.majorVersion = entry.expectedMajor

end World

/-- The runtime's classification. -/
def offerKind (entry : ConsumerEntry n) (offer : SdPayload.Offer n) : OfferKind :=
  if entry.sessionValid ∧ entry.state = .found ∧ entry.sessionId ≠ offer.sessionId then
    .reboot
  else if entry.state ≠ .found then .newlyFound
  else if entry.providerAddr ≠ offer.providerAddr then .providerChange
  else .renewal

theorem offerKind_eq_reboot_iff (entry : ConsumerEntry n) (offer : SdPayload.Offer n) :
    offerKind entry offer = .reboot ↔
      entry.sessionValid = true ∧ entry.state = .found ∧
        entry.sessionId ≠ offer.sessionId := by
  rw [offerKind]
  split
  · next reboot => simp [reboot]
  · next other =>
      simp only [other, iff_false]
      split
      · simp
      · split <;> simp

namespace World

variable {env}

theorem detectReboot_tracked {sd : ServiceDiscovery cfg} {serviceId sessionId : UInt16}
    {entry : ConsumerEntry n} (tracked : sd.findConsumer serviceId = some entry) :
    sd.detectReboot serviceId sessionId = true ↔
      entry.sessionValid = true ∧ entry.state = .found ∧ entry.sessionId ≠ sessionId := by
  simp [detectReboot, tracked, and_assoc]

/-- Which treatment the runtime gives an offer it does not ignore. -/
theorem handleOffer_accepted {offer : SdPayload.Offer n} {entry : ConsumerEntry n}
    {w : World cfg} (accepted : AcceptedOffer offer entry w) (nowMs : UInt32) :
    w.handleOffer env offer nowMs =
      w.treatOffer env offer nowMs (offerKind entry offer) := by
  have reboots := @detectReboot_tracked _ _ _ _ offer.sessionId _ accepted.tracked
  have sameMajor : ¬offer.majorVersion ≠ entry.expectedMajor := fun differs =>
    differs accepted.major
  by_cases reboot : entry.sessionValid = true ∧ entry.state = .found ∧
      entry.sessionId ≠ offer.sessionId
  · have tracked : (sdLens.get (w.resetPeer offer.providerAddr)).findConsumer
        offer.serviceId = some entry := accepted.tracked
    have again : (entry.sessionValid && decide (entry.state = .found) &&
        entry.sessionId != offer.sessionId) = true := by simpa [and_assoc] using reboot
    simp only [handleOffer, if_pos (reboots.mpr reboot), ServiceDiscovery.handleOffer,
      if_neg accepted.ttl, tracked, if_neg sameMajor, again, offerKind, if_pos reboot]
    rfl
  · have tracked : (sdLens.get w).findConsumer offer.serviceId = some entry :=
      accepted.tracked
    have again : (entry.sessionValid && decide (entry.state = .found) &&
        entry.sessionId != offer.sessionId) = false := by
      rw [← Bool.not_eq_true]
      simpa [and_assoc] using reboot
    simp only [handleOffer, if_neg (mt reboots.mp reboot), ServiceDiscovery.handleOffer,
      if_neg accepted.ttl, tracked, if_neg sameMajor, again, Bool.false_eq_true, if_false,
      offerKind, if_neg reboot]
    by_cases lost : entry.state ≠ .found
    · simp only [if_pos lost]
      rfl
    · have found : entry.state = .found := not_not.mp lost
      simp only [if_neg lost]
      by_cases moved : entry.providerAddr = offer.providerAddr
      · simp [found, moved, treatOffer, World.recordOffer]
      · simp [found, moved, treatOffer, World.recordOffer, World.flagResubscribe, notifyFound]

/-! ## Telling the treatments apart -/

theorem notifyLost_suffix (serviceId : UInt16) (w : World cfg) :
    w.history <:+ (w.notifyLost env serviceId).history :=
  Steps.suffix (callServiceLost_steps serviceId w).steps

theorem notifyFound_suffix (offer : SdPayload.Offer n) (w : World cfg) :
    w.history <:+ (w.notifyFound env offer).history :=
  Steps.suffix (callServiceFound_steps offer.serviceId offer.providerAddr w).steps

/-- If anything is observed when a service is found, the callback is observed first. -/
theorem notifyFound_history (offer : SdPayload.Offer n) (w : World cfg) :
    (w.notifyFound env offer).history = w.history ∨
      (.callback (.serviceFound offer.serviceId offer.providerAddr) :: w.history) <:+
        (w.notifyFound env offer).history := by
  rw [notifyFound, callServiceFound]
  split
  · right
    exact Steps.suffix (react_steps (w.emit _)).steps
  · exact .inl rfl

/-- The first thing observed of a reboot is that the provider's address is reset. -/
theorem treatOffer_reboot_suffix (offer : SdPayload.Offer n) (nowMs : UInt32)
    (w : World cfg) :
    (.peerReset offer.providerAddr :: w.history) <:+
      (w.treatOffer env offer nowMs .reboot).history := by
  have lost := @notifyLost_suffix _ _ env offer.serviceId
    ((w.resetPeer offer.providerAddr).recordOffer offer nowMs)
  have found := @notifyFound_suffix _ _ env offer
    ((w.rebootLost env offer nowMs).markFound offer.serviceId)
  exact lost.trans found

/-- No other treatment begins with a reset. -/
theorem treatOffer_other_history {offer : SdPayload.Offer n} {nowMs : UInt32}
    {w : World cfg} {kind : OfferKind} (other : kind ≠ .reboot) :
    (w.treatOffer env offer nowMs kind).history = w.history ∨
      (.callback (.serviceFound offer.serviceId offer.providerAddr) :: w.history) <:+
        (w.treatOffer env offer nowMs kind).history := by
  cases kind with
  | reboot => exact absurd rfl other
  | newlyFound => exact notifyFound_history offer _
  | providerChange => exact notifyFound_history offer _
  | renewal => exact .inl rfl

/-- Being treated as a reboot is observable. -/
theorem treatOffer_eq_reboot_iff {offer : SdPayload.Offer n} {nowMs : UInt32}
    {w : World cfg} {kind : OfferKind} :
    w.treatOffer env offer nowMs kind = w.treatOffer env offer nowMs .reboot ↔
      kind = .reboot := by
  constructor
  · intro equal
    by_contra other
    have reset := @treatOffer_reboot_suffix _ _ env offer nowMs w
    rw [← equal] at reset
    rcases treatOffer_other_history other with nothing | found
    · rw [nothing] at reset
      exact absurd reset.length_le (by simp)
    · cases Runs.suffix_unique reset found rfl
  · rintro rfl
    rfl

/-! ## Reboot detection -/

/-- What an offer must be for the provider to have rebooted. -/
def Rebooted (entry : ConsumerEntry n) (offer : SdPayload.Offer n) : Prop :=
  entry.sessionValid = true ∧ entry.providerAddr = offer.providerAddr ∧
    entry.sessionId ≠ offer.sessionId

/-- The offer is treated as a reboot exactly if its provider has rebooted, and as a
change of provider if it comes from another one. -/
structure RebootExact (env : Env cfg) (offer : SdPayload.Offer n) (entry : ConsumerEntry n)
    (nowMs : UInt32) (w : World cfg) : Prop where
  reboot : w.handleOffer env offer nowMs = w.treatOffer env offer nowMs .reboot ↔
    Rebooted entry offer
  providerChange : entry.providerAddr ≠ offer.providerAddr →
    w.handleOffer env offer nowMs = w.treatOffer env offer nowMs
      (if entry.state = .found then .providerChange else .newlyFound)

/-- Reboot detection is exact if the session does not tell, or if the service is found
exactly when the offer names the recorded provider. -/
theorem rebootExact_iff {offer : SdPayload.Offer n} {entry : ConsumerEntry n}
    {w : World cfg} (accepted : AcceptedOffer offer entry w) (nowMs : UInt32) :
    RebootExact env offer entry nowMs w ↔
      entry.sessionValid = false ∨ entry.sessionId = offer.sessionId ∨
        (entry.state = .found ↔ entry.providerAddr = offer.providerAddr) := by
  have treated := @handleOffer_accepted _ _ env _ _ _ accepted nowMs
  have rebooted : w.handleOffer env offer nowMs = w.treatOffer env offer nowMs .reboot ↔
      entry.sessionValid = true ∧ entry.state = .found ∧
        entry.sessionId ≠ offer.sessionId := by
    rw [treated, treatOffer_eq_reboot_iff, offerKind_eq_reboot_iff]
  constructor
  · rintro ⟨isExact, -⟩
    rw [rebooted, Rebooted] at isExact
    rw [← Bool.not_eq_true]
    tauto
  · intro condition
    rw [← Bool.not_eq_true] at condition
    constructor
    · rw [rebooted, Rebooted]
      tauto
    · intro moved
      have other : ¬(entry.sessionValid = true ∧ entry.state = .found ∧
          entry.sessionId ≠ offer.sessionId) := by tauto
      rw [treated, offerKind, if_neg other]
      by_cases found : entry.state = .found
      · simp [found, moved]
      · simp [found]

end World

/-! A consumer of one service, which two devices provide. -/

def providerOffer (provider : UInt8) (sessionId : UInt16) : SdPayload.Offer 8 where
  serviceId := 0x2000
  majorVersion := 1
  minorVersion := 0
  ttlSeconds := 5
  sessionId
  providerAddr := Address.filled 8 provider

def offerFrame (offer : SdPayload.Offer 8) : Bytes :=
  messageFrame {
    messageType := MessageType.requestNoReturn.toByte
    serviceId := sdServiceId
    methodEventId := SdMethod.offerService.toId
    clientId := 7
    payloadLength := 16 }
    (SdPayload.serializeOffer offer.serviceId offer.majorVersion offer.minorVersion
      offer.ttlSeconds offer.sessionId offer.providerAddr) []

/-- The consumer after the offer of the first provider. -/
def consumerWorld (env : Env embeddedConfig) : World embeddedConfig :=
  World.run env
    [.api (.setSdCallbacks { onServiceLost := true }),
      .api (.findService 0x2000 1 1000),
      .deliver (Address.filled 8 2) (offerFrame (providerOffer 2 1)) 1000]
    (World.initial _ 1)

/-- What the consumer has recorded. -/
def foundEntry : ConsumerEntry 8 where
  serviceId := 0x2000
  expectedMajor := 1
  state := .found
  providerAddr := Address.filled 8 2
  ttlExpiryMs := 6000
  nextRetryMs := 1000
  active := true
  sessionId := 1
  sessionValid := true

theorem accepted_consumer (provider : UInt8) (sessionId : UInt16) :
    World.AcceptedOffer (providerOffer provider sessionId) foundEntry
      (consumerWorld (.benign _)) where
  ttl := (by decide : (5 : UInt16) ≠ 0)
  tracked := by
    change (consumerWorld (.benign _)).rt.sd.findConsumer 0x2000 = some foundEntry
    decide +kernel
  major := rfl

theorem rebootExact_renewal :
    World.RebootExact (.benign _) (providerOffer 2 1) foundEntry 2000
      (consumerWorld (.benign _)) :=
  (World.rebootExact_iff (accepted_consumer 2 1) 2000).mpr (.inr (.inl rfl))

/-- An offer of the second provider is treated as a reboot. -/
theorem second_provider_is_reboot :
    let w := consumerWorld (.benign _)
    World.Reachable (.benign _) w ∧
      World.AcceptedOffer (providerOffer 3 2) foundEntry w ∧
      ¬World.RebootExact (.benign _) (providerOffer 3 2) foundEntry 2000 w := by
  intro w
  have accepted := accepted_consumer 3 2
  have kind : offerKind foundEntry (providerOffer 3 2) = .reboot := by decide
  refine ⟨⟨1, _, rfl⟩, accepted, ?_⟩
  intro isExact
  have rebooted := isExact.reboot.mp (by rw [World.handleOffer_accepted accepted, kind])
  exact absurd rebooted.2.1 (by decide)

end Sero
