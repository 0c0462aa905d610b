import Sero.Properties.OversizedPayloads
import Sero.Properties.RpcProgress

/-!
# Messages without an answer

An event that is published reaches the handler of every subscriber its frame is delivered to,
and a call without an answer reaches the handler of its service.
-/

namespace Sero

open Library

variable {n : Nat} {cfg : Config n} {env : Env cfg}

theorem EventManager.hasSubscribers_of_notify {manager : EventManager cfg}
    {serviceId eventId : UInt16} {subscriber : Address n}
    (listed : subscriber ∈ manager.notify serviceId eventId) :
    manager.hasSubscribers serviceId eventId = true := by
  rw [notify] at listed
  rw [hasSubscribers]
  cases found : manager.findEvent serviceId eventId with
  | none =>
      rw [found] at listed
      cases listed
  | some slot =>
      rw [found] at listed
      obtain ⟨entry, member, -⟩ := List.mem_map.mp listed
      simp [List.ne_nil_of_mem member]

namespace World

/-! ## What is sent -/

/-- The header of a message to which there is no answer. -/
def oneWayHeader (type : MessageType) (clientId : UInt16) (keyed : Bool) (sequenceCounter : UInt8)
    (serviceId id : UInt16) (payloadLength : Nat) : MessageHeader where
  messageType := type.toByte
  flags := if keyed then flagAuth else 0
  serviceId
  methodEventId := id
  clientId
  sequenceCounter
  requestId := requestIdNone
  payloadLength := UInt32.ofNat payloadLength

theorem oneWayHeader_valid {receiver : Config n} {type : MessageType} {clientId : UInt16}
    (keyed : Bool) (sequenceCounter : UInt8) (serviceId : UInt16) {id : UInt16} {body : Bytes}
    (consistent : typeIdConsistent type.toByte id = true)
    (identified : type ≠ .notification → clientId ≠ 0)
    (fits : body.length ≤ receiver.maxPayloadSize) :
    ValidHeader receiver
      (oneWayHeader type clientId keyed sequenceCounter serviceId id body.length) body where
  version := rfl
  messageType := by cases type <;> rfl
  typeId := consistent
  clientId := by
    rw [MessageHeader.validateClientId]
    cases type with
    | request | requestNoReturn => exact bne_iff_ne.mpr (identified (by decide))
    | _ => rfl
  payloadLength := UInt32.toNat_ofNat_of_lt
    (Nat.lt_of_le_of_lt (fits.trans receiver.maxPayloadSize_le) (by decide))
  fits := fits

variable {serviceId : UInt16} {payload : Payload}

theorem transmit_signed {kind : SendKind} {dest : Address n} {hdr : MessageHeader} {w : World cfg}
    (fits : payload.length ≤ cfg.maxPayloadSize) :
    let result := w.transmit env kind dest hdr payload.data payload.length
      (w.rt.shouldAuthOutgoing dest)
    let after := result.2.countRefusal result.1
    ∃ body ok, body.length = payload.length ∧ payload.Denotes body ∧
      after.rt.authenticator = w.rt.authenticator ∧
      (.sent kind dest (signedFrame (w.rt.authenticator.keyFor dest)
        { hdr with sequenceCounter := w.rt.e2e.nextSequence.1 } body) ok :: w.history) <:+
        after.history := by
  intro result after
  obtain ⟨body, size, denotes, built⟩ := builtFrame_denotes w.rt
    { hdr with sequenceCounter := w.rt.e2e.nextSequence.1 } dest fits
  refine ⟨body, result.1, size, denotes,
    (countRefusal_core result.1 result.2).authenticator, ?_⟩
  rw [← built]
  exact countRefusal_suffix result.1 result.2

/-- A published event is sent to each subscriber. -/
theorem notifyEach_signed {eventId : UInt16} (fits : payload.length ≤ cfg.maxPayloadSize)
    (dests : List (Address n)) (w : World cfg) {dest : Address n} (listed : dest ∈ dests) :
    ∃ body sequenceCounter ok, body.length = payload.length ∧ payload.Denotes body ∧
      Runs.Added w.history (.sent .notification dest (signedFrame (w.rt.authenticator.keyFor dest)
        (oneWayHeader .notification clientIdProvider (w.rt.authenticator.keyFor dest).isSome
          sequenceCounter serviceId eventId body.length) body) ok)
        (dests.foldl (notifyOne env serviceId eventId payload) w).history := by
  induction dests generalizing w with
  | nil => cases listed
  | cons first rest ih =>
      have told := @transmit_signed _ _ env payload .notification first
        (oneWayHeader .notification clientIdProvider (w.rt.shouldAuthOutgoing first) 0 serviceId
          eventId payload.length) w fits
      obtain ⟨body, ok, size, denotes, keys, sent⟩ := told
      rcases List.mem_cons.mp listed with rfl | later
      · refine ⟨body, w.rt.e2e.nextSequence.1, ok, size, denotes, w.history,
          List.suffix_refl _, ?_⟩
        rw [List.foldl_cons, size, ← shouldAuthOutgoing_eq]
        exact sent.trans (foldl_notifyOne_suffix serviceId eventId payload rest
          (w.notifyOne env serviceId eventId payload dest))
      · obtain ⟨laterBody, counter, laterOk, laterSize, laterDenotes, past, grown, laterSent⟩ :=
          ih (w.notifyOne env serviceId eventId payload first) later
        have same : (w.notifyOne env serviceId eventId payload first).rt.authenticator =
            w.rt.authenticator := keys
        rw [same] at laterSent
        exact ⟨laterBody, counter, laterOk, laterSize, laterDenotes, past,
          ((List.suffix_cons _ _).trans sent).trans grown, laterSent⟩

/-! ## What arrives -/

variable {w : World cfg} {source : Address n} {type : MessageType} {clientId : UInt16}
  {key : Option Bytes} {sequenceCounter : UInt8} {id : UInt16} {body : Bytes}

/-- A message without an answer that is let through is dispatched as it was sent. -/
theorem Admits.dispatches (admits : w.Admits source serviceId sequenceCounter key)
    (consistent : typeIdConsistent type.toByte id = true)
    (identified : type ≠ .notification → clientId ≠ 0) (fits : body.length ≤ cfg.maxPayloadSize)
    (nowMs : UInt32) :
    let hdr := oneWayHeader type clientId key.isSome sequenceCounter serviceId id body.length
    let validated := (w.validate source (signedFrame key hdr body)).2
    validated.rt.dispatcher = w.rt.dispatcher ∧
      validated.rt.eventHandlers = w.rt.eventHandlers ∧ w.history <:+ validated.history ∧
      w.validateAndDispatch env source (signedFrame key hdr body) nowMs =
        validated.dispatchMessage env source hdr body nowMs := by
  intro hdr validated
  have valid := @oneWayHeader_valid n cfg type clientId key.isSome sequenceCounter serviceId id
    body consistent identified fits
  have sent : w.Admits source hdr.serviceId hdr.sequenceCounter key := admits
  obtain ⟨passes, read⟩ := sent.validate valid (hasAuth_flags _)
  have outcome : w.validate source (signedFrame key hdr body) = (some hdr, validated) :=
    Prod.ext passes rfl
  obtain ⟨diag, rt, -⟩ := w.validate_rt source (signedFrame key hdr body)
  have dispatcher : validated.rt.dispatcher = w.rt.dispatcher := by rw [rt]
  have eventHandlers : validated.rt.eventHandlers = w.rt.eventHandlers := by rw [rt]
  refine ⟨dispatcher, eventHandlers, (validate_observes source _ w).suffix, ?_⟩
  rw [validateAndDispatch, outcome]
  dsimp only
  rw [read]

/-- An event that arrives is handed to its handler. -/
theorem Admits.event_handled (admits : w.Admits source serviceId sequenceCounter key)
    (notSd : serviceId ≠ sdServiceId) (isEvent : isEventId id = true)
    (fits : body.length ≤ cfg.maxPayloadSize) {entry : EventHandlerEntry}
    (found : w.findEventHandler serviceId id = some entry) (nowMs : UInt32) :
    Runs.Added w.history (.callback (.event entry.context serviceId id body))
      (w.validateAndDispatch env source (signedFrame key
        (oneWayHeader .notification clientId key.isSome sequenceCounter serviceId id body.length)
        body) nowMs).history := by
  obtain ⟨-, handlers, grown, dispatched⟩ := @Admits.dispatches _ _ env _ _ _ .notification
    clientId _ _ _ _ admits isEvent (fun other => absurd rfl other) fits nowMs
  rw [dispatched]
  generalize (w.validate source _).2 = validated at handlers grown
  generalize header : oneWayHeader .notification clientId key.isSome sequenceCounter serviceId id
    body.length = hdr
  have service : hdr.serviceId = serviceId := header ▸ rfl
  have event : hdr.methodEventId = id := header ▸ rfl
  have kind : MessageType.ofByte hdr.messageType = some .notification := header ▸ rfl
  have still : validated.findEventHandler serviceId id = some entry := by
    rw [findEventHandler, handlers]
    exact found
  rw [dispatchMessage, service, if_neg notSd, kind]
  dsimp only
  rw [handleNotification, service, event, still]
  have called : Steps env (validated.emit (.callback (.event entry.context serviceId id body)))
      (validated.callback env (.event entry.context serviceId id body)) := (react_steps _).steps
  exact ⟨validated.history, grown, called.suffix⟩

/-- A call that arrives enters the handler of its service, if that says it is ready. -/
theorem Admits.call_handled (admits : w.Admits source serviceId sequenceCounter key)
    (notSd : serviceId ≠ sdServiceId) (isMethod : isMethodId id = true) (identified : clientId ≠ 0)
    (fits : body.length ≤ cfg.maxPayloadSize) {entry : ServiceEntry}
    (found : w.rt.dispatcher.find serviceId = some entry) {frame : Bytes}
    (carries : frame = signedFrame key
      (oneWayHeader .requestNoReturn clientId key.isSome sequenceCounter serviceId id body.length)
      body)
    (ready : (w.validate source frame).2.isReady env entry.context = true) (nowMs : UInt32) :
    ∃ keys, Runs.Added w.history (.onRequest entry keys id body none)
      (w.validateAndDispatch env source frame nowMs).history := by
  subst carries
  obtain ⟨services, -, grown, dispatched⟩ := @Admits.dispatches _ _ env _ _ _ .requestNoReturn
    clientId _ _ _ _ admits isMethod (fun _ => identified) fits nowMs
  rw [dispatched]
  generalize (w.validate source _).2 = validated at services grown ready
  generalize header : oneWayHeader .requestNoReturn clientId key.isSome sequenceCounter serviceId
    id body.length = hdr
  have service : hdr.serviceId = serviceId := header ▸ rfl
  have method : hdr.methodEventId = id := header ▸ rfl
  have kind : MessageType.ofByte hdr.messageType = some .requestNoReturn := header ▸ rfl
  refine ⟨validated.rt.authenticator, validated.history, grown, ?_⟩
  rw [dispatchMessage, service, if_neg notSd, kind]
  dsimp only
  rw [handleFireAndForget, service, method, services, found]
  dsimp only
  rw [if_pos ready]
  exact callHandler_suffix entry id body none validated

end World

/-! ## On the network -/

namespace Devices

variable {devices : Devices n} {network : ∀ addr, World (devices.cfg addr)}

/-- A published event is sent to every subscriber of the event, and who lets the frame through
and has a handler for the event is told of it, whatever it has done until then. -/
theorem event_arrives {publisher subscriber : Address n} {serviceId eventId : UInt16}
    {payload : Payload} (notSd : serviceId ≠ sdServiceId) (isEvent : isEventId eventId = true)
    (fits : payload.length ≤ (devices.cfg publisher).maxPayloadSize)
    (room : payload.length ≤ (devices.cfg subscriber).maxPayloadSize)
    (subscribed : subscriber ∈ (network publisher).rt.eventManager.notify serviceId eventId) :
    let told := devices.advance publisher (.api (.notifyEvent serviceId eventId payload)) network
    Runs.Added (network publisher).history (.returned (.notifyEvent serviceId eventId payload)
      (.bool true)) (told publisher).history ∧
    ∃ frame ok body, Runs.Added (network publisher).history
        (.sent .notification subscriber frame ok) (told publisher).history ∧
      payload.Denotes body ∧
      ∀ later : World (devices.cfg subscriber),
        later.Admits publisher serviceId (counterOf frame)
          ((network publisher).rt.authenticator.keyFor subscriber) →
        ∀ entry, later.findEventHandler serviceId eventId = some entry → ∀ nowMs,
          Runs.Added later.history (.callback (.event entry.context serviceId eventId body))
            (later.step (devices.env subscriber) (.deliver publisher frame nowMs)).history := by
  intro told
  have nonempty := EventManager.hasSubscribers_of_notify subscribed
  have history : (told publisher).history =
      .returned (.notifyEvent serviceId eventId payload) (.bool true) ::
        (((network publisher).rt.eventManager.notify serviceId eventId).foldl
          (World.notifyOne (devices.env publisher) serviceId eventId payload)
          (network publisher)).history := by
    have stepped : told publisher = _ := advance_self publisher _ network
    rw [stepped, World.step, World.perform, World.apiCall, World.notifyEvent, if_pos nonempty]
    rfl
  obtain ⟨body, sequenceCounter, ok, size, denotes, past, grown, sent⟩ :=
    World.notifyEach_signed fits _ (network publisher) subscribed
  rw [history]
  refine ⟨⟨_, grown.trans ((List.suffix_cons _ _).trans sent), List.suffix_refl _⟩, _, ok, body,
    ⟨past, grown, sent.trans (List.suffix_cons _ _)⟩, denotes, ?_⟩
  intro later admits entry found nowMs
  rw [counterOf, signedFrame, deserialize_messageFrame] at admits
  exact World.Admits.event_handled admits notSd isEvent (size.trans_le room) found nowMs

/-- A call without an answer is sent to the provider that has been found.  Where the frame is let
through and the service says that it is ready, it enters the handler of the service. -/
theorem call_arrives {client provider : Address n} {serviceId methodId : UInt16}
    {payload : Payload} (notSd : serviceId ≠ sdServiceId) (isMethod : isMethodId methodId = true)
    (identified : (network client).rt.clientId ≠ 0)
    (fits : payload.length ≤ (devices.cfg client).maxPayloadSize)
    (room : payload.length ≤ (devices.cfg provider).maxPayloadSize)
    (known : (network client).rt.sd.getProviderAddress serviceId = some provider) :
    let called := devices.advance client (.api (.fireAndForget serviceId methodId payload)) network
    ∃ frame ok body, Runs.Added (network client).history
        (.sent .fireAndForget provider frame ok) (called client).history ∧
      payload.Denotes body ∧
      ∀ later : World (devices.cfg provider),
        later.Admits client serviceId (counterOf frame)
          ((network client).rt.authenticator.keyFor provider) →
        ∀ entry, later.rt.dispatcher.find serviceId = some entry →
          (later.validate client frame).2.isReady (devices.env provider) entry.context = true →
          ∀ nowMs, ∃ keys, Runs.Added later.history (.onRequest entry keys methodId body none)
            (later.step (devices.env provider) (.deliver client frame nowMs)).history := by
  intro called
  have transmitted := @World.transmit_signed _ _ (devices.env client) payload .fireAndForget
    provider (World.oneWayHeader .requestNoReturn (network client).rt.clientId
      ((network client).rt.shouldAuthOutgoing provider) 0 serviceId methodId payload.length)
    (network client) fits
  obtain ⟨body, ok, size, denotes, -, sent⟩ := transmitted
  let key := (network client).rt.authenticator.keyFor provider
  let hdr := World.oneWayHeader .requestNoReturn (network client).rt.clientId key.isSome
    (network client).rt.e2e.nextSequence.1 serviceId methodId body.length
  refine ⟨signedFrame key hdr body, ok, body, ?_, denotes, ?_⟩
  · have stepped : called client = _ := advance_self client _ network
    have frame : hdr = { World.oneWayHeader .requestNoReturn (network client).rt.clientId
        ((network client).rt.shouldAuthOutgoing provider) 0 serviceId methodId payload.length with
        sequenceCounter := (network client).rt.e2e.nextSequence.1 } := by
      rw [← size, shouldAuthOutgoing_eq]
      rfl
    rw [stepped, World.step, World.perform, World.apiCall, World.fireAndForget, known, frame]
    exact ⟨_, List.suffix_refl _, sent.trans (List.suffix_cons _ _)⟩
  · intro later admits entry found ready nowMs
    rw [counterOf, signedFrame, deserialize_messageFrame] at admits
    exact World.Admits.call_handled admits notSd isMethod identified (size.trans_le room) found
      rfl ready nowMs

/-! The client has found the provider and subscribed to its event. -/

def subscribedNetwork : ∀ addr, World (sharingDevices.cfg addr) :=
  sharingDevices.relay wordClient wordProvider 4
    (sharingDevices.advance wordClient (.housekeeping 3)
      (sharingDevices.advance wordClient (.api (.subscribeEvent 0x1000 0x8001 7 10 2))
        offeredNetwork))

theorem event_arrives_shared : ∃ frame,
    Runs.Added (subscribedNetwork wordClient).history (.callback (.event 7 0x1000 0x8001 [9]))
      ((subscribedNetwork wordClient).step (sharingDevices.env wordClient)
        (.deliver wordProvider frame 6)).history := by
  obtain ⟨-, frame, ok, body, -, rfl, arrives⟩ := @event_arrives _ sharingDevices
    subscribedNetwork wordProvider wordClient 0x1000 0x8001 (.bytes [9]) (by decide) (by decide)
    (by decide) (by decide) (by decide +kernel)
  exact ⟨frame, arrives (subscribedNetwork wordClient)
    (admits_unseen (by decide +kernel) (by decide +kernel) (by decide +kernel)
      (by decide +kernel) _)
    ⟨0x1000, 0x8001, true, 7⟩ (by decide +kernel) 6⟩

theorem call_arrives_shared : ∃ frame keys,
    Runs.Added (offeredNetwork wordProvider).history
      (.onRequest ⟨0x1000, 1, 0, false, true, .application 0⟩ keys 2 [5] none)
      ((offeredNetwork wordProvider).step (sharingDevices.env wordProvider)
        (.deliver wordClient frame 2)).history := by
  obtain ⟨frame, ok, body, -, rfl, arrives⟩ := @call_arrives _ sharingDevices offeredNetwork
    wordClient wordProvider 0x1000 2 (.bytes [5]) (by decide) (by decide) (by decide +kernel)
    (by decide) (by decide) (by decide +kernel)
  exact ⟨frame, arrives (offeredNetwork wordProvider)
    (admits_unseen (by decide +kernel) (by decide +kernel) (by decide +kernel)
      (by decide +kernel) _) _ (by decide +kernel) rfl 2⟩

end Devices

end Sero
