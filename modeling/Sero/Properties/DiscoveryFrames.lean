import Sero.Properties.WireFormat
import Sero.Runtime.Traffic

/-!
# Discovery messages on the wire

Discovery messages are encoded in one place, stamped in another and decoded in a third;
acknowledgements have an encoder of their own.  Whatever the sender's buffers held and
whatever state the receiver is in, each frame reaches the handler of its operation with
the values the sender put in.
-/

namespace Sero

open Library ServiceDiscovery

variable {n : Nat} {cfg : Config n}

/-- What a device does about a datagram it has accepted. -/
abbrev Handling (cfg : Config n) :=
  Env cfg → Address n → UInt32 → World cfg → World cfg

/-! ## Encoding and decoding -/

namespace SdMessage

/-- The header a message is sent with. -/
def header (clientId : UInt16) (sequenceCounter : UInt8) (message : SdMessage n) :
    MessageHeader where
  messageType := MessageType.requestNoReturn.toByte
  serviceId := sdServiceId
  methodEventId := message.method.toId
  clientId
  sequenceCounter
  payloadLength := UInt32.ofNat message.payload.length

def frame (clientId : UInt16) (sequenceCounter : UInt8) (message : SdMessage n) : Bytes :=
  messageFrame (message.header clientId sequenceCounter) message.payload []

theorem payload_length_le (message : SdMessage n) : message.payload.length ≤ 8 + n := by
  cases message with
  | offer serviceId major minor ttl session addr =>
      simp only [payload, SdPayload.serializeOffer, List.length_append, writeU16_length,
        List.length_cons, List.length_nil, addr.property]
      omega
  | find => exact Nat.le_trans (by decide : 4 ≤ 8) (Nat.le_add_right 8 n)
  | subscribeEvent | unsubscribe => exact Nat.le_add_right 8 n

theorem encode_length (clientId : UInt16) (message : SdMessage n) :
    (message.encode clientId).length = headerSize + message.payload.length := by
  rw [encode, List.length_append, MessageHeader.serialize_length]

/-- The configuration has room for every discovery message. -/
theorem fits (roomy : 8 + n ≤ cfg.maxPayloadSize) (clientId : UInt16)
    (message : SdMessage n) :
    (message.encode clientId).length + crcSize ≤ maxMsgSize cfg := by
  have small := message.payload_length_le
  rw [encode_length, maxMsgSize]
  omega

/-- Stamping an encoded message makes it a frame. -/
theorem stampSd_frame (rt : Runtime cfg) (clientId : UInt16) {message : SdMessage n}
    (room : (message.encode clientId).length + crcSize ≤ maxMsgSize cfg) :
    (rt.stampSd (message.encode clientId)).bytes.take
        ((message.encode clientId).length + crcSize) = message.frame clientId rt.sdSeq := by
  let bytes := message.encode clientId
  let copied := rt.txBuffer.write 0 bytes
  let counted := copied.write 10 [rt.sdSeq]
  have long : 10 + 1 ≤ bytes.length := by
    simp only [bytes, encode_length, headerSize]
    omega
  change bytes.length + crcSize ≤ maxMsgSize cfg at room
  have body : copied.bytes.take bytes.length = bytes := by
    have written := rt.txBuffer.take_write 0 bytes (by omega)
    simpa using written
  have stamped : counted.bytes.take bytes.length =
      (message.header clientId rt.sdSeq).serialize ++ (message.payload ++ []) := by
    have written := copied.take_write_within [rt.sdSeq] long (by omega)
    rw [body] at written
    rw [written, List.append_nil]
    rfl
  have whole := counted.take_write bytes.length
    (crc16Trailer (counted.bytes.take bytes.length)) room
  rw [crc16Trailer_length, stamped] at whole
  rw [frame, messageFrame, ← whole, ← stamped]
  rfl

/-- What a message asks of the device that receives it. -/
def deliver (clientId : UInt16) (message : SdMessage n) : Handling cfg :=
  fun env source nowMs w =>
    match message with
    | .offer serviceId majorVersion minorVersion ttlSeconds sessionId providerAddr =>
        w.handleOffer env
          { serviceId, majorVersion, minorVersion, ttlSeconds, sessionId, providerAddr } nowMs
    | .find serviceId => w.handleFind env source serviceId
    | .subscribeEvent serviceId eventId ttlSeconds =>
        w.handleSubscribeRequest env source { clientId } { serviceId, eventId, ttlSeconds }
          nowMs
    | .unsubscribe serviceId eventId =>
        { w with rt := { w.rt with
          eventManager := w.rt.eventManager.unsubscribe serviceId eventId clientId } }

end SdMessage

namespace SdPayload

theorem deserializeOffer_serializeOffer (serviceId : UInt16) (major minor : UInt8)
    (ttl session : UInt16) (addr : Address n) :
    deserializeOffer (serializeOffer serviceId major minor ttl session addr) =
      some {
        serviceId
        majorVersion := major
        minorVersion := minor
        ttlSeconds := ttl
        sessionId := session
        providerAddr := addr } := by
  have enough : 8 + n ≤ (serializeOffer serviceId major minor ttl session addr).length := by
    simp only [serializeOffer, List.length_append, writeU16_length, List.length_cons,
      List.length_nil, addr.property]
    omega
  have id := readU16_writeU16 [] ([major, minor] ++ (writeU16 ttl ++ (writeU16 session ++
    addr.val))) serviceId 0 rfl
  have lifetime := readU16_writeU16 (writeU16 serviceId ++ [major, minor])
    (writeU16 session ++ addr.val) ttl 4 rfl
  have number := readU16_writeU16 (writeU16 serviceId ++ [major, minor] ++ writeU16 ttl)
    addr.val session 6 rfl
  have rest : ((serializeOffer serviceId major minor ttl session addr).drop 8).take n =
      addr.val := by
    change addr.val.take n = addr.val
    exact List.take_of_length_le addr.property.le
  simp only [List.append_assoc, List.nil_append] at id lifetime number
  rw [deserializeOffer, dif_pos enough]
  simp only [rest]
  simp only [serializeOffer, List.append_assoc, id, lifetime, number]
  rfl

theorem deserializeFind_serializeFind (serviceId : UInt16) :
    deserializeFind (serializeFind serviceId) = some serviceId := by
  have id := readU16_writeU16 [] [0, 0] serviceId 0 rfl
  rw [List.nil_append] at id
  exact congrArg some id

theorem deserializeSubscribe_serializeSubscribe (serviceId eventId ttlSeconds : UInt16) :
    deserializeSubscribe (serializeSubscribe serviceId eventId ttlSeconds) =
      some { serviceId, eventId, ttlSeconds } := by
  have service := readU16_writeU16 [] (writeU16 eventId ++ (writeU16 ttlSeconds ++ [0, 0]))
    serviceId 0 rfl
  have event := readU16_writeU16 (writeU16 serviceId) (writeU16 ttlSeconds ++ [0, 0]) eventId 2
    rfl
  have lifetime := readU16_writeU16 (writeU16 serviceId ++ writeU16 eventId) [0, 0] ttlSeconds
    4 rfl
  have enough : ¬(serializeSubscribe serviceId eventId ttlSeconds).length < 8 :=
    (by decide : ¬(8 : Nat) < 8)
  simp only [List.append_assoc, List.nil_append] at service event lifetime
  rw [deserializeSubscribe, if_neg enough]
  simp only [serializeSubscribe, List.append_assoc, service, event, lifetime]

end SdPayload

/-! ## Receiving -/

namespace World

/-- A datagram has passed validation without being sequence-checked. -/
def arrived (source : Address n) (data : Bytes) (w : World cfg) : World cfg :=
  (w.emit (.received source data)).emit (.dispatched source data)

/-- A well-formed discovery frame goes straight to its handler. -/
theorem receive_sd {env : Env cfg} {source : Address n} {hdr : MessageHeader}
    {payload : Bytes} (valid : ValidHeader cfg hdr payload)
    (sd : hdr.serviceId = sdServiceId) (unsigned : hdr.hasAuth = false) (nowMs : UInt32)
    (w : World cfg) :
    w.validateAndDispatch env source (messageFrame hdr payload []) nowMs =
      (w.arrived source (messageFrame hdr payload [])).handleSdMessage env source hdr payload
        nowMs := by
  have checked : checkFrame cfg (messageFrame hdr payload []) = .ok hdr :=
    checkFrame_ok_iff.mpr (frameChecked_messageFrame valid (by simp [unsigned]))
  have payloadEq := @payloadOf_messageFrame hdr payload [] valid.payloadLength
  have authentic : (w.emit (.received source (messageFrame hdr payload []))).checkAuth source
      (messageFrame hdr payload []) hdr = true := by
    rw [checkAuth, if_neg (by simp [unsigned]), if_pos sd]
  have validated : w.validate source (messageFrame hdr payload []) =
      (some hdr, w.arrived source (messageFrame hdr payload [])) := by
    rw [validate, checked]
    simp only [checkSequence, if_pos sd]
    rw [if_pos authentic]
    rfl
  rw [validateAndDispatch, validated]
  simp only [dispatchMessage, if_pos sd, payloadEq]

end World

/-- Whoever receives the frame, in whatever state, handles it so. -/
def HandledAs (cfg : Config n) (frame : Bytes) (handling : Handling cfg) : Prop :=
  ∀ (env : Env cfg) (receiver : World cfg) (source : Address n) (nowMs : UInt32),
    receiver.validateAndDispatch env source frame nowMs =
      handling env source nowMs (receiver.arrived source frame)

/-- A discovery header of a device with a client id of its own is valid. -/
theorem sdHeader_valid {hdr : MessageHeader} {payload : Bytes}
    (version : hdr.version = protocolVersion)
    (type : hdr.messageType = MessageType.requestNoReturn.toByte)
    (method : isMethodId hdr.methodEventId = true) (nonzero : hdr.clientId ≠ 0)
    (declared : hdr.payloadLength = UInt32.ofNat payload.length)
    (fits : payload.length ≤ cfg.maxPayloadSize) : ValidHeader cfg hdr payload where
  version
  messageType := by rw [type]; rfl
  typeId := by
    rw [MessageHeader.validateTypeIdConsistency, type]
    exact method
  clientId := by
    rw [MessageHeader.validateClientId, type]
    simpa using nonzero
  payloadLength := by
    have small := cfg.maxPayloadSize_le
    rw [declared, UInt32.toNat_ofNat']
    exact Nat.mod_eq_of_lt (by omega)
  fits

/-- A message is handled as what it asks for. -/
theorem SdMessage.frame_handledAs (roomy : 8 + n ≤ cfg.maxPayloadSize) {clientId : UInt16}
    (nonzero : clientId ≠ 0) (sequenceCounter : UInt8) (message : SdMessage n) :
    HandledAs cfg (message.frame clientId sequenceCounter) (message.deliver clientId) := by
  intro env receiver source nowMs
  have valid : ValidHeader cfg (message.header clientId sequenceCounter) message.payload :=
    sdHeader_valid rfl rfl message.method.isMethodId_toId nonzero rfl
      (message.payload_length_le.trans roomy)
  have method : SdMethod.ofId (message.header clientId sequenceCounter).methodEventId =
      some message.method := SdMethod.ofId_toId message.method
  have unsigned : (message.header clientId sequenceCounter).hasAuth = false :=
    (by decide : ((0 : UInt8) &&& flagAuth != 0) = false)
  rw [SdMessage.frame, World.receive_sd valid rfl unsigned, World.handleSdMessage, method]
  cases message with
  | offer serviceId major minor ttl session addr =>
      have decoded :=
        SdPayload.deserializeOffer_serializeOffer serviceId major minor ttl session addr
      simp only [SdMessage.method, SdMessage.payload, decoded, SdMessage.deliver]
  | find serviceId =>
      have decoded := SdPayload.deserializeFind_serializeFind serviceId
      simp only [SdMessage.method, SdMessage.payload, decoded, SdMessage.deliver]
  | subscribeEvent serviceId eventId ttl =>
      have decoded := SdPayload.deserializeSubscribe_serializeSubscribe serviceId eventId ttl
      simp only [SdMessage.method, SdMessage.payload, decoded, SdMessage.deliver]
      rfl
  | unsubscribe serviceId eventId =>
      have decoded := SdPayload.deserializeSubscribe_serializeSubscribe serviceId eventId 0
      simp only [SdMessage.method, SdMessage.payload, decoded, SdMessage.deliver]
      rfl

namespace World

/-- The header an acknowledgement is sent with. -/
def ackHeader (rt : Runtime cfg) (result : ReturnCode) : MessageHeader where
  messageType := MessageType.requestNoReturn.toByte
  returnCode := result.toByte
  serviceId := sdServiceId
  methodEventId := SdMethod.subscribeAck.toId
  clientId := rt.clientId
  sequenceCounter := rt.sdSeq
  payloadLength := 8

/-- The second encoder writes the same layout as the first. -/
theorem ackFrame_eq (rt : Runtime cfg) (result : ReturnCode)
    (serviceId eventId grantedTtl : UInt16) :
    (ackFrame rt result serviceId eventId grantedTtl).1.bytes.take
        (ackFrame rt result serviceId eventId grantedTtl).2 =
      messageFrame (ackHeader rt result)
        (SdPayload.serializeSubscribe serviceId eventId grantedTtl) [] := by
  let payload := SdPayload.serializeSubscribe serviceId eventId grantedTtl
  let hdr := ackHeader rt result
  let headed := rt.txBuffer.write 0 hdr.serialize
  let filled := headed.write headerSize payload
  have room : headerSize + payload.length + crcSize ≤ maxMsgSize cfg := by
    have size : payload.length = 8 := rfl
    simp only [size, maxMsgSize, headerSize, crcSize, hmacSize]
    omega
  have header : headed.bytes.take headerSize = hdr.serialize := by
    have written := rt.txBuffer.take_write 0 hdr.serialize
      (by rw [MessageHeader.serialize_length]; omega)
    simpa using written
  have body : filled.bytes.take (headerSize + payload.length) = hdr.serialize ++ payload := by
    rw [← header]
    exact headed.take_write headerSize payload (by omega)
  have whole := filled.take_write (headerSize + payload.length)
    (crc16Trailer (filled.bytes.take (headerSize + payload.length))) room
  rw [crc16Trailer_length, body] at whole
  rw [messageFrame, List.append_nil, ← whole, ← body]
  rfl

theorem ackFrame_handledAs (roomy : 8 ≤ cfg.maxPayloadSize) {rt : Runtime cfg}
    (nonzero : rt.clientId ≠ 0) (result : ReturnCode)
    (serviceId eventId grantedTtl : UInt16) :
    HandledAs cfg ((ackFrame rt result serviceId eventId grantedTtl).1.bytes.take
        (ackFrame rt result serviceId eventId grantedTtl).2)
      fun env _ _ w => ServiceDiscovery.handleSubscribeAck sdLens (sdHooks env) serviceId
        eventId result grantedTtl w := by
  intro env receiver source nowMs
  have valid : ValidHeader cfg (ackHeader rt result)
      (SdPayload.serializeSubscribe serviceId eventId grantedTtl) :=
    sdHeader_valid rfl rfl (SdMethod.isMethodId_toId .subscribeAck) nonzero rfl roomy
  have method : SdMethod.ofId (ackHeader rt result).methodEventId = some .subscribeAck :=
    SdMethod.ofId_toId .subscribeAck
  have unsigned : (ackHeader rt result).hasAuth = false :=
    (by decide : ((0 : UInt8) &&& flagAuth != 0) = false)
  have decoded := SdPayload.deserializeSubscribe_serializeSubscribe serviceId eventId grantedTtl
  rw [ackFrame_eq, receive_sd valid rfl unsigned, handleSdMessage, method]
  simp only [decoded]
  rfl

end World

/-! ## What operations emit -/

/-- An operation sends these discovery frames, one for each destination and handling, in
this order, and no other. -/
def Emits (before after : World cfg)
    (expected : List (Option (Address n) × Handling cfg)) : Prop :=
  ∃ frames, after.traffic = frames.reverse ++ before.traffic ∧
    List.Forall₂ (fun sent meant => sent.1 = meant.1 ∧ HandledAs cfg sent.2 meant.2)
      frames expected

namespace Emits

variable {first second third : World cfg}
variable {earlier later : List (Option (Address n) × Handling cfg)}

theorem silent (same : second.traffic = first.traffic) : Emits first second [] :=
  ⟨[], same, .nil⟩

theorem trans (left : Emits first second earlier) (right : Emits second third later) :
    Emits first third (earlier ++ later) := by
  obtain ⟨older, olderEq, olderMeant⟩ := left
  obtain ⟨newer, newerEq, newerMeant⟩ := right
  refine ⟨older ++ newer, ?_, List.rel_append olderMeant newerMeant⟩
  rw [newerEq, olderEq, List.reverse_append, List.append_assoc]

theorem single {dest : Option (Address n)} {frame : Bytes} {handling : Handling cfg}
    (sent : second.traffic = (dest, frame) :: first.traffic)
    (meant : HandledAs cfg frame handling) : Emits first second [(dest, handling)] :=
  ⟨[(dest, frame)], sent, .cons ⟨rfl, meant⟩ .nil⟩

/-- A loop emits what its turns emit, as long as they leave the discovery state alone. -/
theorem foldl {α : Type} {body : World cfg → α → World cfg}
    {expected : α → Option (Address n) × Handling cfg} {clientId : UInt16}
    (each : ∀ w item, w.rt.sd.clientId = clientId →
      Emits w (body w item) [expected item] ∧ (body w item).rt.sd = w.rt.sd)
    (items : List α) {w : World cfg} (same : w.rt.sd.clientId = clientId) :
    Emits w (items.foldl body w) (items.map expected) := by
  induction items generalizing w with
  | nil => exact silent rfl
  | cons item rest ih =>
      obtain ⟨emitted, unchanged⟩ := each w item same
      have after : (body w item).rt.sd.clientId = clientId := by rw [unchanged, same]
      exact emitted.trans (ih after)

/-- A loop over the slots of a table emits what its turns emit; each turn sees the state
the turns before it left. -/
theorem foldl_range {body : World cfg → Nat → World cfg}
    {expected : World cfg → Nat → List (Option (Address n) × Handling cfg)}
    {Sound : World cfg → Prop} (keeps : ∀ w index, Sound w → Sound (body w index))
    (each : ∀ w index, Sound w → Emits w (body w index) (expected w index))
    {w : World cfg} (sound : Sound w) (count : Nat) :
    Emits w ((List.range count).foldl body w)
      ((List.range count).flatMap fun index =>
        expected ((List.range index).foldl body w) index) := by
  induction count with
  | zero => exact silent rfl
  | succ count ih =>
      have reached : Sound ((List.range count).foldl body w) :=
        List.foldlRecOn _ body sound fun w sound index _ => keeps w index sound
      rw [List.range_succ, List.foldl_append, List.flatMap_append, List.flatMap_singleton]
      exact ih.trans (each _ count reached)

end Emits

section Senders

variable {env : Env cfg} {clientId : UInt16} {sender : World cfg}

/-- The configuration has room for a message. -/
def SdMessage.Fits (cfg : Config n) (clientId : UInt16) (message : SdMessage n) : Prop :=
  (message.encode clientId).length + crcSize ≤ maxMsgSize cfg

theorem sendSdBroadcast_traffic {message : SdMessage n}
    (room : message.Fits cfg sender.rt.sd.clientId) :
    (sender.sendSdBroadcast env message).traffic =
      (none, message.frame sender.rt.sd.clientId sender.rt.sdSeq) :: sender.traffic := by
  rw [World.sendSdBroadcast, if_neg (Nat.not_lt.mpr room), World.countRefusal_traffic,
    message.stampSd_frame sender.rt sender.rt.sd.clientId room]
  rfl

theorem sendSdUnicast_traffic (dest : Address n) {message : SdMessage n}
    (room : message.Fits cfg sender.rt.sd.clientId) :
    (sender.sendSdUnicast env dest message).traffic =
      (some dest, message.frame sender.rt.sd.clientId sender.rt.sdSeq) :: sender.traffic := by
  rw [World.sendSdUnicast, if_neg (Nat.not_lt.mpr room), World.countRefusal_traffic,
    message.stampSd_frame sender.rt sender.rt.sd.clientId room]
  rfl

theorem sendSdBroadcast_emits (roomy : 8 + n ≤ cfg.maxPayloadSize) (nonzero : clientId ≠ 0)
    (own : sender.rt.sd.clientId = clientId) (message : SdMessage n) :
    Emits sender (sender.sendSdBroadcast env message) [(none, message.deliver clientId)] := by
  apply Emits.single (sendSdBroadcast_traffic (message.fits roomy _))
  rw [own]
  exact message.frame_handledAs roomy nonzero _

theorem sendSdUnicast_emits (roomy : 8 + n ≤ cfg.maxPayloadSize) (nonzero : clientId ≠ 0)
    (own : sender.rt.sd.clientId = clientId) (dest : Address n) (message : SdMessage n) :
    Emits sender (sender.sendSdUnicast env dest message)
      [(some dest, message.deliver clientId)] := by
  apply Emits.single (sendSdUnicast_traffic dest (message.fits roomy _))
  rw [own]
  exact message.frame_handledAs roomy nonzero _

end Senders

namespace World

/-- Local calls leave discovery's client id alone. -/
theorem apiCall_sdClientId {env : Env cfg} (body : World cfg → World cfg) {call : ApiCall cfg}
    (isLocal : call.isLocal = true) (w : World cfg) :
    (w.apiCall env body call).2.rt.sd.clientId = w.rt.sd.clientId := by
  cases call with
  | request | fireAndForget | notifyEvent => cases isLocal
  | offerService serviceId ttl now =>
      obtain ⟨sd, written, offer⟩ := w.offerService_rt serviceId ttl now
      change (w.offerService serviceId ttl now).2.rt.sd.clientId = _
      rw [written]
      rcases offer with rfl | ⟨major, minor, rfl⟩
      · rfl
      · exact ServiceDiscovery.offer_clientId ..
  | enableDiagnostics now auth =>
      obtain ⟨_, _, sd, _, written, offer⟩ := w.enableDiagnostics_rt now auth
      change (w.enableDiagnostics now auth).2.rt.sd.clientId = _
      rw [written]
      rcases offer with rfl | ⟨major, minor, rfl⟩
      · rfl
      · exact ServiceDiscovery.offer_clientId ..
  | findService serviceId major now => exact ServiceDiscovery.find_clientId ..
  | subscribeEvent serviceId eventId context ttl now =>
      simp only [apiCall, subscribeEvent, registerEventHandler]
      cases Table.upsert (handlesEvent serviceId eventId)
          (fun _ => { serviceId, eventId, context }) { serviceId, eventId, context }
          (cfg.maxKnownServices * cfg.maxEvents) w.rt.eventHandlers with
      | none => rfl
      | some handlers => exact ServiceDiscovery.subscribeEvent_clientId ..
  | reportDtc code severity now =>
      exact congrArg ServiceDiscovery.clientId (w.reportDtc_sd code severity now)
  | _ => rfl

end World

theorem Atomic.sdClientId {env : Env cfg} {kind : StepKind} {before after : World cfg}
    (step : Atomic env kind before after) : after.rt.sd.clientId = before.rt.sd.clientId := by
  have same := step.frame.sd
  cases step with
  | @perform call isLocal => exact World.apiCall_sdClientId id isLocal before
  | sdWrite write => cases write <;> rfl
  | markRenewals => rfl
  | _ => rw [same (by simp)]

/-- The client id a device speaks under never changes. -/
theorem Steps.clientIds {env : Env cfg} {before after : World cfg}
    (steps : Steps env before after) : after.rt.clientId = before.rt.clientId ∧
      after.rt.sd.clientId = before.rt.sd.clientId := by
  induction steps with
  | refl => exact ⟨rfl, rfl⟩
  | tail _ step ih =>
      obtain ⟨kind, step⟩ := step
      exact ⟨step.frame.clientId.trans ih.1, step.sdClientId.trans ih.2⟩

open World

/-- An offer arrives with the values of its entry. -/
def ProviderEntry.arrives (localAddr : Address n) (entry : ProviderEntry) : Handling cfg :=
  fun env _ nowMs receiver =>
    receiver.handleOffer env
      { serviceId := entry.serviceId
        majorVersion := entry.majorVersion
        minorVersion := entry.minorVersion
        ttlSeconds := entry.ttlSeconds
        sessionId := entry.sessionId
        providerAddr := localAddr } nowMs

/-- A question for a service arrives with its id and where it came from. -/
def findArrives (serviceId : UInt16) : Handling cfg :=
  fun env source _ receiver => receiver.handleFind env source serviceId

/-- The ids of a slot's service if its search is due. -/
def searched (nowMs : UInt32) (sender : World cfg) (index : Nat) : List UInt16 :=
  (sender.rt.sd.consumers[index]?.toList.filter fun entry =>
    decide (entry.state = .searching) && timeAfterOrEq nowMs entry.nextRetryMs).map
      ConsumerEntry.serviceId

namespace SubTracker

/-- A subscription is asked for at first, at half the granted lease, and up to twice more
when no answer has come. -/
def Due (cfg : Config n) (nowMs : UInt32) (tracker : SubTracker) : Prop :=
  tracker.needsSend = true ∨
  tracker.grantedTtl > 0 ∧
    timeAfterOrEq nowMs (tracker.lastSentMs + tracker.grantedTtl.toUInt32 * 500) = true ∨
  ¬tracker.grantedTtl > 0 ∧ tracker.ackRetryCount < 2 ∧ timeAfterOrEq nowMs
    (tracker.lastSentMs + cfg.subscriptionTtlSeconds.toUInt32 * 1000) = true

instance (cfg : Config n) (nowMs : UInt32) (tracker : SubTracker) :
    Decidable (tracker.Due cfg nowMs) :=
  inferInstanceAs (Decidable (_ ∨ _))

/-- What a tracker asks of its provider arrives with the tracker's values and the
subscriber's client id. -/
def arrives (cfg : Config n) (clientId : UInt16) (nowMs : UInt32) (tracker : SubTracker) :
    Option (Handling cfg) :=
  if tracker.needsUnsubscribe then
    some fun _ _ _ receiver =>
      { receiver with rt := { receiver.rt with
        eventManager := receiver.rt.eventManager.unsubscribe tracker.serviceId
          tracker.eventId clientId } }
  else if tracker.Due cfg nowMs then
    some fun env source nowMs receiver =>
      receiver.handleSubscribeRequest env source { clientId }
        { serviceId := tracker.serviceId
          eventId := tracker.eventId
          ttlSeconds := tracker.requestedTtl } nowMs
  else none

theorem renewTracker_arrives (clientId : UInt16) (nowMs : UInt32) (tracker : SubTracker) :
    (renewTracker cfg nowMs tracker).1.map (fun message => message.deliver clientId) =
      tracker.arrives cfg clientId nowMs := by
  rw [renewTracker, arrives]
  split
  · rfl
  · by_cases due : tracker.Due cfg nowMs
    · rw [if_pos due]
      rcases due with first | ⟨granted, halfway⟩ | ⟨unanswered, left, late⟩
      · rw [if_pos first]
        rfl
      · rw [if_pos granted, if_pos halfway]
        split <;> rfl
      · rw [if_neg unanswered, if_pos late, if_pos left]
        split <;> rfl
    · rw [if_neg due]
      obtain ⟨sent, notHalfway, notLate⟩ : ¬tracker.needsSend = true ∧ _ ∧ _ := by
        simpa only [Due, not_or] using due
      rw [if_neg sent]
      split
      · next granted =>
          rw [if_neg fun halfway => notHalfway ⟨granted, halfway⟩]
          rfl
      · next unanswered =>
          split
          · next late =>
              rw [if_neg fun left => notLate ⟨unanswered, left, late⟩]
              rfl
          · rfl

/-- An active subscription of a service that has been found asks its provider. -/
def renewal (sd : ServiceDiscovery cfg) (clientId : UInt16) (nowMs : UInt32)
    (tracker : SubTracker) : Option (Option (Address n) × Handling cfg) :=
  if tracker.active then
    (sd.getProviderAddress tracker.serviceId).bind fun provider =>
      (tracker.arrives cfg clientId nowMs).map fun handling => (some provider, handling)
  else none

theorem renewal_eq (sd : ServiceDiscovery cfg) (clientId : UInt16) (nowMs : UInt32)
    (tracker : SubTracker) :
    SubTracker.renewal sd clientId nowMs tracker =
      (sd.renew nowMs tracker).1.map fun send => (some send.1, send.2.deliver clientId) := by
  rw [renewal, renew]
  cases tracker.active with
  | false => rfl
  | true =>
      cases sd.getProviderAddress tracker.serviceId with
      | none => rfl
      | some provider =>
          simp only [if_true, Option.bind_some, ← renewTracker_arrives, Option.map_map]
          rfl

end SubTracker

/-- What each operation of a sending device that emits discovery frames emits. -/
structure FramesAgree (env : Env cfg) (clientId : UInt16) (sender : World cfg) : Prop where
  offers : ∀ nowMs, Emits sender (sender.broadcastOffers env nowMs)
    ((sender.rt.sd.providers.filter fun entry => ProviderEntry.shouldSend entry nowMs).map
      fun entry => (none, ProviderEntry.arrives sender.rt.sd.localAddr entry))
  findReplies : ∀ requester serviceId, Emits sender (sender.handleFind env requester serviceId)
    ((sender.rt.sd.providers.filter fun entry => decide (entry.state = .offered ∧
        (serviceId = 0xFFFF ∨ entry.serviceId = serviceId))).map fun entry =>
      (some requester, ProviderEntry.arrives sender.rt.sd.localAddr entry))
  find : ∀ nowMs index, Emits sender (processFind sdLens (sdHooks env) nowMs sender index)
    ((searched nowMs sender index).map fun serviceId => (none, findArrives serviceId))
  finds : ∀ nowMs, Emits sender (processFinds sdLens (sdHooks env) nowMs sender)
    (((List.range cfg.maxKnownServices).flatMap fun index =>
        searched nowMs ((List.range index).foldl
          (processFind sdLens (sdHooks env) nowMs) sender) index).map
      fun serviceId => (none, findArrives serviceId))
  renewals : ∀ nowMs, Emits sender (sender.renewSubscriptions env nowMs)
    (sender.rt.sd.subTrackers.filterMap fun tracker =>
      SubTracker.renewal sender.rt.sd clientId nowMs tracker)
  acks : ∀ source hdr request nowMs,
    let result := (sender.rt.eventManager.subscribe request.serviceId request.eventId
      hdr.clientId source request.ttlSeconds nowMs).1
    let grantedTtl :=
      if result = .eOk then
        if request.ttlSeconds > 0 then request.ttlSeconds else cfg.subscriptionTtlSeconds
      else 0
    Emits sender (sender.handleSubscribeRequest env source hdr request nowMs)
      [(some source, fun env _ _ => handleSubscribeAck sdLens (sdHooks env) request.serviceId
        request.eventId result grantedTtl)]

section Operations

variable {env : Env cfg} {clientId : UInt16} {sender : World cfg}
variable (roomy : 8 + n ≤ cfg.maxPayloadSize) (nonzero : clientId ≠ 0)
variable (own : sender.rt.sd.clientId = clientId)

include roomy nonzero own

theorem broadcastOffers_emits (nowMs : UInt32) :
    Emits sender (sender.broadcastOffers env nowMs)
      ((sender.rt.sd.processOffers nowMs).1.map fun message =>
        (none, message.deliver clientId)) := by
  let marked : World cfg :=
    { sender with rt := { sender.rt with sd := (sender.rt.sd.processOffers nowMs).2 } }
  have emitted : Emits marked _ _ := Emits.foldl (fun w message same =>
    ⟨@sendSdBroadcast_emits _ _ env _ _ roomy nonzero same message,
      (sendSdBroadcast_core message w).sd⟩) (sender.rt.sd.processOffers nowMs).1 own
  exact emitted

theorem unicasts_emit (dest : Address n) (messages : List (SdMessage n)) :
    Emits sender (messages.foldl (fun w message => w.sendSdUnicast env dest message) sender)
      (messages.map fun message => (some dest, message.deliver clientId)) :=
  Emits.foldl (fun w message same =>
    ⟨sendSdUnicast_emits roomy nonzero same dest message,
      (sendSdUnicast_core dest message w).sd⟩) messages own

theorem renewSubscriptions_emits (nowMs : UInt32) :
    Emits sender (sender.renewSubscriptions env nowMs)
      ((sender.rt.sd.processSubscriptionRenewals nowMs).1.map fun send =>
        (some send.1, send.2.deliver clientId)) := by
  have same : (sender.markRenewals nowMs).rt.sd.clientId = clientId := own
  have marked : Emits sender (sender.markRenewals nowMs) [] := .silent (traffic_emit rfl _)
  rw [renewSubscriptions]
  apply marked.trans
  apply Emits.foldl _ _ same
  intro w send same
  exact ⟨sendSdUnicast_emits roomy nonzero same send.1 send.2,
    (sendSdUnicast_core send.1 send.2 w).sd⟩

theorem processFind_emits (nowMs : UInt32) (index : Nat) :
    Emits sender (processFind sdLens (sdHooks env) nowMs sender index)
      ((searched nowMs sender index).map fun serviceId => (none, findArrives serviceId)) := by
  rw [processFind, searched, sdLens_get, List.map_map]
  cases sender.rt.sd.consumers[index]? with
  | none => exact Emits.silent rfl
  | some entry =>
      by_cases due : entry.state = .searching ∧ timeAfterOrEq nowMs entry.nextRetryMs = true
      · have sent : Emits sender ((sdHooks env).broadcast (.find entry.serviceId) sender) _ :=
          sendSdBroadcast_emits roomy nonzero own (.find entry.serviceId)
        have isDue : (decide (entry.state = .searching) &&
            timeAfterOrEq nowMs entry.nextRetryMs) = true := by
          simpa using due
        dsimp only
        rw [if_pos due, Option.toList_some, List.filter_cons_of_pos (by exact isDue)]
        rw [← List.append_nil (List.map _ _)]
        apply sent.trans
        split
        · exact .silent ((callServiceLost_steps _ _).traffic.trans (modify_traffic _ _))
        · exact .silent (modify_traffic _ _)
      · have notDue : (decide (entry.state = .searching) &&
            timeAfterOrEq nowMs entry.nextRetryMs) = false := by
          simpa using due
        dsimp only
        rw [if_neg due, Option.toList_some, List.filter_cons_of_neg (by rw [notDue]; simp)]
        exact Emits.silent rfl

theorem processFinds_emits (nowMs : UInt32) :
    Emits sender (processFinds sdLens (sdHooks env) nowMs sender)
      (((List.range cfg.maxKnownServices).flatMap fun index =>
          searched nowMs ((List.range index).foldl
            (processFind sdLens (sdHooks env) nowMs) sender) index).map
        fun serviceId => (none, findArrives serviceId)) := by
  have keeps (w : World cfg) (index : Nat) (same : w.rt.sd.clientId = clientId) :
      (processFind sdLens (sdHooks env) nowMs w index).rt.sd.clientId = clientId :=
    (processFind_steps nowMs w index).clientIds.2.trans same
  have each (w : World cfg) (index : Nat) (same : w.rt.sd.clientId = clientId) :
      Emits w (processFind sdLens (sdHooks env) nowMs w index)
        ((searched nowMs w index).map fun serviceId => (none, findArrives serviceId)) :=
    processFind_emits roomy nonzero same nowMs index
  rw [List.map_flatMap]
  exact Emits.foldl_range keeps each own cfg.maxKnownServices

theorem findReplies_emit (requester : Address n) (serviceId : UInt16) :
    Emits sender (sender.handleFind env requester serviceId)
      ((sender.rt.sd.handleFind serviceId).map fun message =>
        (some requester, message.deliver clientId)) := by
  have same : (sender.resetPeer requester).rt.sd.clientId = clientId := own
  have reset : Emits sender (sender.resetPeer requester) [] := .silent (traffic_emit rfl _)
  exact reset.trans (unicasts_emit roomy nonzero same requester _)

end Operations

/-- Whatever state the sender has reached, also in the middle of an operation, what it
emits means the same at the other end. -/
theorem frames_agree (env : Env cfg) (roomy : 8 + n ≤ cfg.maxPayloadSize) {clientId : UInt16}
    (nonzero : clientId ≠ 0) {sender : World cfg}
    (steps : Steps env (World.initial cfg clientId) sender) :
    FramesAgree env clientId sender := by
  obtain ⟨headerId, own⟩ := steps.clientIds
  change sender.rt.clientId = clientId at headerId
  change sender.rt.sd.clientId = clientId at own
  constructor
  · intro nowMs
    have emitted := @broadcastOffers_emits _ _ env _ _ roomy nonzero own nowMs
    rw [processOffers, List.map_map] at emitted
    exact emitted
  · intro requester serviceId
    have emitted := @findReplies_emit _ _ env _ _ roomy nonzero own requester serviceId
    rw [ServiceDiscovery.handleFind, List.map_map] at emitted
    simp only [Bool.decide_and, Bool.decide_or]
    exact emitted
  · exact processFind_emits roomy nonzero own
  · exact processFinds_emits roomy nonzero own
  · intro nowMs
    have emitted := @renewSubscriptions_emits _ _ env _ _ roomy nonzero own nowMs
    rw [processSubscriptionRenewals, List.map_filterMap] at emitted
    simpa only [SubTracker.renewal_eq] using emitted
  · intro source hdr request nowMs result grantedTtl
    rw [← headerId] at nonzero
    apply Emits.single (countRefusal_traffic _ _)
    exact ackFrame_handledAs (Nat.le_trans (Nat.le_add_right 8 n) roomy) nonzero result
      request.serviceId request.eventId grantedTtl

/-- A device that offers a service. -/
def offeringDevice : World embeddedConfig :=
  run (.benign _)
    [.api (.registerService 0x1000 0 1 0 false), .api (.offerService 0x1000 5 0)]
    (World.initial _ 1)

theorem frames_agree_offering : FramesAgree (.benign _) 1 offeringDevice :=
  frames_agree (.benign _) (by decide) (by decide) (run_steps _ _)

end Sero
