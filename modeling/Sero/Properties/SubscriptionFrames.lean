import Sero.Properties.DiscoveryFrames
import Sero.Runtime.DiscoverySteps

/-!
# Subscriptions on the wire

Which event a discovery frame asks for or gives up, and what an acknowledgement grants.
Both are read off the bytes, as whoever watches the network would.
-/

namespace Sero

open Library ServiceDiscovery

variable {n : Nat} {cfg : Config n}

/-- The subscription of a discovery frame with one of these methods. -/
def subscribeFields (methods : List SdMethod) (data : Bytes) : Option SdPayload.Subscribe :=
  let hdr := MessageHeader.deserialize data
  if hdr.serviceId = sdServiceId ∧ hdr.methodEventId ∈ methods.map SdMethod.toId then
    SdPayload.deserializeSubscribe (payloadOf hdr data)
  else none

/-- Does a frame ask for an event, or give it up? -/
def asksFor (serviceId eventId : UInt16) (data : Bytes) : Bool :=
  (subscribeFields [.subscribeEvent, .unsubscribe] data).any fun request =>
    request.serviceId == serviceId && request.eventId == eventId

/-- What an acknowledgement carries. -/
def ackIn (data : Bytes) : Option (ReturnCode × SdPayload.Subscribe) :=
  (subscribeFields [.subscribeAck] data).map fun granted =>
    (⟨(MessageHeader.deserialize data).returnCode⟩, granted)

theorem payloadOf_serializeSubscribe {hdr : MessageHeader} (declared : hdr.payloadLength = 8)
    (serviceId eventId ttlSeconds : UInt16) :
    payloadOf hdr (messageFrame hdr
      (SdPayload.serializeSubscribe serviceId eventId ttlSeconds) []) =
        SdPayload.serializeSubscribe serviceId eventId ttlSeconds := by
  apply payloadOf_messageFrame
  rw [declared]
  rfl

/-- A frame of a message asks for an event only as the message does. -/
theorem asksFor_frame {serviceId eventId clientId : UInt16} {sequenceCounter : UInt8}
    {message : SdMessage n}
    (asks : asksFor serviceId eventId (message.frame clientId sequenceCounter) = true) :
    (∃ ttlSeconds, message = .subscribeEvent serviceId eventId ttlSeconds) ∨
      message = .unsubscribe serviceId eventId := by
  rw [asksFor, subscribeFields, SdMessage.frame, deserialize_messageFrame] at asks
  cases message with
  | offer | find => cases asks
  | subscribeEvent service event ttl =>
      rw [if_pos ⟨rfl, .head _⟩, SdMessage.payload, payloadOf_serializeSubscribe rfl,
        SdPayload.deserializeSubscribe_serializeSubscribe, Option.any_some, Bool.and_eq_true,
        beq_iff_eq, beq_iff_eq] at asks
      obtain ⟨rfl, rfl⟩ := asks
      exact .inl ⟨ttl, rfl⟩
  | unsubscribe service event =>
      rw [if_pos ⟨rfl, .tail _ (.head _)⟩, SdMessage.payload, payloadOf_serializeSubscribe rfl,
        SdPayload.deserializeSubscribe_serializeSubscribe, Option.any_some, Bool.and_eq_true,
        beq_iff_eq, beq_iff_eq] at asks
      obtain ⟨rfl, rfl⟩ := asks
      exact .inr rfl

theorem asksFor_subscribe (serviceId eventId ttlSeconds clientId : UInt16)
    (sequenceCounter : UInt8) :
    asksFor serviceId eventId ((SdMessage.subscribeEvent (n := n) serviceId eventId
      ttlSeconds).frame clientId sequenceCounter) = true := by
  rw [asksFor, subscribeFields, SdMessage.frame, deserialize_messageFrame]
  rw [if_pos ⟨rfl, .head _⟩, SdMessage.payload, payloadOf_serializeSubscribe rfl,
    SdPayload.deserializeSubscribe_serializeSubscribe, Option.any_some, beq_self_eq_true,
    beq_self_eq_true, Bool.and_true]

variable {rt : Runtime cfg} {result : ReturnCode} {serviceId eventId grantedTtl : UInt16}

/-- An acknowledgement carries what its sender put in. -/
theorem ackIn_ackFrame :
    ackIn ((World.ackFrame rt result serviceId eventId grantedTtl).1.bytes.take
        (World.ackFrame rt result serviceId eventId grantedTtl).2) =
      some (result, ⟨serviceId, eventId, grantedTtl⟩) := by
  rw [World.ackFrame_eq, ackIn, subscribeFields, deserialize_messageFrame]
  rw [if_pos ⟨rfl, .head _⟩, payloadOf_serializeSubscribe rfl,
    SdPayload.deserializeSubscribe_serializeSubscribe]
  rfl

theorem asksFor_ackFrame (wantedService wantedEvent : UInt16) :
    asksFor wantedService wantedEvent
      ((World.ackFrame rt result serviceId eventId grantedTtl).1.bytes.take
        (World.ackFrame rt result serviceId eventId grantedTtl).2) = false := by
  rw [World.ackFrame_eq, asksFor, subscribeFields, deserialize_messageFrame]
  rfl

/-- The acknowledgement a subscription is answered with. -/
theorem World.handleSubscribeRequest_traffic {env : Env cfg} {source : Address n}
    {hdr : MessageHeader} {request : SdPayload.Subscribe} {nowMs : UInt32} {w : World cfg} :
    (w.handleSubscribeRequest env source hdr request nowMs).traffic =
      let result := (w.rt.eventManager.subscribe request.serviceId request.eventId hdr.clientId
        source request.ttlSeconds nowMs).1
      let granted :=
        if result = .eOk then EventManager.grantedTtl cfg request.ttlSeconds else 0
      let ack := ackFrame w.rt result request.serviceId request.eventId granted
      (some source, ack.1.bytes.take ack.2) :: w.traffic :=
  countRefusal_traffic _ _

/-! ## Handling them -/

/-- A discovery frame without a tag that passes the checks is handled as what it asks. -/
theorem World.receive_heard {env : Env cfg} {source : Address n} {data : Bytes}
    {request : SdRequest n} (hears : heard cfg source data = some request)
    (unsigned : (MessageHeader.deserialize data).hasAuth = false) (nowMs : UInt32)
    (w : World cfg) :
    w.validateAndDispatch env source data nowMs =
      request.handle env nowMs (w.arrived source data) := by
  rw [heard] at hears
  split at hears
  · cases hears
  · next hdr checked =>
      split at hears
      · next sd =>
          rw [← (checkFrame_ok_iff.mp checked).header] at unsigned
          have authentic : (w.emit (.received source data)).checkAuth source data hdr = true := by
            rw [checkAuth, if_neg (by simp [unsigned]), if_pos sd]
          have validated : w.validate source data = (some hdr, w.arrived source data) := by
            rw [validate, checked]
            simp only [checkSequence, if_pos sd]
            rw [if_pos authentic]
            rfl
          rw [validateAndDispatch, validated]
          simp only [dispatchMessage, if_pos sd, handleSdMessage_eq, hears]
      · cases hears

/-- A discovery frame that is heard at all is heard as what its payload says. -/
theorem heard_messageFrame {source : Address n} {hdr : MessageHeader} {payload : Bytes}
    (declared : hdr.payloadLength.toNat = payload.length) (sd : hdr.serviceId = sdServiceId)
    (hears : (heard cfg source (messageFrame hdr payload [])).isSome) :
    heard cfg source (messageFrame hdr payload []) = SdRequest.decode source hdr payload := by
  rw [heard] at hears ⊢
  split at hears
  · cases hears
  · next header checked =>
      have same : header = hdr :=
        (checkFrame_ok_iff.mp checked).header.trans (deserialize_messageFrame _ _ _)
      subst same
      rw [payloadOf_messageFrame declared]
      exact if_pos sd

theorem heard_subscribe {source : Address n} {serviceId eventId ttlSeconds clientId : UInt16}
    {sequenceCounter : UInt8} {message : SdMessage n}
    (asks : message = .subscribeEvent serviceId eventId ttlSeconds)
    (hears : (heard cfg source (message.frame clientId sequenceCounter)).isSome) :
    heard cfg source (message.frame clientId sequenceCounter) =
      some (.subscribe source (message.header clientId sequenceCounter)
        ⟨serviceId, eventId, ttlSeconds⟩) := by
  subst asks
  have method : SdMethod.ofId SdMethod.subscribeEvent.toId = some .subscribeEvent :=
    SdMethod.ofId_toId _
  refine (heard_messageFrame rfl rfl hears).trans ?_
  rw [SdRequest.decode, SdMessage.header, SdMessage.method, method, SdMessage.payload]
  simp only [SdPayload.deserializeSubscribe_serializeSubscribe, Option.map_some]

theorem heard_ack {receiver : Config n} {source : Address n} {frame : Bytes}
    (answers : frame = (World.ackFrame rt result serviceId eventId grantedTtl).1.bytes.take
      (World.ackFrame rt result serviceId eventId grantedTtl).2)
    (hears : (heard receiver source frame).isSome) :
    heard receiver source frame = some (.ack result ⟨serviceId, eventId, grantedTtl⟩) := by
  rw [answers, World.ackFrame_eq] at hears ⊢
  have method : SdMethod.ofId SdMethod.subscribeAck.toId = some .subscribeAck :=
    SdMethod.ofId_toId _
  refine (heard_messageFrame rfl rfl hears).trans ?_
  rw [SdRequest.decode, World.ackHeader, method]
  simp only [SdPayload.deserializeSubscribe_serializeSubscribe, Option.map_some]

end Sero
