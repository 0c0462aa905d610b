import Sero.Runtime.Api

/-!
# Receiving

The validation pipeline and the handlers behind it.
-/

namespace Sero

open Library

variable {n : Nat} {cfg : Config n}

/-! ## Validation -/

/-- The bytes a diagnostic callback is shown. -/
def rawHeader (data : Bytes) : Bytes :=
  data.take headerSize

/-- The total size a header declares. -/
def MessageHeader.expectedSize (hdr : MessageHeader) : Nat :=
  headerSize + hdr.payloadLength.toNat + (if hdr.hasAuth then hmacSize else 0) + crcSize

/-- The payload of a datagram with this header. -/
def payloadOf (hdr : MessageHeader) (data : Bytes) : Bytes :=
  (data.drop headerSize).take hdr.payloadLength.toNat

/-- The 16 bytes behind the payload. -/
def tagOf (hdr : MessageHeader) (data : Bytes) : Bytes :=
  (data.drop (headerSize + hdr.payloadLength.toNat)).take hmacSize

/-- Steps 1 to 7.  They read the datagram only; a failed check names the counter
it increments and the header it reports. -/
def checkFrame (cfg : Config n) (data : Bytes) :
    Except (DiagnosticCounter × Option Bytes) MessageHeader :=
  if data.length < minMessageSize then .error (.droppedMessages, none)
  else if !crc16Verify data then
    .error (.crcErrors, if headerSize ≤ data.length then some (rawHeader data) else none)
  else
    let hdr := MessageHeader.deserialize data
    if hdr.version ≠ protocolVersion then
      .error (.versionMismatches, some (rawHeader data))
    else if cfg.maxPayloadSize < hdr.payloadLength.toNat then
      .error (.oversizedPayloads, some (rawHeader data))
    else if data.length < hdr.expectedSize then
      .error (.droppedMessages, some (rawHeader data))
    else if !isValidMessageType hdr.messageType then
      .error (.unknownMessageTypes, some (rawHeader data))
    else if !hdr.validateTypeIdConsistency then
      .error (.typeIdMismatches, some (rawHeader data))
    else if !hdr.validateClientId then
      .error (.droppedMessages, some (rawHeader data))
    else .ok hdr

/-- What steps 1 to 7 establish. -/
structure FrameChecked (cfg : Config n) (data : Bytes) (hdr : MessageHeader) : Prop where
  header : hdr = MessageHeader.deserialize data
  crc : crc16Verify data = true
  version : hdr.version = protocolVersion
  payloadLength : hdr.payloadLength.toNat ≤ cfg.maxPayloadSize
  size : hdr.expectedSize ≤ data.length
  messageType : isValidMessageType hdr.messageType = true
  typeId : hdr.validateTypeIdConsistency = true
  clientId : hdr.validateClientId = true

theorem checkFrame_ok_iff {data : Bytes} {hdr : MessageHeader} :
    checkFrame cfg data = .ok hdr ↔ FrameChecked cfg data hdr := by
  constructor
  · intro checked
    unfold checkFrame at checked
    split at checked
    · cases checked
    · simp only at checked
      repeat' split at checked
      all_goals cases checked
      next crc version payloadLength size messageType typeId clientId =>
        simp only [Bool.not_eq_true', Bool.not_eq_false, ne_eq, Decidable.not_not,
          Nat.not_lt] at *
        exact ⟨rfl, crc, version, payloadLength, size, messageType, typeId, clientId⟩
  · rintro ⟨rfl, crc, version, payloadLength, size, messageType, typeId, clientId⟩
    have long : ¬data.length < minMessageSize := by
      have least : minMessageSize ≤ (MessageHeader.deserialize data).expectedSize := by
        simp only [minMessageSize, MessageHeader.expectedSize]
        omega
      omega
    simp [checkFrame, long, crc, version, Nat.not_lt.mpr payloadLength,
      Nat.not_lt.mpr size, messageType, typeId, clientId]

theorem FrameChecked.payload_length {data : Bytes} {hdr : MessageHeader}
    (checked : FrameChecked cfg data hdr) :
    (payloadOf hdr data).length = hdr.payloadLength.toNat := by
  have size := checked.size
  simp only [MessageHeader.expectedSize] at size
  simp only [payloadOf, List.length_take, List.length_drop]
  omega

theorem FrameChecked.tag_length {data : Bytes} {hdr : MessageHeader}
    (checked : FrameChecked cfg data hdr) (auth : hdr.hasAuth = true) :
    (tagOf hdr data).length = hmacSize := by
  have size := checked.size
  simp only [MessageHeader.expectedSize, auth, if_true] at size
  simp only [tagOf, List.length_take, List.length_drop]
  omega

namespace World

/-- `validate_sequence` and the observation of its verdict. -/
def sequenceVerdict (source : Address n) (data : Bytes) (sequenceCounter : UInt8)
    (w : World cfg) : SeqResult × World cfg :=
  let (result, e2e) := w.rt.e2e.validateSequence source sequenceCounter
  (result, World.emit (.verdict source data result) { w with rt := { w.rt with e2e } })

/-- Step 8.  Discovery messages are not sequence-checked. -/
def checkSequence (source : Address n) (data : Bytes) (hdr : MessageHeader)
    (w : World cfg) : Bool × World cfg :=
  if hdr.serviceId = sdServiceId then (true, w)
  else
    match w.sequenceVerdict source data hdr.sequenceCounter with
    | (.duplicate, w) => (false, w.increment .duplicateMessages (some (rawHeader data)))
    | (.stale, w) => (false, w.increment .staleMessages (some (rawHeader data)))
    | (.accept, w) => (true, w)
    | (.firstSeen, w) => (true, w)
    | (.tableFull, w) => (true, w.increment .droppedMessages (some (rawHeader data)))

/-- Step 9: the tag verifies, or there is none and none is required. -/
def checkAuth (source : Address n) (data : Bytes) (hdr : MessageHeader) (w : World cfg) :
    Bool :=
  if hdr.hasAuth then
    w.rt.authenticator.verify (rawHeader data) (payloadOf hdr data) source (tagOf hdr data)
  else if hdr.serviceId = sdServiceId then true
  else
    match w.rt.dispatcher.find hdr.serviceId with
    | some entry => !entry.authRequired
    | none => true

/-- Steps 1 to 9: the header of a datagram that is not discarded. -/
def validate (source : Address n) (data : Bytes) (w : World cfg) :
    Option MessageHeader × World cfg :=
  let w := w.emit (.received source data)
  match checkFrame cfg data with
  | .error (counter, header) => (none, w.increment counter header)
  | .ok hdr =>
      match w.checkSequence source data hdr with
      | (false, w) => (none, w)
      | (true, w) =>
          if w.checkAuth source data hdr then (some hdr, w.emit (.dispatched source data))
          else (none, w.increment .authFailures (some (rawHeader data)))

/-- Step 8 stops exactly the duplicates and the stale. -/
theorem checkSequence_fst (source : Address n) (data : Bytes) (hdr : MessageHeader)
    (w : World cfg) :
    (w.checkSequence source data hdr).1 = true ↔
      hdr.serviceId = sdServiceId ∨
      (w.rt.e2e.validateSequence source hdr.sequenceCounter).1.passes = true := by
  unfold checkSequence
  split
  · next sd => simp [sd]
  · next notSd =>
      have result : (w.sequenceVerdict source data hdr.sequenceCounter).1 =
          (w.rt.e2e.validateSequence source hdr.sequenceCounter).1 := rfl
      rcases verdict : w.sequenceVerdict source data hdr.sequenceCounter with ⟨outcome, after⟩
      rw [verdict] at result
      rw [← result]
      cases outcome <;> simp [notSd, SeqResult.passes]

/-- What passes validation has passed its checks. -/
theorem validate_some {source : Address n} {data : Bytes} {hdr : MessageHeader}
    {w : World cfg} (passes : (w.validate source data).1 = some hdr) :
    FrameChecked cfg data hdr ∧
      (hdr.serviceId = sdServiceId ∨
        (w.rt.e2e.validateSequence source hdr.sequenceCounter).1.passes = true) := by
  rw [validate] at passes
  cases checked : checkFrame cfg data with
  | error failure =>
      rw [checked] at passes
      cases passes
  | ok parsed =>
      rw [checked] at passes
      have sequence := checkSequence_fst source data parsed (w.emit (.received source data))
      rcases outcome : (w.emit (.received source data)).checkSequence source data parsed with
        ⟨proceed, after⟩
      rw [outcome] at sequence
      simp only [outcome] at passes
      cases proceed with
      | false => cases passes
      | true =>
          simp only at passes
          split at passes
          · cases passes
            exact ⟨checkFrame_ok_iff.mp checked, sequence.mp rfl⟩
          · cases passes

variable (env : Env cfg)

/-! ## Requests and replies -/

/-- `on_request_fn`.  Without a response buffer the capacity is `none` and nothing
is written. -/
def callHandler (entry : ServiceEntry) (methodId : UInt16) (payload : Bytes)
    (capacity : Option Nat) (w : World cfg) : HandlerResult cfg × World cfg :=
  let w := w.emit (.onRequest entry w.rt.authenticator methodId payload capacity)
  match entry.context with
  | .application context =>
      let result := env.onRequest w.history context methodId payload
      (result, result.calls.run env w)
  | .diagnostics =>
      let result := w.rt.diagService.onRequest w.rt.diag w.rt.dispatcher (w.isReady env)
        w.rt.uptimeMs methodId payload (capacity.getD 0) w.rt.dtcStore
      ({ code := result.code
         writes := [(0, result.written)]
         responseLength := result.responseLength },
        { w with rt := { w.rt with dtcStore := result.dtcStore } })

/-- `MethodDispatcher::dispatch` into the response buffer: the return code and the
response length. -/
def dispatch (serviceId methodId : UInt16) (payload : Bytes) (w : World cfg) :
    (ReturnCode × Nat) × World cfg :=
  match w.rt.dispatcher.find serviceId with
  | none => ((.eUnknownService, cfg.maxPayloadSize), w)
  | some entry =>
      if w.isReady env entry.context then
        let (result, w) :=
          w.callHandler env entry methodId payload (some cfg.maxPayloadSize)
        ((result.code, result.responseLength),
          { w with rt := { w.rt with
            responseBuffer := w.rt.responseBuffer.writeAll result.writes } })
      else ((.eNotReady, cfg.maxPayloadSize), w)

def makeReplyHeader (hdr : MessageHeader) (rc : ReturnCode) (responseLength : Nat)
    (auth : Bool) : MessageHeader where
  messageType :=
    if rc = .eOk then MessageType.response.toByte else MessageType.error.toByte
  returnCode := rc.toByte
  flags := if auth then flagAuth else 0
  serviceId := hdr.serviceId
  methodEventId := hdr.methodEventId
  clientId := hdr.clientId
  requestId := hdr.requestId
  payloadLength := if rc = .eOk then UInt32.ofNat responseLength else 0

/-- The bytes an execution hands to its reply. -/
def responseOf (rt : Runtime cfg) (rc : ReturnCode) (responseLength : Nat) : Bytes :=
  if rc = .eOk then rt.responseBuffer.bytes.take responseLength else []

/-- The second half of `handle_request`: build and send the response or error. -/
def sendReply (source : Address n) (hdr : MessageHeader) (payload : Bytes)
    (rc : ReturnCode) (responseLength : Nat) (w : World cfg) : World cfg :=
  let w := w.emit (.executed source hdr.requestId hdr.serviceId hdr.methodEventId payload
    rc (responseOf w.rt rc responseLength))
  let auth := w.rt.shouldAuthOutgoing source
  let replyPayload := if rc = .eOk then some w.rt.responseBuffer.bytes else none
  let replyLength := if rc = .eOk then responseLength else 0
  let (ok, w) := w.transmit env .reply source
    (makeReplyHeader hdr rc responseLength auth) replyPayload replyLength auth
  w.countRefusal ok

/-- What `sendReply` observes and draws. -/
theorem sendReply_spec (source : Address n) (hdr : MessageHeader) (payload : Bytes)
    (rc : ReturnCode) (responseLength : Nat) (w : World cfg) :
    let auth := w.rt.shouldAuthOutgoing source
    ∃ after ok, w.sendReply env source hdr payload rc responseLength =
        World.countRefusal ok after ∧
      after.rt = { w.rt with e2e := w.rt.e2e.nextSequence.2, txBuffer := after.rt.txBuffer } ∧
      after.history =
        .sent .reply source
          (w.rt.builtFrame
            { makeReplyHeader hdr rc responseLength auth with
              sequenceCounter := w.rt.e2e.nextSequence.1 }
            (if rc = .eOk then some w.rt.responseBuffer.bytes else none)
            (if rc = .eOk then responseLength else 0) auth source) ok ::
        .executed source hdr.requestId hdr.serviceId hdr.methodEventId payload rc
          (responseOf w.rt rc responseLength) ::
        w.history :=
  ⟨_, _, rfl, rfl, rfl⟩

def handleRequest (source : Address n) (hdr : MessageHeader) (payload : Bytes)
    (w : World cfg) : World cfg :=
  let ((rc, responseLength), w) :=
    w.dispatch env hdr.serviceId hdr.methodEventId payload
  w.sendReply env source hdr payload rc responseLength

def handleFireAndForget (hdr : MessageHeader) (payload : Bytes) (w : World cfg) :
    World cfg :=
  match w.rt.dispatcher.find hdr.serviceId with
  | none => w.increment .droppedMessages none
  | some entry =>
      if w.isReady env entry.context then
        (w.callHandler env entry hdr.methodEventId payload none).2
      else w

/-- Both `handle_response` and `handle_error`. -/
def handleReply (hdr : MessageHeader) (payload : Bytes) (w : World cfg) : World cfg :=
  (RequestTracker.complete trackerLens (invokeRequest .reply (react env)) hdr.requestId
    ⟨hdr.returnCode⟩ payload w).2

def handleNotification (hdr : MessageHeader) (payload : Bytes) (w : World cfg) :
    World cfg :=
  match w.findEventHandler hdr.serviceId hdr.methodEventId with
  | none => w
  | some entry =>
      w.callback env (.event entry.context hdr.serviceId hdr.methodEventId payload)

/-! ## Service discovery -/

/-- How discovery reaches the transport and the application. -/
def sdHooks : ServiceDiscovery.Hooks n (World cfg) where
  broadcast := sendSdBroadcast env
  onPeerExpired := resetPeer
  onServiceFound serviceId provider := callback env (.serviceFound serviceId provider)
  onServiceLost serviceId := callback env (.serviceLost serviceId)
  onSubscriptionAck serviceId eventId result grantedTtl :=
    callback env (.subscriptionAck serviceId eventId result grantedTtl)

def handleOffer (offer : SdPayload.Offer n) (nowMs : UInt32) (w : World cfg) : World cfg :=
  let w :=
    if w.rt.sd.detectReboot offer.serviceId offer.sessionId then
      w.resetPeer offer.providerAddr
    else w
  ServiceDiscovery.handleOffer sdLens (sdHooks env) offer.serviceId offer.majorVersion
    offer.ttlSeconds offer.sessionId offer.providerAddr nowMs w

def handleFind (source : Address n) (serviceId : UInt16) (w : World cfg) : World cfg :=
  let w := w.resetPeer source
  (w.rt.sd.handleFind serviceId).foldl (fun w message => w.sendSdUnicast env source message) w

/-- The acknowledgement, assembled in the transmit buffer. -/
def ackFrame (rt : Runtime cfg) (result : ReturnCode) (serviceId eventId : UInt16)
    (grantedTtl : UInt16) : Buffer (maxMsgSize cfg) × Nat :=
  let payload := SdPayload.serializeSubscribe serviceId eventId grantedTtl
  let hdr : MessageHeader := {
    messageType := MessageType.requestNoReturn.toByte
    returnCode := result.toByte
    serviceId := sdServiceId
    methodEventId := SdMethod.subscribeAck.toId
    clientId := rt.clientId
    sequenceCounter := rt.sdSeq
    payloadLength := UInt32.ofNat payload.length }
  let tx := (rt.txBuffer.write 0 hdr.serialize).write headerSize payload
  let total := headerSize + payload.length
  (tx.write total (crc16Trailer (tx.bytes.take total)), total + crcSize)

def handleSubscribeRequest (source : Address n) (hdr : MessageHeader)
    (request : SdPayload.Subscribe) (nowMs : UInt32) (w : World cfg) : World cfg :=
  let (result, eventManager) := w.rt.eventManager.subscribe request.serviceId
    request.eventId hdr.clientId source request.ttlSeconds nowMs
  let grantedTtl :=
    if result = .eOk then
      if request.ttlSeconds > 0 then request.ttlSeconds else cfg.subscriptionTtlSeconds
    else 0
  let (txBuffer, total) :=
    ackFrame w.rt result request.serviceId request.eventId grantedTtl
  let frame := txBuffer.bytes.take total
  let ok := env.sendOk w.history source frame
  World.countRefusal ok (World.emit (.sent .sd source frame ok)
    { w with rt := { w.rt with eventManager, txBuffer, sdSeq := w.rt.sdSeq + 1 } })

def handleSdMessage (source : Address n) (hdr : MessageHeader) (payload : Bytes)
    (nowMs : UInt32) (w : World cfg) : World cfg :=
  match SdMethod.ofId hdr.methodEventId with
  | some .offerService =>
      match SdPayload.deserializeOffer payload with
      | some offer => w.handleOffer env offer nowMs
      | none => w
  | some .findService =>
      match SdPayload.deserializeFind payload with
      | some serviceId => w.handleFind env source serviceId
      | none => w
  | some .subscribeEvent =>
      match SdPayload.deserializeSubscribe payload with
      | some request => w.handleSubscribeRequest env source hdr request nowMs
      | none => w
  | some .subscribeAck =>
      match SdPayload.deserializeSubscribe payload with
      | some ack =>
          ServiceDiscovery.handleSubscribeAck sdLens (sdHooks env) ack.serviceId
            ack.eventId ⟨hdr.returnCode⟩ ack.ttlSeconds w
      | none => w
  | some .unsubscribe =>
      match SdPayload.deserializeSubscribe payload with
      | some request =>
          { w with rt := { w.rt with
            eventManager := w.rt.eventManager.unsubscribe request.serviceId
              request.eventId hdr.clientId } }
      | none => w
  | none => w

def dispatchMessage (source : Address n) (hdr : MessageHeader) (payload : Bytes)
    (nowMs : UInt32) (w : World cfg) : World cfg :=
  if hdr.serviceId = sdServiceId then w.handleSdMessage env source hdr payload nowMs
  else
    match MessageType.ofByte hdr.messageType with
    | some .request => w.handleRequest env source hdr payload
    | some .requestNoReturn => w.handleFireAndForget env hdr payload
    | some .response => w.handleReply env hdr payload
    | some .error => w.handleReply env hdr payload
    | some .notification => w.handleNotification env hdr payload
    | none => w

def validateAndDispatch (source : Address n) (data : Bytes) (nowMs : UInt32)
    (w : World cfg) : World cfg :=
  match w.validate source data with
  | (none, w) => w
  | (some hdr, w) => w.dispatchMessage env source hdr (payloadOf hdr data) nowMs

end World

end Sero
