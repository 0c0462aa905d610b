import Sero.Library.Memory
import Sero.Runtime.Receive

/-!
# The receive path with its memory accesses

The functions behind a datagram a second time, with each access to the datagram, the
transmit buffer and the response buffer logged.  Where the source passes a pointer on,
the pointer is passed on here too, as an offset into the datagram.
-/

namespace Sero

open Library

variable {n : Nat} {cfg : Config n}

/-- The memory a datagram is processed in.  `null` is the response buffer of a request
without return. -/
inductive Region where
  | datagram
  | transmit
  | response
  | null
  deriving DecidableEq, Repr

def regionSize (cfg : Config n) (data : Bytes) : Region → Nat
  | .datagram => data.length
  | .transmit => maxMsgSize cfg
  | .response => cfg.maxPayloadSize
  | .null => 0

/-- The buffer a handler writes its answer to. -/
def answerRegion (capacity : Option Nat) : Region :=
  if capacity.isSome then .response else .null

/-! ## Reading a datagram -/

def readByteLogged (data : Bytes) (offset : Nat) : Logged Region UInt8 := do
  return byteAt (← load .datagram data offset 1) 0

def readU16Logged (data : Bytes) (offset : Nat) : Logged Region UInt16 := do
  return readU16 (← load .datagram data offset 2) 0

def readU32Logged (data : Bytes) (offset : Nat) : Logged Region UInt32 := do
  return readU32 (← load .datagram data offset 4) 0

def deserializeLogged (data : Bytes) : Logged Region MessageHeader := do
  return {
    version := ← readByteLogged data 0
    messageType := ← readByteLogged data 1
    returnCode := ← readByteLogged data 2
    flags := ← readByteLogged data 3
    serviceId := ← readU16Logged data 4
    methodEventId := ← readU16Logged data 6
    clientId := ← readU16Logged data 8
    sequenceCounter := ← readByteLogged data 10
    reserved := ← readByteLogged data 11
    requestId := ← readU32Logged data 12
    payloadLength := ← readU32Logged data 16 }

def crc16VerifyLogged (data : Bytes) : Logged Region Bool :=
  if data.length < 2 then return false
  else do
    let payloadLen := data.length - 2
    let covered ← load .datagram data 0 payloadLen
    let stored ← readU16Logged data payloadLen
    return crc16Compute covered == stored

/-- Steps 1 to 7. -/
def checkFrameLogged (cfg : Config n) (data : Bytes) :
    Logged Region (Except (DiagnosticCounter × Option Bytes) MessageHeader) :=
  if data.length < minMessageSize then return .error (.droppedMessages, none)
  else do
    let intact ← crc16VerifyLogged data
    if !intact then
      return .error (.crcErrors,
        if headerSize ≤ data.length then some (rawHeader data) else none)
    else
      let hdr ← deserializeLogged data
      if hdr.version ≠ protocolVersion then
        return .error (.versionMismatches, some (rawHeader data))
      else if cfg.maxPayloadSize < hdr.payloadLength.toNat then
        return .error (.oversizedPayloads, some (rawHeader data))
      else if data.length < hdr.expectedSize then
        return .error (.droppedMessages, some (rawHeader data))
      else if !isValidMessageType hdr.messageType then
        return .error (.unknownMessageTypes, some (rawHeader data))
      else if !hdr.validateTypeIdConsistency then
        return .error (.typeIdMismatches, some (rawHeader data))
      else if !hdr.validateClientId then
        return .error (.droppedMessages, some (rawHeader data))
      else return .ok hdr

/-- Step 9: header, payload and tag are read once a key is found for the source. -/
def checkAuthLogged (source : Address n) (data : Bytes) (hdr : MessageHeader) (w : World cfg) :
    Logged Region Bool :=
  if hdr.hasAuth then
    match w.rt.authenticator.findKey source with
    | none => return false
    | some entry => do
        let header20 ← load .datagram data 0 headerSize
        let payload ← load .datagram data headerSize hdr.payloadLength.toNat
        let tag ← load .datagram data (headerSize + hdr.payloadLength.toNat) hmacSize
        return hmacEqual (computeHmacTwoPart entry.key header20 payload) tag
  else if hdr.serviceId = sdServiceId then return true
  else
    match w.rt.dispatcher.find hdr.serviceId with
    | some entry => return !entry.authRequired
    | none => return true

/-- `memcpy` of the payload's last field into an address. -/
def loadAddress (n : Nat) (data : Bytes) (offset : Nat) : Logged Region (Address n) := do
  let bytes ← load .datagram data offset n
  return ⟨bytes.takeD n 0, List.takeD_length n bytes 0⟩

def deserializeOfferLogged (n : Nat) (data : Bytes) (length : Nat) :
    Logged Region (Option (SdPayload.Offer n)) :=
  if length < 8 + n then return none
  else do
    return some {
      serviceId := ← readU16Logged data headerSize
      majorVersion := ← readByteLogged data (headerSize + 2)
      minorVersion := ← readByteLogged data (headerSize + 3)
      ttlSeconds := ← readU16Logged data (headerSize + 4)
      sessionId := ← readU16Logged data (headerSize + 6)
      providerAddr := ← loadAddress n data (headerSize + 8) }

def deserializeFindLogged (data : Bytes) (length : Nat) : Logged Region (Option UInt16) :=
  if length < 4 then return none
  else do
    return some (← readU16Logged data headerSize)

def deserializeSubscribeLogged (data : Bytes) (length : Nat) :
    Logged Region (Option SdPayload.Subscribe) :=
  if length < 8 then return none
  else do
    return some {
      serviceId := ← readU16Logged data headerSize
      eventId := ← readU16Logged data (headerSize + 2)
      ttlSeconds := ← readU16Logged data (headerSize + 4) }

/-- The two bytes of its payload `handle_clear_dtcs` reads, if it has them. -/
def clearCodeLogged (data : Bytes) (hdr : MessageHeader) : Logged Region Bytes :=
  if hdr.methodEventId = 0x0002 ∧ 2 ≤ hdr.payloadLength.toNat then
    load .datagram data headerSize 2
  else return []

/-- `impl_on_request` of the diagnostics service: no other method reads its payload, and
what is answered goes to the start of the response buffer. -/
def diagRequestLogged (rt : Runtime cfg) (isReady : ServiceContext → Bool) (data : Bytes)
    (hdr : MessageHeader) (capacity : Option Nat) : Logged Region (DiagResult cfg) := do
  let payload ← clearCodeLogged data hdr
  let result := rt.diagService.onRequest rt.diag rt.dispatcher isReady rt.uptimeMs
    hdr.methodEventId payload (capacity.getD 0) rt.dtcStore
  let _ ← store (answerRegion capacity) rt.responseBuffer 0 result.written
  return result

/-! ## Writing frames -/

namespace Runtime

/-- The payload is copied from wherever the caller keeps it. -/
def copyLogged (tx : Buffer (maxMsgSize cfg)) (source : Option (Logged Region Bytes)) :
    Logged Region (Buffer (maxMsgSize cfg)) :=
  match source with
  | some copy => do store .transmit tx headerSize (← copy)
  | none => return tx

/-- The tag behind the payload, and where the message goes on. -/
def tagLogged (rt : Runtime cfg) (tx : Buffer (maxMsgSize cfg)) (payloadLength : Nat)
    (auth : Bool) (peer : Address n) : Logged Region (Buffer (maxMsgSize cfg) × Nat) :=
  if auth then do
    let header20 ← load .transmit tx.bytes 0 headerSize
    let authenticated ← load .transmit tx.bytes headerSize payloadLength
    let tx ← store .transmit tx (headerSize + payloadLength)
      (rt.messageTag header20 authenticated peer)
    return (tx, headerSize + payloadLength + hmacSize)
  else return (tx, headerSize + payloadLength)

/-- `build_message`. -/
def buildMessageLogged (rt : Runtime cfg) (hdr : MessageHeader)
    (source : Option (Logged Region Bytes)) (payloadLength : Nat) (auth : Bool)
    (peer : Address n) : Logged Region (Nat × Buffer (maxMsgSize cfg)) :=
  if cfg.maxPayloadSize < payloadLength then return (0, rt.txBuffer)
  else do
    let tx ← store .transmit rt.txBuffer 0 hdr.serialize
    let tx ← copyLogged tx source
    let (tx, offset) ← rt.tagLogged tx payloadLength auth peer
    let signed ← load .transmit tx.bytes 0 offset
    let tx ← store .transmit tx offset (crc16Trailer signed)
    return (offset + crcSize, tx)

def stampSdLogged (rt : Runtime cfg) (message : Bytes) :
    Logged Region (Buffer (maxMsgSize cfg)) := do
  let tx ← store .transmit rt.txBuffer 0 message
  let tx ← store .transmit tx 10 [rt.sdSeq]
  let signed ← load .transmit tx.bytes 0 message.length
  store .transmit tx message.length (crc16Trailer signed)

end Runtime

/-- The acknowledgement of a subscription. -/
def ackFrameLogged (rt : Runtime cfg) (result : ReturnCode) (serviceId eventId : UInt16)
    (grantedTtl : UInt16) : Logged Region (Buffer (maxMsgSize cfg) × Nat) := do
  let payload := SdPayload.serializeSubscribe serviceId eventId grantedTtl
  let hdr : MessageHeader := {
    messageType := MessageType.requestNoReturn.toByte
    returnCode := result.toByte
    serviceId := sdServiceId
    methodEventId := SdMethod.subscribeAck.toId
    clientId := rt.clientId
    sequenceCounter := rt.sdSeq
    payloadLength := UInt32.ofNat payload.length }
  let tx ← store .transmit rt.txBuffer 0 hdr.serialize
  let tx ← store .transmit tx headerSize payload
  let total := headerSize + payload.length
  let signed ← load .transmit tx.bytes 0 total
  let tx ← store .transmit tx total (crc16Trailer signed)
  return (tx, total + crcSize)

/-- A device and the accesses it has made since the datagram arrived. -/
abbrev TracedWorld (cfg : Config n) := Traced Region (World cfg)

namespace TracedWorld

variable (env : Env cfg)

def transmit (kind : SendKind) (dest : Address n) (hdr : MessageHeader)
    (source : Option (Logged Region Bytes)) (payloadLength : Nat) (auth : Bool)
    (t : TracedWorld cfg) : Bool × TracedWorld cfg :=
  let (sequenceCounter, e2e) := t.state.rt.e2e.nextSequence
  let hdr := { hdr with sequenceCounter }
  let ((total, txBuffer), t) :=
    t.exec (t.state.rt.buildMessageLogged hdr source payloadLength auth dest)
  let (frame, t) := t.exec (load .transmit txBuffer.bytes 0 total)
  let ok := env.sendOk t.state.history dest frame
  (ok, t.map fun w =>
    World.emit (.sent kind dest frame ok) { w with rt := { w.rt with e2e, txBuffer } })

def sendSdBroadcast (message : SdMessage n) (t : TracedWorld cfg) : TracedWorld cfg :=
  let bytes := message.encode t.state.rt.sd.clientId
  if maxMsgSize cfg < bytes.length + crcSize then t
  else
    let (txBuffer, t) := t.exec (t.state.rt.stampSdLogged bytes)
    let (frame, t) := t.exec (load .transmit txBuffer.bytes 0 (bytes.length + crcSize))
    let ok := env.broadcastOk t.state.history frame
    t.map fun w => World.countRefusal ok (World.emit (.broadcast frame ok)
      { w with rt := { w.rt with txBuffer, sdSeq := w.rt.sdSeq + 1 } })

def sendSdUnicast (dest : Address n) (message : SdMessage n) (t : TracedWorld cfg) :
    TracedWorld cfg :=
  let bytes := message.encode t.state.rt.sd.clientId
  if maxMsgSize cfg < bytes.length + crcSize then t
  else
    let (txBuffer, t) := t.exec (t.state.rt.stampSdLogged bytes)
    let (frame, t) := t.exec (load .transmit txBuffer.bytes 0 (bytes.length + crcSize))
    let ok := env.sendOk t.state.history dest frame
    t.map fun w => World.countRefusal ok (World.emit (.sent .sd dest frame ok)
      { w with rt := { w.rt with txBuffer, sdSeq := w.rt.sdSeq + 1 } })

/-- The application's own payload buffer is none of the regions. -/
def copyPayload (payload : Payload) : Option (Logged Region Bytes) :=
  payload.data.map pure

def submit (handle : Nat) (target : Address n) (serviceId methodId : UInt16)
    (payload : Payload) (hasCallback : Bool) (timeoutMs nowMs : UInt32)
    (t : TracedWorld cfg) : Option (UInt32 × Bool) × TracedWorld cfg :=
  match t.state.rt.requestTracker.allocate serviceId methodId timeoutMs nowMs
      (if hasCallback then some handle else none) with
  | none => (none, t)
  | some (requestId, requestTracker) =>
      let t := t.map fun w => World.emit
        (.issued handle requestId target serviceId methodId payload hasCallback)
        { w with rt := { w.rt with requestTracker } }
      let auth := t.state.rt.shouldAuthOutgoing target
      let hdr := World.makeRequestHeader t.state.rt serviceId methodId payload.length
        requestId auth
      let (ok, t) := transmit env (.request handle) target hdr (copyPayload payload)
        payload.length auth t
      (some (requestId, ok), t)

/-- A request's callback may read the payload it is given. -/
def invokeRequest (read : Bytes → Logged Region Bytes) (cause : Cause)
    (body : TracedWorld cfg → TracedWorld cfg) (handle : Nat) (rc : ReturnCode)
    (payload : Bytes) (t : TracedWorld cfg) : TracedWorld cfg :=
  let (payload, t) := t.exec (read payload)
  body (t.map (World.emit (.callback (.request handle cause rc payload))))

def requestImpl (body : TracedWorld cfg → TracedWorld cfg) (handle : Nat)
    (target : Address n) (serviceId methodId : UInt16) (payload : Payload)
    (hasCallback : Bool) (timeoutMs nowMs : UInt32) (t : TracedWorld cfg) :
    Option UInt32 × TracedWorld cfg :=
  match submit env handle target serviceId methodId payload hasCallback timeoutMs nowMs t with
  | (none, t) => (none, t)
  | (some (requestId, true), t) => (some requestId, t)
  | (some (requestId, false), t) =>
      let t := (RequestTracker.complete World.trackerLens.traced
        (invokeRequest pure .sendFailed body) requestId .eNotOk [] t).2
      (none, t.map (World.increment .droppedMessages none))

def request (body : TracedWorld cfg → TracedWorld cfg) (handle : Nat)
    (target : Option (Address n)) (serviceId methodId : UInt16) (payload : Payload)
    (hasCallback : Bool) (timeoutMs nowMs : UInt32) (t : TracedWorld cfg) :
    Option UInt32 × TracedWorld cfg :=
  match target.or (t.state.rt.sd.getProviderAddress serviceId) with
  | none => (none, t)
  | some provider =>
      requestImpl env body handle provider serviceId methodId payload hasCallback timeoutMs
        nowMs t

def fireAndForget (serviceId methodId : UInt16) (payload : Payload) (t : TracedWorld cfg) :
    Bool × TracedWorld cfg :=
  match t.state.rt.sd.getProviderAddress serviceId with
  | none => (false, t)
  | some provider =>
      let auth := t.state.rt.shouldAuthOutgoing provider
      let hdr : MessageHeader := {
        messageType := MessageType.requestNoReturn.toByte
        flags := if auth then flagAuth else 0
        serviceId
        methodEventId := methodId
        clientId := t.state.rt.clientId
        requestId := requestIdNone
        payloadLength := UInt32.ofNat payload.length }
      let (ok, t) := transmit env .fireAndForget provider hdr (copyPayload payload)
        payload.length auth t
      (ok, t.map (World.countRefusal ok))

def notifyOne (serviceId eventId : UInt16) (payload : Payload) (t : TracedWorld cfg)
    (dest : Address n) : TracedWorld cfg :=
  let auth := t.state.rt.shouldAuthOutgoing dest
  let hdr : MessageHeader := {
    messageType := MessageType.notification.toByte
    flags := if auth then flagAuth else 0
    serviceId
    methodEventId := eventId
    clientId := clientIdProvider
    requestId := requestIdNone
    payloadLength := UInt32.ofNat payload.length }
  let (ok, t) := transmit env .notification dest hdr (copyPayload payload) payload.length
    auth t
  t.map (World.countRefusal ok)

def notifyEvent (serviceId eventId : UInt16) (payload : Payload) (t : TracedWorld cfg) :
    Bool × TracedWorld cfg :=
  if t.state.rt.eventManager.hasSubscribers serviceId eventId then
    (true, (t.state.rt.eventManager.notify serviceId eventId).foldl
      (notifyOne env serviceId eventId payload) t)
  else (false, t)

/-- The calls that send are traced; the others touch no message. -/
def apiCall (body : TracedWorld cfg → TracedWorld cfg) (call : ApiCall cfg)
    (t : TracedWorld cfg) : ApiResult × TracedWorld cfg :=
  match call with
  | .request target serviceId methodId payload hasCallback timeoutMs nowMs =>
      let handle := t.state.history.length
      let (requestId, t) := request env body handle target serviceId methodId payload
        hasCallback timeoutMs nowMs t
      (.request handle requestId, t)
  | .fireAndForget serviceId methodId payload =>
      let (ok, t) := fireAndForget env serviceId methodId payload t
      (.bool ok, t)
  | .notifyEvent serviceId eventId payload =>
      let (ok, t) := notifyEvent env serviceId eventId payload t
      (.bool ok, t)
  | _ =>
      ((t.state.apiCall env id call).1, t.map fun w => (w.apiCall env id call).2)

def perform (body : TracedWorld cfg → TracedWorld cfg) (call : ApiCall cfg)
    (t : TracedWorld cfg) : TracedWorld cfg :=
  let (result, t) := apiCall env body call t
  t.map (World.emit (.returned call result))

def runScript : Script cfg → TracedWorld cfg → TracedWorld cfg
  | .done, t => t
  | .call operation callback rest, t =>
      runScript rest (perform env (runScript callback) operation t)

def react (t : TracedWorld cfg) : TracedWorld cfg :=
  runScript env (env.react t.state.history) t

def callback (callback : Callback n) (t : TracedWorld cfg) : TracedWorld cfg :=
  react env (t.map (World.emit (.callback callback)))

/-! ## Handling a datagram -/

/-- The diagnostic callback may read the header it is shown. -/
def showHeader (data : Bytes) (header : Option Bytes) : Logged Region (Option Bytes) :=
  match header with
  | none => return none
  | some _ => do return some (← load .datagram data 0 headerSize)

def increment (data : Bytes) (counter : DiagnosticCounter) (header : Option Bytes)
    (t : TracedWorld cfg) : TracedWorld cfg :=
  let (header, t) := t.exec (showHeader data header)
  t.map (World.increment counter header)

def checkSequence (source : Address n) (data : Bytes) (hdr : MessageHeader)
    (t : TracedWorld cfg) : Bool × TracedWorld cfg :=
  if hdr.serviceId = sdServiceId then (true, t)
  else
    let result := (t.state.sequenceVerdict source data hdr.sequenceCounter).1
    let t := t.map fun w => (w.sequenceVerdict source data hdr.sequenceCounter).2
    match result with
    | .duplicate => (false, increment data .duplicateMessages (some (rawHeader data)) t)
    | .stale => (false, increment data .staleMessages (some (rawHeader data)) t)
    | .accept => (true, t)
    | .firstSeen => (true, t)
    | .tableFull => (true, increment data .droppedMessages (some (rawHeader data)) t)

def validate (source : Address n) (data : Bytes) (t : TracedWorld cfg) :
    Option MessageHeader × TracedWorld cfg :=
  let t := t.map (World.emit (.received source data))
  match t.exec (checkFrameLogged cfg data) with
  | (.error (counter, header), t) => (none, increment data counter header t)
  | (.ok hdr, t) =>
      match checkSequence source data hdr t with
      | (false, t) => (none, t)
      | (true, t) =>
          let (authentic, t) := t.exec (checkAuthLogged source data hdr t.state)
          if authentic then (some hdr, t.map (World.emit (.dispatched source data)))
          else (none, increment data .authFailures (some (rawHeader data)) t)

/-- Whoever is given the payload may read all of it. -/
def readPayload (data : Bytes) (hdr : MessageHeader) : Logged Region Bytes :=
  load .datagram data headerSize hdr.payloadLength.toNat

def callHandler (data : Bytes) (hdr : MessageHeader) (entry : ServiceEntry)
    (capacity : Option Nat) (t : TracedWorld cfg) : HandlerResult cfg × TracedWorld cfg :=
  let (payload, t) := t.exec (readPayload data hdr)
  let t := t.map fun w => w.emit
    (.onRequest entry w.rt.authenticator hdr.methodEventId payload capacity)
  match entry.context with
  | .application context =>
      let result := env.onRequest t.state.history context hdr.methodEventId payload
      let (_, t) := t.exec
        (storeAll (answerRegion capacity) t.state.rt.responseBuffer result.writes)
      (result, runScript env result.calls t)
  | .diagnostics =>
      let (result, t) := t.exec
        (diagRequestLogged t.state.rt (t.state.isReady env) data hdr capacity)
      ({ code := result.code
         writes := [(0, result.written)]
         responseLength := result.responseLength },
        t.map fun w => { w with rt := { w.rt with dtcStore := result.dtcStore } })

def dispatch (data : Bytes) (hdr : MessageHeader) (t : TracedWorld cfg) :
    (ReturnCode × Nat) × TracedWorld cfg :=
  match t.state.rt.dispatcher.find hdr.serviceId with
  | none => ((.eUnknownService, cfg.maxPayloadSize), t)
  | some entry =>
      if t.state.isReady env entry.context then
        let (result, t) := callHandler env data hdr entry (some cfg.maxPayloadSize) t
        ((result.code, result.responseLength),
          t.map fun w => { w with rt := { w.rt with
            responseBuffer := w.rt.responseBuffer.writeAll result.writes } })
      else ((.eNotReady, cfg.maxPayloadSize), t)

def sendReply (source : Address n) (data : Bytes) (hdr : MessageHeader) (rc : ReturnCode)
    (responseLength : Nat) (t : TracedWorld cfg) : TracedWorld cfg :=
  let t := t.map fun w => w.emit (.executed source hdr.requestId hdr.serviceId
    hdr.methodEventId (payloadOf hdr data) rc (World.responseOf w.rt rc responseLength))
  let auth := t.state.rt.shouldAuthOutgoing source
  let copy := load Region.response t.state.rt.responseBuffer.bytes 0 responseLength
  let replyPayload := if rc = .eOk then some copy else none
  let replyLength := if rc = .eOk then responseLength else 0
  let (ok, t) := transmit env .reply source
    (World.makeReplyHeader hdr rc responseLength auth) replyPayload replyLength auth t
  t.map (World.countRefusal ok)

def handleRequest (source : Address n) (data : Bytes) (hdr : MessageHeader)
    (t : TracedWorld cfg) : TracedWorld cfg :=
  let ((rc, responseLength), t) := dispatch env data hdr t
  sendReply env source data hdr rc responseLength t

def handleFireAndForget (data : Bytes) (hdr : MessageHeader) (t : TracedWorld cfg) :
    TracedWorld cfg :=
  match t.state.rt.dispatcher.find hdr.serviceId with
  | none => t.map (World.increment .droppedMessages none)
  | some entry =>
      if t.state.isReady env entry.context then (callHandler env data hdr entry none t).2
      else t

def handleReply (data : Bytes) (hdr : MessageHeader) (t : TracedWorld cfg) :
    TracedWorld cfg :=
  (RequestTracker.complete World.trackerLens.traced
    (invokeRequest (fun _ => readPayload data hdr) .reply (react env)) hdr.requestId
    ⟨hdr.returnCode⟩ (payloadOf hdr data) t).2

def handleNotification (data : Bytes) (hdr : MessageHeader) (t : TracedWorld cfg) :
    TracedWorld cfg :=
  match t.state.findEventHandler hdr.serviceId hdr.methodEventId with
  | none => t
  | some entry =>
      let (payload, t) := t.exec (readPayload data hdr)
      callback env (.event entry.context hdr.serviceId hdr.methodEventId payload) t

def sdHooks : ServiceDiscovery.Hooks n (TracedWorld cfg) where
  broadcast := sendSdBroadcast env
  onPeerExpired addr := Traced.map (World.resetPeer addr)
  onServiceFound serviceId provider := callback env (.serviceFound serviceId provider)
  onServiceLost serviceId := callback env (.serviceLost serviceId)
  onSubscriptionAck serviceId eventId result grantedTtl :=
    callback env (.subscriptionAck serviceId eventId result grantedTtl)

def handleOffer (offer : SdPayload.Offer n) (nowMs : UInt32) (t : TracedWorld cfg) :
    TracedWorld cfg :=
  let t :=
    if t.state.rt.sd.detectReboot offer.serviceId offer.sessionId then
      t.map (World.resetPeer offer.providerAddr)
    else t
  ServiceDiscovery.handleOffer World.sdLens.traced (sdHooks env) offer.serviceId
    offer.majorVersion offer.ttlSeconds offer.sessionId offer.providerAddr nowMs t

def handleFind (source : Address n) (serviceId : UInt16) (t : TracedWorld cfg) :
    TracedWorld cfg :=
  let t := t.map (World.resetPeer source)
  (t.state.rt.sd.handleFind serviceId).foldl (fun t message => sendSdUnicast env source message t) t

def handleSubscribeRequest (source : Address n) (hdr : MessageHeader)
    (request : SdPayload.Subscribe) (nowMs : UInt32) (t : TracedWorld cfg) :
    TracedWorld cfg :=
  let (result, eventManager) := t.state.rt.eventManager.subscribe request.serviceId
    request.eventId hdr.clientId source request.ttlSeconds nowMs
  let grantedTtl :=
    if result = .eOk then
      if request.ttlSeconds > 0 then request.ttlSeconds else cfg.subscriptionTtlSeconds
    else 0
  let ((txBuffer, total), t) := t.exec
    (ackFrameLogged t.state.rt result request.serviceId request.eventId grantedTtl)
  let (frame, t) := t.exec (load .transmit txBuffer.bytes 0 total)
  let ok := env.sendOk t.state.history source frame
  t.map fun w => World.countRefusal ok (World.emit (.sent .sd source frame ok)
    { w with rt := { w.rt with eventManager, txBuffer, sdSeq := w.rt.sdSeq + 1 } })

def handleSdMessage (source : Address n) (data : Bytes) (hdr : MessageHeader)
    (nowMs : UInt32) (t : TracedWorld cfg) : TracedWorld cfg :=
  let length := hdr.payloadLength.toNat
  match SdMethod.ofId hdr.methodEventId with
  | some .offerService =>
      match t.exec (deserializeOfferLogged n data length) with
      | (some offer, t) => handleOffer env offer nowMs t
      | (none, t) => t
  | some .findService =>
      match t.exec (deserializeFindLogged data length) with
      | (some serviceId, t) => handleFind env source serviceId t
      | (none, t) => t
  | some .subscribeEvent =>
      match t.exec (deserializeSubscribeLogged data length) with
      | (some request, t) => handleSubscribeRequest env source hdr request nowMs t
      | (none, t) => t
  | some .subscribeAck =>
      match t.exec (deserializeSubscribeLogged data length) with
      | (some ack, t) =>
          ServiceDiscovery.handleSubscribeAck World.sdLens.traced (sdHooks env)
            ack.serviceId ack.eventId ⟨hdr.returnCode⟩ ack.ttlSeconds t
      | (none, t) => t
  | some .unsubscribe =>
      match t.exec (deserializeSubscribeLogged data length) with
      | (some request, t) =>
          t.map fun w => { w with rt := { w.rt with
            eventManager := w.rt.eventManager.unsubscribe request.serviceId
              request.eventId hdr.clientId } }
      | (none, t) => t
  | none => t

def dispatchMessage (source : Address n) (data : Bytes) (hdr : MessageHeader)
    (nowMs : UInt32) (t : TracedWorld cfg) : TracedWorld cfg :=
  if hdr.serviceId = sdServiceId then handleSdMessage env source data hdr nowMs t
  else
    match MessageType.ofByte hdr.messageType with
    | some .request => handleRequest env source data hdr t
    | some .requestNoReturn => handleFireAndForget env data hdr t
    | some .response => handleReply env data hdr t
    | some .error => handleReply env data hdr t
    | some .notification => handleNotification env data hdr t
    | none => t

def validateAndDispatch (source : Address n) (data : Bytes) (nowMs : UInt32)
    (t : TracedWorld cfg) : TracedWorld cfg :=
  match validate source data t with
  | (none, t) => t
  | (some hdr, t) => dispatchMessage env source data hdr nowMs t

end TracedWorld

end Sero
