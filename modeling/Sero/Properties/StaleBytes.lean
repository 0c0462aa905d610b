import Sero.Properties.OversizedPayloads

/-!
# Bytes of earlier messages

Frames and responses are assembled in two buffers that serve all peers and are never
cleared.  A frame is as long as its caller says, so it shows what the buffer held before
wherever less than that has been written.
-/

namespace Sero

open Library

variable {n : Nat} {cfg : Config n}

/-! ## Built frames -/

/-- So many bytes of a buffer behind the first `offset`. -/
def bytesBehind {size : Nat} (buffer : Buffer size) (offset count : Nat) : Bytes :=
  (buffer.bytes.drop offset).take count

namespace Runtime

variable {left right : Runtime cfg}

theorem messageTag_congr (keys : left.authenticator = right.authenticator)
    (header20 body : Bytes) (peer : Address n) :
    left.messageTag header20 body peer = right.messageTag header20 body peer := by
  rw [messageTag, messageTag, keys]

/-- The frame around a payload of the right length. -/
def frameAround (rt : Runtime cfg) (hdr : MessageHeader) (body : Bytes) (auth : Bool)
    (peer : Address n) : Bytes :=
  messageFrame hdr body (if auth then rt.messageTag hdr.serialize body peer else [])

/-- With equal keys, frames around payloads of one length are equal exactly if the payloads
are. -/
theorem frameAround_eq_iff (keys : left.authenticator = right.authenticator)
    (hdr : MessageHeader) {leftBody rightBody : Bytes}
    (sized : leftBody.length = rightBody.length) (auth : Bool) (peer : Address n) :
    left.frameAround hdr leftBody auth peer = right.frameAround hdr rightBody auth peer ↔
      leftBody = rightBody := by
  constructor
  · intro same
    have bodies := congrArg (fun frame => (frame.drop headerSize).take leftBody.length) same
    simp only [frameAround] at bodies
    rwa [payload_messageFrame, sized, payload_messageFrame] at bodies
  · rintro rfl
    rw [frameAround, frameAround, messageTag_congr keys]

theorem builtFrame_oversized (rt : Runtime cfg) (hdr : MessageHeader) (payload : Option Bytes)
    {payloadLength : Nat} (auth : Bool) (peer : Address n)
    (long : cfg.maxPayloadSize < payloadLength) :
    rt.builtFrame hdr payload payloadLength auth peer = [] := by
  rw [builtFrame, buildMessage, if_pos long]
  exact List.take_zero

/-- A payload that is there is what the frame is built around. -/
theorem builtFrame_some (rt : Runtime cfg) (hdr : MessageHeader) {bytes : Bytes}
    {payloadLength : Nat} (auth : Bool) (peer : Address n)
    (fits : payloadLength ≤ cfg.maxPayloadSize) (enough : payloadLength ≤ bytes.length) :
    rt.builtFrame hdr (some bytes) payloadLength auth peer =
      rt.frameAround hdr (bytes.take payloadLength) auth peer := by
  obtain ⟨body, tag, built, -, copied, tagged⟩ :=
    buildMessage_frame rt hdr (some bytes) payloadLength auth peer fits
  rw [built, tagged, copied bytes rfl enough]
  rfl

/-- Without a payload the frame is built around what the transmit buffer held. -/
theorem builtFrame_none (rt : Runtime cfg) (hdr : MessageHeader) {payloadLength : Nat}
    (auth : Bool) (peer : Address n) (fits : payloadLength ≤ cfg.maxPayloadSize) :
    rt.builtFrame hdr none payloadLength auth peer =
      rt.frameAround hdr (bytesBehind rt.txBuffer headerSize payloadLength) auth peer := by
  have room : headerSize + payloadLength ≤ maxMsgSize cfg := by
    simp only [maxMsgSize]
    omega
  let filled := rt.txBuffer.write 0 hdr.serialize
  have kept : (rt.builtFrame hdr none payloadLength auth peer).take (headerSize + payloadLength) =
      filled.bytes.take (headerSize + payloadLength) := by
    have small : ¬cfg.maxPayloadSize < payloadLength := Nat.not_lt.mpr fits
    have signed : headerSize + payloadLength + hmacSize ≤ maxMsgSize cfg := by
      simp only [maxMsgSize]
      omega
    cases auth with
    | false =>
        simp only [builtFrame, buildMessage, if_neg small, Bool.false_eq_true, if_false]
        rw [List.take_take, Nat.min_eq_left (Nat.le_add_right _ _),
          Buffer.take_write_of_le _ _ (Nat.le_refl _) room]
    | true =>
        simp only [builtFrame, buildMessage, if_neg small, if_true]
        rw [List.take_take, Nat.min_eq_left (by omega),
          Buffer.take_write_of_le _ _ (Nat.le_add_right _ _) signed,
          Buffer.take_write_of_le _ _ (Nat.le_refl _) room]
  obtain ⟨body, tag, built, length, -, tagged⟩ :=
    buildMessage_frame rt hdr none payloadLength auth peer fits
  have stale : body = bytesBehind rt.txBuffer headerSize payloadLength := by
    have payload := payload_messageFrame hdr body tag
    have untouched := @Buffer.drop_write _ rt.txBuffer 0 hdr.serialize
      (by simp [maxMsgSize]; omega)
    rw [Nat.zero_add, MessageHeader.serialize_length] at untouched
    rw [← built, length, List.take_drop, kept, ← List.take_drop, untouched] at payload
    exact payload.symm
  rw [built, tagged, stale]
  rfl

end Runtime

/-- The last frame of a kind that has been handed to the transport. -/
def lastSent (kind : SendKind) (history : History cfg) : Option Bytes :=
  history.findSome? fun
    | .sent other _ frame _ => if other = kind then some frame else none
    | _ => none

/-- Two devices with the same keys, about to use the same sequence counter. -/
structure SameSender (left right : World cfg) : Prop where
  keys : left.rt.authenticator = right.rt.authenticator
  sequence : left.rt.e2e.nextSequence.1 = right.rt.e2e.nextSequence.1

/-- The payload is there, too long to be built, or what the transmit buffers hold in its place
is the same. -/
def PayloadCovered (left right : World cfg) (payload : Payload) : Prop :=
  payload.data = none → payload.length ≤ cfg.maxPayloadSize →
    bytesBehind left.rt.txBuffer headerSize payload.length =
      bytesBehind right.rt.txBuffer headerSize payload.length

/-- What a request is answered with, and what its handler has written. -/
structure Answer where
  code : ReturnCode
  responseLength : Nat
  writes : Writes := []
  deriving DecidableEq

/-- The response is an error, too long to be built, or each byte that is reported has been
written by the handler or is the same in both response buffers. -/
def ReplyCovered (left right : World cfg) (answer : Answer) : Prop :=
  answer.code = .eOk → answer.responseLength ≤ cfg.maxPayloadSize →
    ∀ index < answer.responseLength, answer.writes.Covers index ∨
      left.rt.responseBuffer.bytes[index]? = right.rt.responseBuffer.bytes[index]?

/-- A payload that is there covers the transmit buffer. -/
theorem PayloadCovered.of_bytes {left right : World cfg} (data : Bytes) :
    PayloadCovered left right (.bytes data) :=
  fun absent => absurd absent (Option.some_ne_none data)

/-- A handler that writes every byte it reports covers the response buffer. -/
theorem ReplyCovered.of_written {left right : World cfg} {answer : Answer}
    (written : ∀ index < answer.responseLength, answer.writes.Covers index) :
    ReplyCovered left right answer :=
  fun _ _ index below => .inl (written index below)

namespace World

variable (env : Env cfg)

/-- The answer to a request, and the device when its handler has returned. -/
def answer (serviceId methodId : UInt16) (payload : Bytes) (w : World cfg) :
    Answer × World cfg :=
  match w.rt.dispatcher.find serviceId with
  | none => ({ code := .eUnknownService, responseLength := cfg.maxPayloadSize }, w)
  | some entry =>
      if w.isReady env entry.context then
        let (result, after) := w.callHandler env entry methodId payload (some cfg.maxPayloadSize)
        ({ code := result.code
           responseLength := result.responseLength
           writes := result.writes }, after)
      else ({ code := .eNotReady, responseLength := cfg.maxPayloadSize }, w)

/-- Dispatching is answering, with what is written left in the response buffer. -/
theorem dispatch_eq_answer (serviceId methodId : UInt16) (payload : Bytes) (w : World cfg) :
    let answered := w.answer env serviceId methodId payload
    w.dispatch env serviceId methodId payload =
      ((answered.1.code, answered.1.responseLength),
        { answered.2 with rt := { answered.2.rt with
          responseBuffer := answered.2.rt.responseBuffer.writeAll answered.1.writes } }) := by
  rw [dispatch, answer]
  cases w.rt.dispatcher.find serviceId with
  | none => simp
  | some entry =>
      dsimp only
      split
      · rfl
      · simp

/-! ## Handlers leave the response buffer to their caller -/

variable {env}

theorem increment_responseBuffer (counter : DiagnosticCounter) (header : Option Bytes)
    (w : World cfg) : (w.increment counter header).rt.responseBuffer = w.rt.responseBuffer := by
  rw [increment]
  split <;> rfl

theorem countRefusal_responseBuffer (ok : Bool) (w : World cfg) :
    (w.countRefusal ok).rt.responseBuffer = w.rt.responseBuffer := by
  cases ok with
  | true => rfl
  | false => exact increment_responseBuffer _ _ w

/-- No local call writes the response buffer. -/
theorem apiCall_responseBuffer (body : World cfg → World cfg) {call : ApiCall cfg}
    (isLocal : call.isLocal = true) (w : World cfg) :
    (w.apiCall env body call).2.rt.responseBuffer = w.rt.responseBuffer := by
  cases call with
  | request | fireAndForget | notifyEvent => cases isLocal
  | offerService serviceId ttlSeconds nowMs =>
      obtain ⟨sd, written, -⟩ := w.offerService_rt serviceId ttlSeconds nowMs
      exact congrArg (fun w => w.rt.responseBuffer) written
  | enableDiagnostics nowMs authRequired =>
      obtain ⟨_, _, _, _, written, -⟩ := w.enableDiagnostics_rt nowMs authRequired
      exact congrArg (fun w => w.rt.responseBuffer) written
  | subscribeEvent serviceId eventId context ttlSeconds nowMs =>
      simp only [apiCall, subscribeEvent, registerEventHandler]
      cases Table.upsert (handlesEvent serviceId eventId)
          (fun _ => { serviceId, eventId, context }) { serviceId, eventId, context }
          (cfg.maxKnownServices * cfg.maxEvents) w.rt.eventHandlers <;> rfl
  | reportDtc code severity nowMs =>
      change (w.reportDtc code severity nowMs).2.rt.responseBuffer = _
      rw [reportDtc]
      split
      · rfl
      · exact countRefusal_responseBuffer _ _
  | _ => rfl

end World

theorem CallStep.responseBuffer {before after : World cfg}
    (step : CallStep env before after) : after.rt.responseBuffer = before.rt.responseBuffer := by
  cases step with
  | count counter header => exact World.increment_responseBuffer counter header before
  | own isCall step =>
      cases step with
      | @finish slot =>
          rw [RequestTracker.finish]
          cases ((World.trackerLens.get before).entries slot).callback <;> rfl
      | submit =>
          rw [World.submit]
          split <;> rfl
      | transmit | returned => rfl
      | perform isLocal => exact World.apiCall_responseBuffer id isLocal before
      | _ => cases isCall

theorem CallSteps.responseBuffer {before after : World cfg} (steps : CallSteps env before after) :
    after.rt.responseBuffer = before.rt.responseBuffer := by
  induction steps with
  | refl => rfl
  | tail _ step ih => exact step.responseBuffer.trans ih

namespace World

theorem answer_responseBuffer (serviceId methodId : UInt16) (payload : Bytes) (w : World cfg) :
    (w.answer env serviceId methodId payload).2.rt.responseBuffer = w.rt.responseBuffer := by
  rw [answer]
  cases w.rt.dispatcher.find serviceId with
  | none => rfl
  | some entry =>
      dsimp only
      split
      · simp only [callHandler]
        cases entry.context with
        | application context => exact (Script.run_steps _ _).responseBuffer
        | diagnostics => rfl
      · rfl

/-- A handler that makes no calls leaves keys and sequence counter as they are. -/
theorem answer_sender (noCalls : ∀ history context methodId payload,
      (env.onRequest history context methodId payload).calls = .done)
    (serviceId methodId : UInt16) (payload : Bytes) (w : World cfg) :
    SameSender w (w.answer env serviceId methodId payload).2 := by
  rw [answer]
  cases w.rt.dispatcher.find serviceId with
  | none => exact ⟨rfl, rfl⟩
  | some entry =>
      dsimp only
      split
      · simp only [callHandler]
        cases entry.context with
        | application context =>
            simp only [noCalls, Script.run]
            exact ⟨rfl, rfl⟩
        | diagnostics => exact ⟨rfl, rfl⟩
      · exact ⟨rfl, rfl⟩

/-- A handler has behaved identically on two devices, and neither has sent what the other has
not. -/
structure AnsweredAlike (left right : Answer × World cfg) : Prop where
  answer : left.1 = right.1
  sender : SameSender left.2 right.2

/-- Handlers that make no calls keep devices the same that are the same. -/
theorem answeredAlike_of_noCalls {leftEnv rightEnv : Env cfg} {left right : World cfg}
    (leftSilent : ∀ history context methodId payload,
      (leftEnv.onRequest history context methodId payload).calls = .done)
    (rightSilent : ∀ history context methodId payload,
      (rightEnv.onRequest history context methodId payload).calls = .done)
    {serviceId methodId : UInt16} {payload : Bytes} (sender : SameSender left right)
    (same : (left.answer leftEnv serviceId methodId payload).1 =
      (right.answer rightEnv serviceId methodId payload).1) :
    AnsweredAlike (left.answer leftEnv serviceId methodId payload)
      (right.answer rightEnv serviceId methodId payload) := by
  have leftKept := answer_sender leftSilent serviceId methodId payload left
  have rightKept := answer_sender rightSilent serviceId methodId payload right
  exact ⟨same, by rw [← leftKept.keys, sender.keys, rightKept.keys],
    by rw [← leftKept.sequence, sender.sequence, rightKept.sequence]⟩

/-! ## What a receiver is shown -/

theorem lastSent_countRefusal (kind : SendKind) (ok : Bool) (w : World cfg) :
    lastSent kind (w.countRefusal ok).history = lastSent kind w.history := by
  cases ok with
  | true => rfl
  | false =>
      change lastSent kind (w.increment _ _).history = _
      rw [increment]
      split <;> rfl

theorem lastSent_transmit (kind : SendKind) (dest : Address n) (hdr : MessageHeader)
    (payload : Option Bytes) (payloadLength : Nat) (auth : Bool) (w : World cfg) :
    lastSent kind (w.transmit env kind dest hdr payload payloadLength auth).2.history =
      some (w.rt.builtFrame { hdr with sequenceCounter := w.rt.e2e.nextSequence.1 } payload
        payloadLength auth dest) := by
  simp [transmit, lastSent]

theorem lastSent_sendReply (source : Address n) (hdr : MessageHeader) (payload : Bytes)
    (rc : ReturnCode) (responseLength : Nat) (w : World cfg) :
    lastSent .reply (w.sendReply env source hdr payload rc responseLength).history =
      some (w.rt.builtFrame
        { makeReplyHeader hdr rc responseLength (w.rt.shouldAuthOutgoing source) with
          sequenceCounter := w.rt.e2e.nextSequence.1 }
        (if rc = .eOk then some w.rt.responseBuffer.bytes else none)
        (if rc = .eOk then responseLength else 0) (w.rt.shouldAuthOutgoing source) source) := by
  obtain ⟨after, ok, equal, -, history⟩ :=
    sendReply_spec env source hdr payload rc responseLength w
  rw [equal, lastSent_countRefusal, history]
  simp [lastSent]

theorem shouldAuthOutgoing_congr {left right : Runtime cfg}
    (keys : left.authenticator = right.authenticator) (peer : Address n) :
    left.shouldAuthOutgoing peer = right.shouldAuthOutgoing peer := by
  rw [Runtime.shouldAuthOutgoing, Runtime.shouldAuthOutgoing, keys]

theorem lastSent_handleRequest (source : Address n) (hdr : MessageHeader) (payload : Bytes)
    (w : World cfg) :
    let answered := w.answer env hdr.serviceId hdr.methodEventId payload
    let rt := answered.2.rt
    let buffer := rt.responseBuffer.writeAll answered.1.writes
    let auth := rt.shouldAuthOutgoing source
    lastSent .reply (w.handleRequest env source hdr payload).history =
      some (rt.builtFrame
        { makeReplyHeader hdr answered.1.code answered.1.responseLength auth with
          sequenceCounter := rt.e2e.nextSequence.1 }
        (if answered.1.code = .eOk then some buffer.bytes else none)
        (if answered.1.code = .eOk then answered.1.responseLength else 0) auth source) := by
  intro answered rt buffer auth
  rw [handleRequest, dispatch_eq_answer]
  exact lastSent_sendReply source hdr payload answered.1.code answered.1.responseLength
    { answered.2 with rt := { rt with responseBuffer := buffer } }

/-- Replies to the same request from handlers that behave identically are equal exactly if
the response buffers hold the same wherever a reported byte has not been written. -/
theorem replies_eq_iff {leftEnv rightEnv : Env cfg} {left right : World cfg}
    {source : Address n} {hdr : MessageHeader} {payload : Bytes}
    (alike : AnsweredAlike (left.answer leftEnv hdr.serviceId hdr.methodEventId payload)
      (right.answer rightEnv hdr.serviceId hdr.methodEventId payload)) :
    lastSent .reply (left.handleRequest leftEnv source hdr payload).history =
        lastSent .reply (right.handleRequest rightEnv source hdr payload).history ↔
      ReplyCovered left right
        (left.answer leftEnv hdr.serviceId hdr.methodEventId payload).1 := by
  rw [lastSent_handleRequest, lastSent_handleRequest]
  have leftBuffer :=
    @answer_responseBuffer _ _ leftEnv hdr.serviceId hdr.methodEventId payload left
  have rightBuffer :=
    @answer_responseBuffer _ _ rightEnv hdr.serviceId hdr.methodEventId payload right
  generalize left.answer leftEnv hdr.serviceId hdr.methodEventId payload = leftAnswered at *
  generalize right.answer rightEnv hdr.serviceId hdr.methodEventId payload = rightAnswered at *
  obtain ⟨answer, leftAfter⟩ := leftAnswered
  obtain ⟨rightAnswer, rightAfter⟩ := rightAnswered
  obtain ⟨rfl, keys, sequence⟩ := alike
  dsimp only at keys sequence leftBuffer rightBuffer ⊢
  rw [sequence, shouldAuthOutgoing_congr keys, leftBuffer, rightBuffer, Option.some_inj,
    ReplyCovered]
  have leftWhole := (left.rt.responseBuffer.writeAll answer.writes).length_eq
  have rightWhole := (right.rt.responseBuffer.writeAll answer.writes).length_eq
  by_cases isOk : answer.code = .eOk
  · simp only [if_pos isOk]
    by_cases fits : answer.responseLength ≤ cfg.maxPayloadSize
    · rw [Runtime.builtFrame_some _ _ _ _ fits (fits.trans_eq leftWhole.symm),
        Runtime.builtFrame_some _ _ _ _ fits (fits.trans_eq rightWhole.symm),
        Runtime.frameAround_eq_iff, Buffer.take_writeAll_eq_iff _ _ _ fits]
      · exact ⟨fun same _ _ => same, fun covered => covered isOk fits⟩
      · exact keys
      · rw [List.length_take, List.length_take, leftWhole, rightWhole]
    · have long := Nat.not_le.mp fits
      rw [Runtime.builtFrame_oversized _ _ _ _ _ long,
        Runtime.builtFrame_oversized _ _ _ _ _ long]
      exact ⟨fun _ _ short => absurd short fits, fun _ => rfl⟩
  · simp only [if_neg isOk]
    rw [Runtime.builtFrame_none _ _ _ _ (Nat.zero_le _),
      Runtime.builtFrame_none _ _ _ _ (Nat.zero_le _), Runtime.frameAround_eq_iff keys]
    · exact ⟨fun _ ok => absurd ok isOk, fun _ => rfl⟩
    · rfl

/-- Frames for the same header and payload are equal exactly if the payload is there or what
the transmit buffers hold in its place is the same. -/
theorem frames_eq_iff {left right : World cfg} (sender : SameSender left right)
    {leftEnv rightEnv : Env cfg} (kind : SendKind) (dest : Address n) (hdr : MessageHeader)
    (payload : Payload) (auth : Bool) :
    lastSent kind (left.transmit leftEnv kind dest hdr payload.data payload.length
          auth).2.history =
        lastSent kind (right.transmit rightEnv kind dest hdr payload.data payload.length
          auth).2.history ↔
      PayloadCovered left right payload := by
  rw [lastSent_transmit, lastSent_transmit, sender.sequence, Option.some_inj, PayloadCovered]
  by_cases fits : payload.length ≤ cfg.maxPayloadSize
  · cases payload with
    | bytes data =>
        simp only [Payload.data, Payload.length] at fits ⊢
        rw [Runtime.builtFrame_some _ _ _ _ fits (Nat.le_refl _),
          Runtime.builtFrame_some _ _ _ _ fits (Nat.le_refl _),
          Runtime.frameAround_eq_iff sender.keys _ rfl]
        exact ⟨fun _ => PayloadCovered.of_bytes data, fun _ => rfl⟩
    | null length =>
        simp only [Payload.data, Payload.length] at fits ⊢
        rw [Runtime.builtFrame_none _ _ _ _ fits, Runtime.builtFrame_none _ _ _ _ fits,
          Runtime.frameAround_eq_iff sender.keys]
        · exact ⟨fun same _ _ => same, fun covered => covered trivial fits⟩
        · have leftWhole := left.rt.txBuffer.length_eq
          have rightWhole := right.rt.txBuffer.length_eq
          simp only [bytesBehind, List.length_take, List.length_drop, leftWhole, rightWhole]
  · have long := Nat.not_le.mp fits
    rw [Runtime.builtFrame_oversized _ _ _ _ _ long,
      Runtime.builtFrame_oversized _ _ _ _ _ long]
    exact ⟨fun _ _ short => absurd short fits, fun _ => rfl⟩

/-- Two devices that agree on keys and sequence counter send equal replies exactly if the
handler's answer covers the response buffer, and equal requests and notifications exactly if
the payload covers the transmit buffer. -/
theorem frames_forget_iff (leftEnv rightEnv : Env cfg) (left right : World cfg) :
    (∀ (source : Address n) (hdr : MessageHeader) (payload : Bytes),
      let leftAnswer := left.answer leftEnv hdr.serviceId hdr.methodEventId payload
      let rightAnswer := right.answer rightEnv hdr.serviceId hdr.methodEventId payload
      AnsweredAlike leftAnswer rightAnswer →
      (lastSent .reply (left.handleRequest leftEnv source hdr payload).history =
          lastSent .reply (right.handleRequest rightEnv source hdr payload).history ↔
        ReplyCovered left right leftAnswer.1)) ∧
    (SameSender left right → ∀ (kind : SendKind) (dest : Address n) (hdr : MessageHeader)
      (payload : Payload) (auth : Bool),
      let leftSent := left.transmit leftEnv kind dest hdr payload.data payload.length auth
      let rightSent := right.transmit rightEnv kind dest hdr payload.data payload.length auth
      lastSent kind leftSent.2.history = lastSent kind rightSent.2.history ↔
        PayloadCovered left right payload) :=
  ⟨fun _ _ _ alike => replies_eq_iff alike, fun sender => frames_eq_iff sender⟩

/-! A service whose first method answers with four bytes.  The second reports as many and
writes none, the third reports as many and writes behind them. -/

def secretWrites (methodId : UInt16) : Writes :=
  if methodId = 1 then [(0, [0xDE, 0xAD, 0xBE, 0xEF])]
  else if methodId = 3 then [(4, [0xDE, 0xAD, 0xBE, 0xEF])]
  else []

def forgetfulEnv : Env embeddedConfig where
  sendOk _ _ _ := true
  broadcastOk _ _ := true
  isReady _ _ := true
  onRequest _ _ methodId _ :=
    { code := .eOk, writes := secretWrites methodId, responseLength := 4 }
  react _ := .done

def secretRequest (methodId : UInt16) : MessageHeader where
  messageType := MessageType.request.toByte
  serviceId := 0x1000
  methodEventId := methodId
  clientId := 7
  requestId := 1

/-- A device that has answered one request. -/
def answeredDevice (methodId : UInt16) : World embeddedConfig :=
  run forgetfulEnv [.api (.registerService 0x1000 0 1 0 false),
    .deliver (Address.zero 8) (messageFrame (secretRequest methodId) [] []) 0] (initial _ 1)

theorem forgetfulEnv_silent (history : History embeddedConfig) (context : Nat)
    (methodId : UInt16) (payload : Bytes) :
    (forgetfulEnv.onRequest history context methodId payload).calls = .done :=
  rfl

theorem answeredDevice_sender : SameSender (answeredDevice 1) (answeredDevice 2) := by
  have noKeys : ∀ auth : MessageAuthenticator embeddedConfig, auth.keys = [] → auth = {} := by
    rintro ⟨keys⟩ rfl
    rfl
  have left := noKeys (answeredDevice 1).rt.authenticator (by decide +kernel)
  have right := noKeys (answeredDevice 2).rt.authenticator (by decide +kernel)
  exact ⟨left.trans right.symm, by decide +kernel⟩

def secretService : ServiceEntry where
  serviceId := 0x1000
  majorVersion := 1
  minorVersion := 0
  context := .application 0

theorem answeredDevice_service :
    (answeredDevice 1).rt.dispatcher.find 0x1000 = some secretService ∧
      (answeredDevice 2).rt.dispatcher.find 0x1000 = some secretService :=
  ⟨by decide +kernel, by decide +kernel⟩

theorem answer_secret {device : World embeddedConfig}
    (found : device.rt.dispatcher.find 0x1000 = some secretService) (methodId : UInt16) :
    (device.answer forgetfulEnv 0x1000 methodId []).1 =
      { code := .eOk, responseLength := 4, writes := secretWrites methodId } := by
  rw [answer, found]
  rfl

/-- Whatever has been answered before, the method that writes its answer is answered with the
same frame, and so is a payload sent that is there. -/
theorem frames_forget_written :
    lastSent .reply ((answeredDevice 1).handleRequest forgetfulEnv (Address.zero 8)
        (secretRequest 1) []).history =
      lastSent .reply ((answeredDevice 2).handleRequest forgetfulEnv (Address.zero 8)
        (secretRequest 1) []).history ∧
    lastSent .notification ((answeredDevice 1).transmit forgetfulEnv .notification
        (Address.zero 8) {} (some [1]) 1 false).2.history =
      lastSent .notification ((answeredDevice 2).transmit forgetfulEnv .notification
        (Address.zero 8) {} (some [1]) 1 false).2.history := by
  have forgets := frames_forget_iff forgetfulEnv forgetfulEnv (answeredDevice 1)
    (answeredDevice 2)
  have leftAnswer := answer_secret answeredDevice_service.1 1
  have rightAnswer := answer_secret answeredDevice_service.2 1
  constructor
  · refine (forgets.1 (Address.zero 8) (secretRequest 1) [] ?_).mpr ?_
    · exact answeredAlike_of_noCalls forgetfulEnv_silent forgetfulEnv_silent
        answeredDevice_sender (leftAnswer.trans rightAnswer.symm)
    · exact leftAnswer ▸ ReplyCovered.of_written fun _ below => Writes.covers_start.mpr below
  · exact (forgets.2 answeredDevice_sender .notification (Address.zero 8) {} (.bytes [1])
      false).mpr (.of_bytes [1])

/-- The other methods' answers show what the first has written, and a payload that is not there
what the last frame held. -/
theorem frames_show_earlier_answer :
    let left := answeredDevice 1
    let right := answeredDevice 2
    Reachable forgetfulEnv left ∧ Reachable forgetfulEnv right ∧ SameSender left right ∧
      (∀ methodId ∈ [2, 3],
        AnsweredAlike (left.answer forgetfulEnv 0x1000 methodId [])
          (right.answer forgetfulEnv 0x1000 methodId []) ∧
        lastSent .reply (left.handleRequest forgetfulEnv (Address.zero 8)
            (secretRequest methodId) []).history ≠
          lastSent .reply (right.handleRequest forgetfulEnv (Address.zero 8)
            (secretRequest methodId) []).history) ∧
      lastSent .notification (left.transmit forgetfulEnv .notification (Address.zero 8) {}
          none 4 false).2.history ≠
        lastSent .notification (right.transmit forgetfulEnv .notification (Address.zero 8) {}
          none 4 false).2.history := by
  intro left right
  have stale : left.rt.responseBuffer.bytes[0]? ≠ right.rt.responseBuffer.bytes[0]? := by
    decide +kernel
  have notWritten : ∀ methodId ∈ [2, 3], ¬(secretWrites methodId).Covers 0 :=
    List.forall_mem_cons.mpr ⟨by decide, List.forall_mem_singleton.mpr (by decide)⟩
  refine ⟨⟨1, _, rfl⟩, ⟨1, _, rfl⟩, answeredDevice_sender, ?_, by decide +kernel⟩
  intro methodId member
  have leftAnswer := answer_secret answeredDevice_service.1 methodId
  have rightAnswer := answer_secret answeredDevice_service.2 methodId
  have alike := answeredAlike_of_noCalls forgetfulEnv_silent forgetfulEnv_silent
    answeredDevice_sender (leftAnswer.trans rightAnswer.symm)
  refine ⟨alike, fun equal => ?_⟩
  -- the first byte reported is not written, and the buffers differ there
  have covered : ReplyCovered left right (left.answer forgetfulEnv 0x1000 methodId []).1 :=
    (@replies_eq_iff _ _ _ _ _ _ (Address.zero 8) (secretRequest methodId) [] alike).mp equal
  rw [leftAnswer] at covered
  have fits : 4 ≤ embeddedConfig.maxPayloadSize := by decide
  exact (covered rfl fits 0 (Nat.zero_lt_succ 3)).elim (notWritten methodId member) stale

end World

end Sero
