import Sero.Runtime.Decomposition

/-!
# Payloads that are too long

A message with more than `MaxPayloadSize` bytes cannot be built.  The size is tested
when the message is built, behind the allocation of a request and the sequence counter,
and what the build returns then is handed to the transport as the length of a frame.
-/

namespace Sero

open Library

variable {n : Nat} {cfg : Config n} {env : Env cfg}

/-- The payload a call is to send. -/
def ApiCall.payload : ApiCall cfg → Option Payload
  | .request _ _ _ payload _ _ _ => some payload
  | .fireAndForget _ _ payload => some payload
  | .notifyEvent _ _ payload => some payload
  | _ => none

/-- `std::nullopt` or `false`. -/
def ApiResult.failed : ApiResult → Bool
  | .bool ok => !ok
  | .request _ requestId => requestId.isNone
  | .unit => false

/-- A call has failed and left nothing behind. -/
structure FailsCleanly (before : World cfg) (outcome : ApiResult × World cfg) : Prop where
  failed : outcome.1.failed = true
  noFrame : ∀ kind dest frame ok, .sent kind dest frame ok ∉ outcome.2.since before
  noSequence : outcome.2.rt.e2e.txSeq = before.rt.e2e.txSeq
  noPending : ∀ slot, (outcome.2.rt.requestTracker.entries slot).active = true →
    (before.rt.requestTracker.entries slot).active = true

/-- A frame that ends before its checksum, or before the size its header declares. -/
def TooShort (frame : Bytes) : Prop :=
  frame.length < minMessageSize ∨
    frame.length < (MessageHeader.deserialize frame).expectedSize

namespace World

/-- Does a call return before a message is built? -/
def StopsEarly (w : World cfg) : ApiCall cfg → Prop
  | .request target serviceId _ _ _ _ _ =>
      target.or (w.rt.sd.getProviderAddress serviceId) = none ∨
        w.rt.requestTracker.activeCount = cfg.maxPendingRequests
  | .fireAndForget serviceId _ _ => w.rt.sd.getProviderAddress serviceId = none
  | .notifyEvent serviceId eventId _ => w.rt.eventManager.hasSubscribers serviceId eventId = false
  | _ => True

/-! ## Calls that return early -/

theorem failsCleanly_same {w : World cfg} {result : ApiResult} (failed : result.failed = true) :
    FailsCleanly w (result, w) where
  failed := failed
  noFrame kind dest frame ok := by
    rw [since_eq (List.nil_append _).symm]
    exact List.not_mem_nil
  noSequence := rfl
  noPending _ active := active

theorem StopsEarly.failsCleanly {w : World cfg} {call : ApiCall cfg} {payload : Payload}
    (carries : call.payload = some payload) (early : w.StopsEarly call) :
    FailsCleanly w (w.apiCall env (react env) call) := by
  cases call with
  | request target serviceId methodId payload hasCallback timeoutMs nowMs =>
      have unchanged : w.request env (react env) w.history.length target serviceId methodId
          payload hasCallback timeoutMs nowMs = (none, w) := by
        rw [request]
        cases provider : target.or (w.rt.sd.getProviderAddress serviceId) with
        | none => rfl
        | some provider =>
            rcases early with unknown | full
            · cases unknown.symm.trans provider
            · dsimp only
              rw [requestImpl, submit, (RequestTracker.allocate_eq_none_iff _ _ _ _ _ _).mpr full]
      rw [apiCall, unchanged]
      exact failsCleanly_same rfl
  | fireAndForget serviceId methodId payload =>
      have unknown : w.rt.sd.getProviderAddress serviceId = none := early
      have unchanged : w.fireAndForget env serviceId methodId payload = (false, w) := by
        rw [fireAndForget, unknown]
      rw [apiCall, unchanged]
      exact failsCleanly_same rfl
  | notifyEvent serviceId eventId payload =>
      have nobody : w.rt.eventManager.hasSubscribers serviceId eventId = false := early
      have unchanged : w.notifyEvent env serviceId eventId payload = (false, w) := by
        rw [notifyEvent, nobody]
        rfl
      rw [apiCall, unchanged]
      exact failsCleanly_same rfl
  | _ => cases carries

/-! ## Calls that build a message -/

/-- A frame has been handed to the transport since. -/
def HandsOver (before after : World cfg) : Prop :=
  ∃ kind dest frame ok, (.sent kind dest frame ok :: before.history) <:+ after.history ∨
    ∃ event, (.sent kind dest frame ok :: event :: before.history) <:+ after.history

theorem HandsOver.not_failsCleanly {before : World cfg} {outcome : ApiResult × World cfg}
    (hands : HandsOver before outcome.2) : ¬FailsCleanly before outcome := by
  intro clean
  obtain ⟨kind, dest, frame, ok, ⟨newer, grown⟩ | ⟨event, newer, grown⟩⟩ := hands
  · have events : outcome.2.since before = newer ++ [.sent kind dest frame ok] :=
      since_eq (by rw [← grown]; simp)
    exact clean.noFrame kind dest frame ok (by rw [events]; simp)
  · have events : outcome.2.since before = newer ++ [.sent kind dest frame ok, event] :=
      since_eq (by rw [← grown]; simp)
    exact clean.noFrame kind dest frame ok (by rw [events]; simp)

theorem complete_suffix (cause : Cause) (requestId : UInt32) (rc : ReturnCode) (payload : Bytes)
    (w : World cfg) :
    w.history <:+ (RequestTracker.complete trackerLens (invokeRequest cause (react env))
      requestId rc payload w).2.history := by
  rw [RequestTracker.complete]
  cases (trackerLens.get w).findActive requestId with
  | none => exact List.suffix_refl _
  | some slot =>
      simp only [RequestTracker.finish, trackerLens_get]
      cases (w.rt.requestTracker.entries slot).callback with
      | none => exact List.suffix_refl _
      | some handle =>
          let released := trackerLens.modify (fun tracker => tracker.release slot) w
          let entered := released.emit (.callback (.request handle cause rc payload))
          have ran := Steps.suffix (@react_steps _ _ env entered).steps
          exact (List.suffix_cons _ _).trans ran

theorem requestImpl_suffix (handle : Nat) (target : Address n) (serviceId methodId : UInt16)
    (payload : Payload) (hasCallback : Bool) (timeoutMs nowMs : UInt32) (w : World cfg) :
    (w.submit env handle target serviceId methodId payload hasCallback timeoutMs
        nowMs).2.history <:+
      (w.requestImpl env (react env) handle target serviceId methodId payload hasCallback
        timeoutMs nowMs).2.history := by
  rw [requestImpl]
  rcases w.submit env handle target serviceId methodId payload hasCallback timeoutMs nowMs with
    ⟨answer, after⟩
  cases answer with
  | none => exact List.suffix_refl _
  | some issued =>
      obtain ⟨requestId, ok⟩ := issued
      cases ok with
      | true => exact List.suffix_refl _
      | false =>
          exact (complete_suffix .sendFailed requestId .eNotOk [] after).trans
            (countRefusal_suffix false _)

theorem transmit_suffix (kind : SendKind) (dest : Address n) (hdr : MessageHeader)
    (payload : Option Bytes) (payloadLength : Nat) (auth : Bool) (w : World cfg) :
    let result := w.transmit env kind dest hdr payload payloadLength auth
    ∃ frame ok, (.sent kind dest frame ok :: w.history) <:+
      (result.2.countRefusal result.1).history := by
  intro result
  exact ⟨_, _, countRefusal_suffix result.1 result.2⟩

theorem notifyOne_suffix (serviceId eventId : UInt16) (payload : Payload) (w : World cfg)
    (dest : Address n) : ∃ frame ok, (.sent .notification dest frame ok :: w.history) <:+
      (w.notifyOne env serviceId eventId payload dest).history := by
  rw [notifyOne]
  exact transmit_suffix ..

theorem foldl_notifyOne_suffix (serviceId eventId : UInt16) (payload : Payload)
    (dests : List (Address n)) (w : World cfg) :
    w.history <:+ (dests.foldl (notifyOne env serviceId eventId payload) w).history := by
  induction dests generalizing w with
  | nil => exact List.suffix_refl _
  | cons dest rest ih =>
      obtain ⟨frame, ok, sent⟩ := @notifyOne_suffix _ _ env serviceId eventId payload w dest
      exact ((List.suffix_cons _ _).trans sent).trans (ih _)

/-- A call that does not return early hands a frame to the transport. -/
theorem handsOver_of_not_stopsEarly {w : World cfg} {call : ApiCall cfg} {payload : Payload}
    (carries : call.payload = some payload) (late : ¬w.StopsEarly call) :
    HandsOver w (w.apiCall env (react env) call).2 := by
  cases call with
  | request target serviceId methodId payload hasCallback timeoutMs nowMs =>
      rw [StopsEarly, not_or, ← RequestTracker.allocate_eq_none_iff _ serviceId methodId
        timeoutMs nowMs (if hasCallback then some w.history.length else none)] at late
      obtain ⟨provider, known⟩ := Option.ne_none_iff_exists'.mp late.1
      have whole := @requestImpl_suffix _ _ env w.history.length provider serviceId methodId
        payload hasCallback timeoutMs nowMs w
      rcases @submit_spec _ _ env w.history.length provider serviceId methodId payload
        hasCallback timeoutMs nowMs w with
        ⟨full, -⟩ | ⟨requestId, tracker, ok, -, -, -, -, rt, auth, history⟩
      · exact absurd full late.2
      · rw [history] at whole
        rw [apiCall, request, known]
        exact ⟨_, _, _, _, .inr ⟨_, whole⟩⟩
  | fireAndForget serviceId methodId payload =>
      obtain ⟨provider, known⟩ := Option.ne_none_iff_exists'.mp late
      rw [apiCall, fireAndForget, known]
      obtain ⟨frame, ok, sent⟩ := @transmit_suffix _ _ env .fireAndForget provider {
        messageType := MessageType.requestNoReturn.toByte
        flags := if w.rt.shouldAuthOutgoing provider then flagAuth else 0
        serviceId
        methodEventId := methodId
        clientId := w.rt.clientId
        requestId := requestIdNone
        payloadLength := UInt32.ofNat payload.length } payload.data payload.length
        (w.rt.shouldAuthOutgoing provider) w
      exact ⟨.fireAndForget, provider, frame, ok, .inl sent⟩
  | notifyEvent serviceId eventId payload =>
      have subscribed : w.rt.eventManager.hasSubscribers serviceId eventId = true := by
        rwa [StopsEarly, Bool.not_eq_false] at late
      rw [apiCall, notifyEvent, if_pos subscribed]
      rw [EventManager.hasSubscribers] at subscribed
      rw [EventManager.notify]
      cases found : w.rt.eventManager.findEvent serviceId eventId with
      | none =>
          rw [found] at subscribed
          cases subscribed
      | some slot =>
          rw [found] at subscribed
          cases subscribers : slot.subscribers with
          | nil => simp [subscribers] at subscribed
          | cons subscriber rest =>
              obtain ⟨frame, ok, sent⟩ :=
                @notifyOne_suffix _ _ env serviceId eventId payload w subscriber.addr
              have others := @foldl_notifyOne_suffix _ _ env serviceId eventId payload
                (rest.map Subscriber.addr) (w.notifyOne env serviceId eventId payload
                  subscriber.addr)
              dsimp only
              rw [subscribers, List.map_cons, List.foldl_cons]
              exact ⟨.notification, subscriber.addr, frame, ok, .inl (sent.trans others)⟩
  | _ => cases carries

/-! ## Replies -/

theorem tooShort_nil : TooShort [] :=
  .inl (by decide)

/-- A message that could be built is as long as its header says. -/
theorem not_tooShort_builtFrame (rt : Runtime cfg) (payload : Option Bytes) (peer : Address n)
    {hdr : MessageHeader} {payloadLength : Nat} {auth : Bool}
    (fits : payloadLength ≤ cfg.maxPayloadSize) (declared : hdr.payloadLength.toNat = payloadLength)
    (flagged : hdr.hasAuth = auth) :
    ¬TooShort (rt.builtFrame hdr payload payloadLength auth peer) := by
  obtain ⟨body, tag, frame, bodyLength, -, tagged⟩ :=
    buildMessage_frame rt hdr payload payloadLength auth peer fits
  have tagLength : tag.length = if auth then hmacSize else 0 := by
    rw [tagged]
    split
    · exact rt.messageTag_length _ _ _
    · rfl
  rw [frame, TooShort, messageFrame_length, deserialize_messageFrame, MessageHeader.expectedSize,
    declared, flagged, bodyLength, tagLength, minMessageSize, not_or]
  constructor
  · omega
  · exact Nat.lt_irrefl _

theorem hasAuth_makeReplyHeader (hdr : MessageHeader) (rc : ReturnCode) (responseLength : Nat)
    (auth : Bool) (sequenceCounter : UInt8) :
    MessageHeader.hasAuth
      { makeReplyHeader hdr rc responseLength auth with sequenceCounter } = auth := by
  cases auth with
  | false => exact (by decide : ((0 : UInt8) &&& flagAuth != 0) = false)
  | true => exact (by decide : (flagAuth &&& flagAuth != 0) = true)

/-- The frame of a reply is too short exactly when it could not be built. -/
theorem reply_tooShort_iff (rt : Runtime cfg) (source : Address n) (hdr : MessageHeader)
    (rc : ReturnCode) (responseLength : Nat) (auth : Bool) (sequenceCounter : UInt8) :
    TooShort (rt.builtFrame
        { makeReplyHeader hdr rc responseLength auth with sequenceCounter }
        (if rc = .eOk then some rt.responseBuffer.bytes else none)
        (if rc = .eOk then responseLength else 0) auth source) ↔
      rc = .eOk ∧ cfg.maxPayloadSize < responseLength := by
  have flagged := hasAuth_makeReplyHeader hdr rc responseLength auth sequenceCounter
  by_cases isOk : rc = .eOk
  · by_cases fits : responseLength ≤ cfg.maxPayloadSize
    · have small : responseLength < UInt32.size :=
        Nat.lt_of_le_of_lt (fits.trans cfg.maxPayloadSize_le) (by decide)
      have built := not_tooShort_builtFrame rt (some rt.responseBuffer.bytes) source fits (by
          simp only [makeReplyHeader, if_pos isOk]
          exact UInt32.toNat_ofNat_of_lt' small) flagged
      simp only [if_pos isOk]
      constructor
      · exact fun short => absurd short built
      · exact fun both => absurd fits (Nat.not_le.mpr both.2)
    · have long := Nat.not_le.mp fits
      have empty : rt.builtFrame
          { makeReplyHeader hdr rc responseLength auth with sequenceCounter }
          (if rc = .eOk then some rt.responseBuffer.bytes else none)
          (if rc = .eOk then responseLength else 0) auth source = [] := by
        simp only [if_pos isOk, Runtime.builtFrame, Runtime.buildMessage, if_pos long,
          List.take_zero]
      rw [empty]
      exact ⟨fun _ => ⟨isOk, long⟩, fun _ => tooShort_nil⟩
  · have built := not_tooShort_builtFrame rt none source
      (Nat.zero_le cfg.maxPayloadSize) (by simp only [makeReplyHeader, if_neg isOk]; rfl) flagged
    simp only [if_neg isOk]
    constructor
    · exact fun short => absurd short built
    · exact fun both => absurd both.1 isOk

/-- The only frame handed over by the second half of `handle_request` is the reply. -/
theorem sendReply_sent {source : Address n} {hdr : MessageHeader} {payload : Bytes}
    {rc : ReturnCode} {responseLength : Nat} {w : World cfg} (tooShort : Bytes → Prop) :
    (∀ kind dest frame ok, .sent kind dest frame ok ∈
        (w.sendReply env source hdr payload rc responseLength).since w → ¬tooShort frame) ↔
      ¬tooShort (w.rt.builtFrame
        { makeReplyHeader hdr rc responseLength (w.rt.shouldAuthOutgoing source) with
          sequenceCounter := w.rt.e2e.nextSequence.1 }
        (if rc = .eOk then some w.rt.responseBuffer.bytes else none)
        (if rc = .eOk then responseLength else 0) (w.rt.shouldAuthOutgoing source) source) := by
  obtain ⟨after, ok, equal, -, history⟩ :=
    sendReply_spec env source hdr payload rc responseLength w
  obtain ⟨counted, countedHistory, quiet⟩ : ∃ events : History cfg,
      (after.countRefusal ok).history = events ++ after.history ∧
        ∀ event ∈ events, event = .diagnostic .droppedMessages none := by
    rw [countRefusal]
    split
    · exact ⟨[], rfl, by simp⟩
    · rw [increment]
      split
      · exact ⟨[_], rfl, by simp⟩
      · exact ⟨[], rfl, by simp⟩
  generalize w.rt.builtFrame _ _ _ _ _ = reply at history ⊢
  have whole : (after.countRefusal ok).history = (counted ++ [.sent .reply source reply ok,
      .executed source hdr.requestId hdr.serviceId hdr.methodEventId payload rc
        (responseOf w.rt rc responseLength)]) ++ w.history := by
    rw [countedHistory, history]
    simp
  rw [equal, since_eq whole]
  constructor
  · intro every
    apply every .reply source reply ok
    simp
  · intro whenSent kind dest frame sentOk member
    rcases List.mem_append.mp member with old | new
    · cases quiet _ old
    · rcases List.mem_cons.mp new with same | executed
      · cases same
        exact whenSent
      · simp at executed

/-- An oversized payload fails cleanly exactly in calls that return before they build a
message, and a handler's oversized answer is always sent as a frame that is too short. -/
theorem oversized_fails_cleanly_iff (env : Env cfg) (w : World cfg) :
    (∀ (call : ApiCall cfg) (payload : Payload), call.payload = some payload →
      cfg.maxPayloadSize < payload.length →
      (FailsCleanly w (w.apiCall env (react env) call) ↔ w.StopsEarly call)) ∧
    ∀ (source : Address n) (hdr : MessageHeader) (payload : Bytes),
      let dispatched := w.dispatch env hdr.serviceId hdr.methodEventId payload
      (∀ kind dest frame ok, .sent kind dest frame ok ∈
          (w.handleRequest env source hdr payload).since dispatched.2 → ¬TooShort frame) ↔
        ¬(dispatched.1.1 = .eOk ∧ cfg.maxPayloadSize < dispatched.1.2) := by
  constructor
  · intro call payload carries _
    constructor
    · intro clean
      by_contra late
      exact (handsOver_of_not_stopsEarly carries late).not_failsCleanly clean
    · exact fun early => early.failsCleanly carries
  · intro source hdr payload dispatched
    have sent := @sendReply_sent _ _ env source hdr payload dispatched.1.1 dispatched.1.2
      dispatched.2 TooShort
    rw [reply_tooShort_iff] at sent
    exact sent

/-! A request of 257 bytes, and a handler that reports as many. -/

def oversizedRequest : ApiCall embeddedConfig :=
  .request (some (Address.zero 8)) 0x1000 1 (.bytes (List.replicate 257 0)) true 100 0

def overlongEnv : Env embeddedConfig where
  sendOk _ _ _ := true
  broadcastOk _ _ := true
  isReady _ _ := true
  onRequest _ _ _ _ := { code := .eOk, responseLength := 257 }
  react _ := .done

def overlongDevice : World embeddedConfig :=
  run overlongEnv [.api (.registerService 0x1000 0 1 0 false)] (initial _ 1)

theorem oversized_notification_without_subscribers :
    let w := initial embeddedConfig 1
    let call : ApiCall embeddedConfig :=
      .notifyEvent 0x1000 0x8001 (.bytes (List.replicate 257 0))
    FailsCleanly w (w.apiCall (.benign _) (react (.benign _)) call) :=
  ((oversized_fails_cleanly_iff (.benign _) (initial _ 1)).1 _ _ rfl
    (by decide +kernel)).mpr rfl

/-- The request is accepted, draws a sequence counter and stays pending, while its frame
is empty; so is the frame of the reply. -/
theorem oversized_request_is_sent :
    let w := initial embeddedConfig 1
    let outcome := w.apiCall (.benign _) (react (.benign _)) oversizedRequest
    let request : MessageHeader := {
      serviceId := 0x1000, methodEventId := 1, clientId := 7, requestId := 1 }
    let dispatched := overlongDevice.dispatch overlongEnv 0x1000 1 []
    Reachable (.benign _) w ∧ outcome.1 = .request 0 (some 1) ∧
      outcome.2.rt.e2e.txSeq = 1 ∧
      (outcome.2.rt.requestTracker.entries ⟨0, by decide⟩).active = true ∧
      ¬FailsCleanly w outcome ∧
      Reachable overlongEnv overlongDevice ∧ dispatched.1 = (.eOk, 257) ∧
      ¬∀ kind dest frame ok, .sent kind dest frame ok ∈
        (overlongDevice.handleRequest overlongEnv (Address.zero 8) request []).since
          dispatched.2 → ¬TooShort frame := by
  intro w outcome request dispatched
  have accepted : outcome.1 = .request 0 (some 1) := by decide +kernel
  have overlong : dispatched.1 = (.eOk, 257) := by decide +kernel
  refine ⟨⟨1, [], rfl⟩, accepted, by decide +kernel, by decide +kernel, ?_, ⟨1, _, rfl⟩,
    overlong, ?_⟩
  · intro clean
    have failed := clean.failed
    rw [accepted] at failed
    cases failed
  · have sent := @sendReply_sent _ _ overlongEnv (Address.zero 8) request [] dispatched.1.1
      dispatched.1.2 dispatched.2 TooShort
    rw [reply_tooShort_iff, overlong] at sent
    intro every
    exact sent.mp every ⟨rfl, by decide⟩

end World

end Sero
