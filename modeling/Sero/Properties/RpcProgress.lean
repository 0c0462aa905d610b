import Sero.Properties.Agreement
import Sero.Properties.ReceivePipeline
import Sero.Properties.RequestOutcome
import Sero.Properties.SignedFrames

/-!
# Requests are answered

A request whose frame reaches its provider is answered, whoever answers it, and a reply that
reaches the client in time completes the request.  The two ends need a key in common or none,
room for each other's payloads and sequence counters that are not used up.
-/

namespace Sero

open Library

variable {n : Nat} {cfg : Config n} {env : Env cfg}

namespace World

/-! ## The request -/

/-- The header a request has on the network. -/
def requestHeader (rt : Runtime cfg) (provider : Address n) (serviceId methodId : UInt16)
    (payloadLength : Nat) (requestId : UInt32) : MessageHeader :=
  { makeRequestHeader rt serviceId methodId payloadLength requestId
      (rt.shouldAuthOutgoing provider) with
    sequenceCounter := rt.e2e.nextSequence.1 }

theorem hasAuth_flags (auth : Bool) :
    ((if auth then flagAuth else 0) &&& flagAuth != 0) = auth := by
  cases auth <;> decide

theorem hasAuth_requestHeader (rt : Runtime cfg) (provider : Address n)
    (serviceId methodId : UInt16) (payloadLength : Nat) (requestId : UInt32) :
    (requestHeader rt provider serviceId methodId payloadLength requestId).hasAuth =
      (rt.authenticator.keyFor provider).isSome := by
  rw [← shouldAuthOutgoing_eq]
  exact hasAuth_flags _

theorem requestHeader_valid {receiver : Config n} {rt : Runtime cfg} (provider : Address n)
    (serviceId : UInt16) {methodId : UInt16} {body : Bytes} (requestId : UInt32)
    (isMethod : isMethodId methodId = true) (identified : rt.clientId ≠ 0)
    (fits : body.length ≤ receiver.maxPayloadSize) :
    ValidHeader receiver
      (requestHeader rt provider serviceId methodId body.length requestId) body where
  version := rfl
  messageType := rfl
  typeId := isMethod
  clientId := bne_iff_ne.mpr identified
  payloadLength := UInt32.toNat_ofNat_of_lt
    (Nat.lt_of_le_of_lt (fits.trans receiver.maxPayloadSize_le) (by decide))
  fits := fits

variable {handle : Nat} {target : Option (Address n)} {provider : Address n}
  {serviceId methodId : UInt16} {payload : Payload} {hasCallback : Bool}
  {timeoutMs nowMs : UInt32} {requestId : UInt32} {w : World cfg}

theorem submit_signed {ok : Bool} {after : World cfg}
    (fits : payload.length ≤ cfg.maxPayloadSize)
    (submitted : w.submit env handle provider serviceId methodId payload hasCallback timeoutMs
      nowMs = (some (requestId, ok), after)) :
    ∃ body, body.length = payload.length ∧ payload.Denotes body ∧
      after.history = .sent (.request handle) provider
          (signedFrame (w.rt.authenticator.keyFor provider)
            (requestHeader w.rt provider serviceId methodId body.length requestId) body) ok ::
        .issued handle requestId provider serviceId methodId payload hasCallback ::
        w.history := by
  rw [submit] at submitted
  cases allocated : w.rt.requestTracker.allocate serviceId methodId timeoutMs nowMs
      (if hasCallback then some handle else none) with
  | none =>
      rw [allocated] at submitted
      cases submitted
  | some allocation =>
      obtain ⟨given, requestTracker⟩ := allocation
      rw [allocated] at submitted
      obtain ⟨body, size, denotes, built⟩ := builtFrame_denotes
        { w.rt with requestTracker := requestTracker }
        (requestHeader w.rt provider serviceId methodId payload.length given) provider fits
      cases submitted
      refine ⟨body, size, denotes, ?_⟩
      rw [size, ← built]
      rfl

/-- A request that gets an id has been handed to the transport, which took it. -/
theorem request_sent {body : World cfg → World cfg}
    (known : target.or (w.rt.sd.getProviderAddress serviceId) = some provider)
    (fits : payload.length ≤ cfg.maxPayloadSize)
    (accepted : (w.request env body handle target serviceId methodId payload hasCallback timeoutMs
      nowMs).1 = some requestId) :
    ∃ bytes, bytes.length = payload.length ∧ payload.Denotes bytes ∧
      (w.request env body handle target serviceId methodId payload hasCallback timeoutMs
          nowMs).2.history =
        .sent (.request handle) provider
          (signedFrame (w.rt.authenticator.keyFor provider)
            (requestHeader w.rt provider serviceId methodId bytes.length requestId) bytes) true ::
        .issued handle requestId provider serviceId methodId payload hasCallback ::
        w.history := by
  rw [request, known] at accepted ⊢
  dsimp only at accepted ⊢
  rw [requestImpl] at accepted ⊢
  rcases submitted : w.submit env handle provider serviceId methodId payload hasCallback timeoutMs
    nowMs with ⟨answer, after⟩
  rw [submitted] at accepted
  cases answer with
  | none => cases accepted
  | some issued =>
      obtain ⟨given, ok⟩ := issued
      cases ok with
      | false => cases accepted
      | true =>
          cases accepted
          exact submit_signed fits submitted

/-- The same with the return of the call. -/
theorem request_performed
    (known : target.or (w.rt.sd.getProviderAddress serviceId) = some provider)
    (fits : payload.length ≤ cfg.maxPayloadSize)
    (accepted : (w.apiCall env (react env) (.request target serviceId methodId payload hasCallback
      timeoutMs nowMs)).1 = .request handle (some requestId)) :
    ∃ bytes, bytes.length = payload.length ∧ payload.Denotes bytes ∧
      (w.step env (.api (.request target serviceId methodId payload hasCallback timeoutMs
          nowMs))).history =
        .returned (.request target serviceId methodId payload hasCallback timeoutMs nowMs)
          (.request handle (some requestId)) ::
        .sent (.request handle) provider
          (signedFrame (w.rt.authenticator.keyFor provider)
            (requestHeader w.rt provider serviceId methodId bytes.length requestId) bytes) true ::
        .issued handle requestId provider serviceId methodId payload hasCallback ::
        w.history := by
  have result : (w.apiCall env (react env) (.request target serviceId methodId payload hasCallback
      timeoutMs nowMs)).1 = .request w.history.length (w.request env (react env) w.history.length
        target serviceId methodId payload hasCallback timeoutMs nowMs).1 := rfl
  rw [result] at accepted
  obtain ⟨rfl, given⟩ := ApiResult.request.inj accepted
  obtain ⟨bytes, size, denotes, history⟩ := request_sent known fits given
  refine ⟨bytes, size, denotes, ?_⟩
  rw [← history, ← accepted]
  rfl

/-! ## The reply and the callback -/

/-- The header a reply has on the network. -/
def replyHeader (keyed : Bool) (sequenceCounter : UInt8) (hdr : MessageHeader) (rc : ReturnCode)
    (response : Bytes) : MessageHeader :=
  { makeReplyHeader hdr rc response.length keyed with sequenceCounter }

theorem replyHeader_valid {receiver : Config n} {hdr : MessageHeader} {rc : ReturnCode}
    {response : Bytes} (keyed : Bool) (sequenceCounter : UInt8)
    (isMethod : isMethodId hdr.methodEventId = true) (failed : rc ≠ .eOk → response = [])
    (fits : response.length ≤ receiver.maxPayloadSize) :
    ValidHeader receiver (replyHeader keyed sequenceCounter hdr rc response) response := by
  have small : response.length < UInt32.size :=
    Nat.lt_of_le_of_lt (fits.trans receiver.maxPayloadSize_le) (by decide)
  by_cases isOk : rc = .eOk
  · subst isOk
    exact {
      version := rfl
      messageType := rfl
      typeId := isMethod
      clientId := rfl
      payloadLength := UInt32.toNat_ofNat_of_lt small
      fits }
  · have empty := failed isOk
    subst empty
    have type : (replyHeader keyed sequenceCounter hdr rc []).messageType =
        MessageType.error.toByte := if_neg isOk
    exact {
      version := rfl
      messageType := by rw [type]; rfl
      typeId := by
        rw [MessageHeader.validateTypeIdConsistency, type]
        exact isMethod
      clientId := by
        rw [MessageHeader.validateClientId, type]
        rfl
      payloadLength := by simp [replyHeader, makeReplyHeader, isOk]
      fits }

/-- What a request that has passed validation is answered with: an error if no service is
registered or it says that it is not ready, else the code its handler returns when it is
entered. -/
inductive AnsweredBy (env : Env cfg) (validated : World cfg) (whole : History cfg)
    (serviceId methodId : UInt16) (body : Bytes) : ReturnCode → Prop where
  | unknown (unregistered : validated.rt.dispatcher.find serviceId = none) :
      AnsweredBy env validated whole serviceId methodId body .eUnknownService
  | notReady {entry : ServiceEntry} (found : validated.rt.dispatcher.find serviceId = some entry)
      (declined : validated.isReady env entry.context = false) :
      AnsweredBy env validated whole serviceId methodId body .eNotReady
  | handler {entry : ServiceEntry} (found : validated.rt.dispatcher.find serviceId = some entry)
      (ready : validated.isReady env entry.context = true)
      (entered : (.onRequest entry validated.rt.authenticator methodId body
        (some cfg.maxPayloadSize) :: validated.history) <:+ whole) :
      AnsweredBy env validated whole serviceId methodId body
        (validated.callHandler env entry methodId body (some cfg.maxPayloadSize)).1.code

theorem AnsweredBy.later {validated : World cfg} {history whole : History cfg}
    {serviceId methodId : UInt16} {body : Bytes} {rc : ReturnCode}
    (answered : AnsweredBy env validated history serviceId methodId body rc)
    (grown : history <:+ whole) : AnsweredBy env validated whole serviceId methodId body rc := by
  cases answered with
  | unknown unregistered => exact .unknown unregistered
  | notReady found declined => exact .notReady found declined
  | handler found ready entered => exact .handler found ready (entered.trans grown)

theorem dispatch_answers (serviceId methodId : UInt16) (body : Bytes) (w : World cfg) :
    let result := w.dispatch env serviceId methodId body
    AnsweredBy env w result.2.history serviceId methodId body result.1.1 := by
  simp only [dispatch]
  cases found : w.rt.dispatcher.find serviceId with
  | none => exact .unknown found
  | some entry =>
      dsimp only
      split
      · next ready => exact .handler found ready (callHandler_suffix entry methodId body _ w)
      · next declined => exact .notReady found (Bool.eq_false_iff.mpr declined)

/-- What is sent for an outcome: the response, or an error without payload. -/
theorem sendReply_signed {source : Address n} {hdr : MessageHeader} {payload : Bytes}
    {rc : ReturnCode} {responseLength : Nat} {w : World cfg}
    (fits : responseLength ≤ cfg.maxPayloadSize) :
    let after := w.sendReply env source hdr payload rc responseLength
    let key := w.rt.authenticator.keyFor source
    ∃ response sequenceCounter ok, (rc ≠ .eOk → response = []) ∧
      after.rt.authenticator = w.rt.authenticator ∧
      (.sent .reply source
          (signedFrame key (replyHeader key.isSome sequenceCounter hdr rc response) response) ok ::
        .executed source hdr.requestId hdr.serviceId hdr.methodEventId payload rc response ::
        w.history) <:+ after.history := by
  intro after key
  obtain ⟨sent, ok, equal, rt, history⟩ :=
    sendReply_spec env source hdr payload rc responseLength w
  have counted := countRefusal_suffix ok sent
  have keys : after.rt.authenticator = w.rt.authenticator := by
    change (w.sendReply env source hdr payload rc responseLength).rt.authenticator = _
    rw [equal, (countRefusal_core ok sent).authenticator, rt]
  rw [← equal] at counted
  refine ⟨responseOf w.rt rc responseLength, w.rt.e2e.nextSequence.1, ok, ?_, keys, ?_⟩
  · intro failed
    exact if_neg failed
  · rw [history] at counted
    have bounded : (if rc = .eOk then responseLength else 0) ≤ cfg.maxPayloadSize := by
      split
      · exact fits
      · exact Nat.zero_le _
    obtain ⟨body, size, copied, built⟩ := builtFrame_signed w.rt
      { makeReplyHeader hdr rc responseLength (w.rt.shouldAuthOutgoing source) with
        sequenceCounter := w.rt.e2e.nextSequence.1 }
      (if rc = .eOk then some w.rt.responseBuffer.bytes else none) source bounded
    have same : body = responseOf w.rt rc responseLength := by
      rw [responseOf]
      split
      · next isOk =>
          rw [copied w.rt.responseBuffer.bytes (if_pos isOk)
            (by rw [w.rt.responseBuffer.length_eq]; exact bounded), if_pos isOk]
      · next failed =>
          rw [if_neg failed] at size
          exact List.eq_nil_of_length_eq_zero size
    have header : { makeReplyHeader hdr rc responseLength (w.rt.shouldAuthOutgoing source) with
        sequenceCounter := w.rt.e2e.nextSequence.1 } =
        replyHeader key.isSome w.rt.e2e.nextSequence.1 hdr rc body := by
      rw [shouldAuthOutgoing_eq, replyHeader]
      by_cases isOk : rc = .eOk
      · rw [if_pos isOk] at size
        rw [size]
      · simp only [makeReplyHeader, if_neg isOk]
        rfl
    rw [built, header, same] at counted
    exact counted

/-- Every request that is not discarded is executed and answered. -/
theorem request_answered (honest : env.Honest) {source : Address n} {data : Bytes}
    {hdr : MessageHeader} {w : World cfg} (passes : (w.validate source data).1 = some hdr)
    (notSd : hdr.serviceId ≠ sdServiceId)
    (isRequest : MessageType.ofByte hdr.messageType = some .request) (nowMs : UInt32) :
    let after := w.validateAndDispatch env source data nowMs
    let key := after.rt.authenticator.keyFor source
    ∃ rc response sequenceCounter ok, (rc ≠ .eOk → response = []) ∧
      AnsweredBy env (w.validate source data).2 after.history hdr.serviceId hdr.methodEventId
        (payloadOf hdr data) rc ∧
      Runs.Added w.history (.executed source hdr.requestId hdr.serviceId hdr.methodEventId
        (payloadOf hdr data) rc response) after.history ∧
      Runs.Added w.history (.sent .reply source
        (signedFrame key (replyHeader key.isSome sequenceCounter hdr rc response) response) ok)
        after.history := by
  have accepted := accepted_of_passed passes
  have arrived : w.history <:+ (w.validate source data).2.history :=
    (validate_observes source data w).suffix
  have unfolded : w.validateAndDispatch env source data nowMs =
      (w.validate source data).2.handleRequest env source hdr (payloadOf hdr data) := by
    rw [validateAndDispatch]
    rcases outcome : w.validate source data with ⟨passed, validated⟩
    rw [outcome] at passes
    cases passes
    simp only [dispatchMessage, if_neg notSd, isRequest]
  rw [unfolded, handleRequest]
  generalize (w.validate source data).2 = validated at accepted arrived
  obtain ⟨walked, fits⟩ := (@plainWalk_plainSteps _ _ env).dispatch accepted notSd
  have answers := @dispatch_answers _ _ env hdr.serviceId hdr.methodEventId (payloadOf hdr data)
    validated
  rcases dispatched : validated.dispatch env hdr.serviceId hdr.methodEventId (payloadOf hdr data)
    with ⟨⟨rc, responseLength⟩, served⟩
  rw [dispatched] at answers walked fits
  obtain ⟨response, sequenceCounter, ok, failed, keys, replied⟩ :=
    @sendReply_signed _ _ env source hdr (payloadOf hdr data) rc responseLength served (fits honest)
  have grown : w.history <:+ served.history := arrived.trans walked.steps.suffix
  have executed := (List.suffix_cons _ _).trans replied
  rw [← keys] at replied
  exact ⟨rc, response, sequenceCounter, ok, failed,
    answers.later ((List.suffix_cons _ _).trans executed), ⟨_, grown, executed⟩,
    _, grown.trans (List.suffix_cons _ _), replied⟩

/-- A reply with the id of a pending request runs its callback. -/
theorem reply_runs_callback {source : Address n} {data : Bytes} {hdr : MessageHeader}
    {w : World cfg} (passes : (w.validate source data).1 = some hdr)
    (notSd : hdr.serviceId ≠ sdServiceId)
    (isReply : MessageType.ofByte hdr.messageType = some .response ∨
      MessageType.ofByte hdr.messageType = some .error)
    {slot : Fin cfg.maxPendingRequests} {handle : Nat}
    (found : w.rt.requestTracker.findActive hdr.requestId = some slot)
    (owed : (w.rt.requestTracker.entries slot).callback = some handle) (nowMs : UInt32) :
    .callback (.request handle .reply ⟨hdr.returnCode⟩ (payloadOf hdr data)) ∈
      (w.validateAndDispatch env source data nowMs).history := by
  obtain ⟨validated, outcome⟩ : ∃ validated, w.validate source data = (some hdr, validated) :=
    ⟨_, Prod.ext passes rfl⟩
  have tracker : validated.rt.requestTracker = w.rt.requestTracker := by
    obtain ⟨diag, rt, -⟩ := w.validate_rt source data
    rw [outcome] at rt
    rw [rt]
  have dispatched : w.validateAndDispatch env source data nowMs =
      validated.handleReply env hdr (payloadOf hdr data) := by
    rw [validateAndDispatch, outcome]
    simp only [dispatchMessage, if_neg notSd]
    rcases isReply with response | error
    · rw [response]
    · rw [error]
  rw [dispatched, handleReply, RequestTracker.complete, trackerLens_get, tracker, found]
  simp only [RequestTracker.finish, trackerLens_get, tracker, owed]
  exact (Steps.suffix (react_steps _).steps).subset (.head _)

/-- The same for a reply as it is sent, and with what was sent. -/
theorem Admits.reply_runs_callback {w : World cfg} {source : Address n} {hdr : MessageHeader}
    {key : Option Bytes} {rc : ReturnCode} {response : Bytes} {sequenceCounter : UInt8}
    (admits : w.Admits source hdr.serviceId sequenceCounter key)
    (notSd : hdr.serviceId ≠ sdServiceId) (isMethod : isMethodId hdr.methodEventId = true)
    (failed : rc ≠ .eOk → response = []) (fits : response.length ≤ cfg.maxPayloadSize)
    {slot : Fin cfg.maxPendingRequests} {handle : Nat}
    (found : w.rt.requestTracker.findActive hdr.requestId = some slot)
    (owed : (w.rt.requestTracker.entries slot).callback = some handle) (nowMs : UInt32) :
    .callback (.request handle .reply rc response) ∈
      (w.validateAndDispatch env source
        (signedFrame key (replyHeader key.isSome sequenceCounter hdr rc response) response)
        nowMs).history := by
  have valid := @replyHeader_valid n cfg hdr rc response key.isSome sequenceCounter isMethod failed
    fits
  have replied : w.Admits source
      (replyHeader key.isSome sequenceCounter hdr rc response).serviceId
      (replyHeader key.isSome sequenceCounter hdr rc response).sequenceCounter key := admits
  obtain ⟨passes, read⟩ := replied.validate valid (hasAuth_flags _)
  have isReply : MessageType.ofByte
      (replyHeader key.isSome sequenceCounter hdr rc response).messageType = some .response ∨
      MessageType.ofByte
        (replyHeader key.isSome sequenceCounter hdr rc response).messageType = some .error := by
    by_cases isOk : rc = .eOk
    · subst isOk
      exact .inl rfl
    · have type : (replyHeader key.isSome sequenceCounter hdr rc response).messageType =
          MessageType.error.toByte := if_neg isOk
      rw [type]
      exact .inr rfl
  have called := @World.reply_runs_callback _ _ env _ _ _ _ passes notSd isReply _ _ found owed
    nowMs
  rwa [read] at called

end World

/-- Ids of pending requests are distinct in every run. -/
theorem World.Reachable.uniqueIds {w : World cfg} (reachable : World.Reachable env w)
    (bounded : cfg.maxPendingRequests < UInt32.size) : w.rt.requestTracker.UniqueIds := by
  apply reachable.invariant fun _ => RequestTracker.uniqueIds_empty
  intro kind before after unique step
  have table := step.frame.requestTracker
  cases step with
  | @submit handle target serviceId methodId payload hasCallback timeoutMs nowMs =>
      rcases @World.submit_spec _ _ env handle target serviceId methodId payload hasCallback
          timeoutMs nowMs before with
        ⟨-, none⟩ | ⟨requestId, tracker, ok, allocated, -, filled, -⟩
      · rwa [none]
      · rw [filled]
        exact unique.allocate bounded allocated
  | finish =>
      rw [World.finish_requestTracker]
      exact unique.release _
  | _ => rwa [table (by simp)]

/-- A request whose callback has not run is pending under its id. -/
theorem World.Reachable.pending_of_uncalled {w : World cfg} (reachable : World.Reachable env w)
    (bounded : cfg.maxPendingRequests < UInt32.size) {handle : Nat} {requestId : UInt32}
    {target : Address n} {serviceId methodId : UInt16} {payload : Payload}
    (issued : .issued handle requestId target serviceId methodId payload true ∈ w.history)
    (uncalled : handle ∉ calledHandles w.history) :
    ∃ slot, w.rt.requestTracker.findActive requestId = some slot ∧
      (w.rt.requestTracker.entries slot).callback = some handle := by
  have tracked := reachable.requestsTracked
  have member : handle ∈ issuedHandles w.history := mem_issuedHandles.mpr ⟨_, _, _, _, _, issued⟩
  rw [tracked.balance.mem_iff, List.mem_append] at member
  obtain ⟨slot, -, owed⟩ := List.mem_filterMap.mp (member.resolve_left uncalled)
  rw [RequestTracker.owed] at owed
  split at owed
  · next active =>
      -- the entry that owes the callback has the id the request was issued with
      obtain ⟨other, _, _, _, _, hasCallback, otherIssued, callback⟩ :=
        reachable.requestsExplained.pending slot active
      rw [owed] at callback
      cases hasCallback with
      | false => cases callback
      | true =>
          cases callback
          have same := Runs.eq_of_nodup_filterMap tracked.nodup_issuedHandles issued otherIssued
            rfl rfl
          rw [Event.issued.injEq] at same
          obtain ⟨-, sameId, -⟩ := same
          have found : (w.rt.requestTracker.findActive requestId).isSome = true := by
            rw [RequestTracker.findActive, List.find?_isSome]
            exact ⟨slot, List.mem_finRange slot, by simp [active, sameId]⟩
          obtain ⟨first, isFirst⟩ := Option.isSome_iff_exists.mp found
          obtain ⟨firstActive, firstId⟩ := RequestTracker.findActive_spec isFirst
          have equal := reachable.uniqueIds bounded first slot firstActive active
            (firstId.trans sameId)
          subst equal
          exact ⟨first, isFirst, owed⟩
  · cases owed

/-! ## On the network -/

namespace Devices

variable {devices : Devices n} {network : ∀ addr, World (devices.cfg addr)}

theorem advance_self (addr : Address n) (move : Move (devices.cfg addr))
    (network : ∀ addr, World (devices.cfg addr)) :
    devices.advance addr move network addr = (network addr).step (devices.env addr) move :=
  Function.update_self _ _ _

theorem advance_suffix (addr : Address n) (move : Move (devices.cfg addr))
    (network : ∀ addr, World (devices.cfg addr)) (other : Address n) :
    (network other).history <:+ (devices.advance addr move network other).history := by
  by_cases same : other = addr
  · subst same
    have steps : Steps (devices.env other) (network other) _ :=
      World.step_steps (network other) move
    rw [advance_self]
    exact steps.suffix
  · rw [advance_of_ne same]

/-- If this reply reaches the client before the callback of the request has run, then the
callback is given what it carries. -/
def Completes (devices : Devices n) (client provider : Address n) (handle : Nat)
    (serviceId : UInt16) (rc : ReturnCode) (response reply : Bytes)
    (answered : ∀ addr, World (devices.cfg addr)) : Prop :=
  ∀ later, devices.parties.Run answered later →
    (later client).Admits provider serviceId (counterOf reply)
      ((answered provider).rt.authenticator.keyFor client) →
    response.length ≤ (devices.cfg client).maxPayloadSize →
    handle ∉ calledHandles (later client).history → ∀ nowMs,
      .callback (.request handle .reply rc response) ∈
        (devices.advance client (.deliver provider reply nowMs) later client).history

/-- A request that has been sent is answered when it reaches its provider, whatever the
devices have done in between, and the answer completes it when it reaches the client. -/
theorem request_completes (reachable : devices.Reachable network) {client provider : Address n}
    (honest : (devices.env provider).Honest)
    (bounded : (devices.cfg client).maxPendingRequests < UInt32.size)
    {target : Option (Address n)} {serviceId methodId : UInt16} {payload : Payload}
    {timeoutMs nowMs : UInt32} {handle : Nat} {requestId : UInt32}
    (known : target.or ((network client).rt.sd.getProviderAddress serviceId) = some provider)
    (notSd : serviceId ≠ sdServiceId) (isMethod : isMethodId methodId = true)
    (identified : (network client).rt.clientId ≠ 0)
    (fits : payload.length ≤ (devices.cfg client).maxPayloadSize)
    (room : payload.length ≤ (devices.cfg provider).maxPayloadSize)
    (accepted : ((network client).apiCall (devices.env client)
      (World.react (devices.env client))
      (.request target serviceId methodId payload true timeoutMs nowMs)).1 =
        .request handle (some requestId)) :
    let asked := devices.advance client
      (.api (.request target serviceId methodId payload true timeoutMs nowMs)) network
    ∃ frame body, payload.Denotes body ∧
      (asked client).history =
        .returned (.request target serviceId methodId payload true timeoutMs nowMs)
          (.request handle (some requestId)) ::
        .sent (.request handle) provider frame true ::
        .issued handle requestId provider serviceId methodId payload true ::
        (network client).history ∧
      ∀ served, devices.parties.Run asked served →
        (served provider).Admits client serviceId (counterOf frame)
          ((network client).rt.authenticator.keyFor provider) → ∀ arrivalMs,
        let answered := devices.advance provider (.deliver client frame arrivalMs) served
        ∃ rc response reply ok,
          World.AnsweredBy (devices.env provider) ((served provider).validate client frame).2
            (answered provider).history serviceId methodId body rc ∧
          Runs.Added (served provider).history
            (.executed client requestId serviceId methodId body rc response)
            (answered provider).history ∧
          Runs.Added (served provider).history (.sent .reply client reply ok)
            (answered provider).history ∧
          devices.Completes client provider handle serviceId rc response reply answered := by
  intro asked
  obtain ⟨body, size, denotes, history⟩ := World.request_performed known fits accepted
  have stepped : asked client = _ := advance_self client _ network
  rw [← stepped] at history
  generalize header : World.requestHeader (network client).rt provider serviceId methodId
    body.length requestId = hdr at history
  have valid : ValidHeader (devices.cfg provider) hdr body :=
    header ▸ World.requestHeader_valid provider serviceId requestId isMethod identified
      (size.trans_le room)
  have flagged : hdr.hasAuth = ((network client).rt.authenticator.keyFor provider).isSome :=
    header ▸ World.hasAuth_requestHeader ..
  have kind : MessageType.ofByte hdr.messageType = some .request := header ▸ rfl
  have service : hdr.serviceId = serviceId := header ▸ rfl
  have method : hdr.methodEventId = methodId := header ▸ rfl
  have sameId : hdr.requestId = requestId := header ▸ rfl
  have sent : (asked client).HasSent provider
      (signedFrame ((network client).rt.authenticator.keyFor provider) hdr body) := by
    rw [World.HasSent, history]
    exact .inl (.head _)
  refine ⟨_, body, denotes, history, ?_⟩
  -- the provider reads the request as it was sent
  intro served between admits arrivalMs answered
  have counter : counterOf (signedFrame ((network client).rt.authenticator.keyFor provider) hdr
      body) = hdr.sequenceCounter := by
    rw [counterOf, signedFrame, deserialize_messageFrame]
  rw [counter, ← service] at admits
  rw [← service] at notSd
  rw [← method] at isMethod
  obtain ⟨passes, read⟩ := admits.validate valid flagged
  have handled : answered provider = _ := advance_self provider _ served
  obtain ⟨rc, response, sequenceCounter, ok, failed, answers, executed, replied⟩ :=
    World.request_answered honest passes notSd kind arrivalMs
  rw [read, service, method] at answers
  rw [read, sameId, service, method] at executed
  change answered provider = World.validateAndDispatch _ _ _ _ _ at handled
  rw [← handled] at answers executed replied
  refine ⟨rc, response, _, ok, answers, executed, replied, ?_⟩
  -- the client finds the request pending under the id of the reply
  intro later after answer fitsBack uncalled nowMs
  have replyCounter : counterOf (signedFrame ((answered provider).rt.authenticator.keyFor client)
      (World.replyHeader ((answered provider).rt.authenticator.keyFor client).isSome
        sequenceCounter hdr rc response) response) = sequenceCounter := by
    rw [counterOf, signedFrame, deserialize_messageFrame]
    rfl
  rw [replyCounter, ← service] at answer
  have served : devices.Reachable served := (reachable.move client _ rfl).trans between
  have delivered : devices.Reachable answered :=
    served.deliver (hasSent_suffix (run_suffix between client) sent) arrivalMs
  have returned : devices.Reachable later := delivered.trans after
  have issued : .issued handle requestId provider serviceId methodId payload true ∈
      (later client).history := by
    have grown := (run_suffix between client).trans ((advance_suffix _ _ _ client).trans
      (run_suffix after client))
    apply grown.subset
    rw [history]
    exact .tail _ (.tail _ (.head _))
  obtain ⟨slot, found, owed⟩ :=
    (returned.device client).pending_of_uncalled bounded issued uncalled
  rw [← sameId] at found
  rw [advance_self]
  exact answer.reply_runs_callback notSd isMethod failed fitsBack found owed nowMs

/-! The word is asked for, and the answer arrives. -/

/-- A source that is not tracked yet is let through while there is room for it. -/
theorem admits_unseen {w : World cfg} {source : Address n} {serviceId : UInt16} {key : Option Bytes}
    (unseen : w.rt.e2e.lastSeen source = none)
    (room : w.rt.e2e.peers.length < cfg.maxTrackedPeers)
    (sameKey : w.rt.authenticator.keyFor source = key)
    (policy : ∀ entry, w.rt.dispatcher.find serviceId = some entry → entry.authRequired = false)
    (counter : UInt8) : w.Admits source serviceId counter key where
  fresh := by
    rw [validateSequence_unseen unseen, if_pos room]
    rfl
  sameKey := sameKey
  allowed := fun entry found required => absurd required (by simp [policy entry found])

/-- How the executions have ended. -/
def executions (history : History cfg) : List (ReturnCode × Bytes) :=
  history.filterMap fun
    | .executed _ _ _ _ _ rc response => some (rc, response)
    | _ => none

def wordRegistered : ∀ addr, World (wordDevices.cfg addr) :=
  wordDevices.advance wordProvider (.api (.registerService 0x1000 0 1 0 false)) wordDevices.initial

theorem wordFrame_sent {frame : Bytes}
    (sent : (wordRequested wordDevices.initial wordClient).HasSent wordProvider frame) :
    frame = wordFrame .request [5] := by
  have all : (wordRequested wordDevices.initial wordClient).history.filterMap Event.outgoing =
      [(some wordProvider, wordFrame .request [5])] := by
    decide +kernel
  rw [World.HasSent, all] at sent
  simpa using sent

def wordAnswered : ∀ addr, World (wordDevices.cfg addr) :=
  wordDevices.advance wordProvider (.deliver wordClient (wordFrame .request [5]) 5)
    (wordRequested wordDevices.initial)

theorem wordFrame_replied {reply : Bytes}
    (sent : (wordAnswered wordProvider).HasSent wordClient reply) :
    reply = wordFrame .response [0, 0, 0, 7] := by
  have all : (wordAnswered wordProvider).history.filterMap Event.outgoing =
      [(some wordClient, wordFrame .response [0, 0, 0, 7])] := by
    decide +kernel
  rw [World.HasSent, all] at sent
  simpa using sent

theorem request_completes_word :
    .callback (.request 0 .reply .eOk [0, 0, 0, 7]) ∈ (wordNetwork wordClient).history := by
  have registered : wordDevices.Reachable wordRegistered := Reachable.move .refl wordProvider _ rfl
  obtain ⟨frame, body, -, sent, served⟩ := @request_completes _ _ _ registered wordClient
    wordProvider (fun _ _ _ _ => (by decide : 4 ≤ 256)) (by decide) (some wordProvider) 0x1000 1
    (.bytes [5]) 100 0 0 1 rfl (by decide) (by decide) (by decide +kernel) (by decide) (by decide)
    (by decide +kernel)
  have handed : (wordRequested wordDevices.initial wordClient).HasSent wordProvider frame := by
    change World.HasSent (wordDevices.advance wordClient _ wordRegistered wordClient) _ _
    rw [World.HasSent, sent]
    exact .inl (.head _)
  obtain rfl := wordFrame_sent handed
  obtain ⟨rc, response, reply, ok, -, executed, replied, completes⟩ := served _ .refl
    (admits_unseen (by decide +kernel) (by decide +kernel) (by decide +kernel)
      (by decide +kernel) _) 5
  obtain rfl := wordFrame_replied (.inl (List.mem_filterMap.mpr ⟨_, replied.mem, rfl⟩))
  have outcome : executions (wordAnswered wordProvider).history = [(.eOk, [0, 0, 0, 7])] := by
    decide +kernel
  have ended : (rc, response) ∈ executions (wordAnswered wordProvider).history :=
    List.mem_filterMap.mpr ⟨_, executed.mem, rfl⟩
  rw [outcome, List.mem_singleton] at ended
  cases ended
  exact completes wordAnswered .refl
    (admits_unseen (by decide +kernel) (by decide +kernel) (by decide +kernel)
      (by decide +kernel) _) (by decide) (by decide +kernel) 9

end Devices

end Sero
