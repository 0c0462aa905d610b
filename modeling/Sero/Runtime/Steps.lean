import Sero.Library.Runs
import Sero.Runtime.Run

/-!
# What a single step can do

Every operation of the runtime, with everything the application may call back, is
a sequence of the steps listed in `Atomic`.  Each step names what it changes and
what is known when it is taken; invariants of runs are proved over these steps
and hold inside callbacks as well as between moves.
-/

namespace Sero

open Library

variable {n : Nat} {cfg : Config n}

/-- The datagram that has just passed validation. -/
structure Accepted (source : Address n) (data : Bytes) (hdr : MessageHeader)
    (w : World cfg) : Prop where
  current : w.history.head? = some (.dispatched source data)
  checked : checkFrame cfg data = .ok hdr
  authentic : w.checkAuth source data hdr = true

/-- Calls that neither send frames nor run callbacks. -/
def ApiCall.isLocal : ApiCall cfg → Bool
  | .request .. | .fireAndForget .. | .notifyEvent .. => false
  | _ => true

/-- Handlers report at most the response capacity they were given. -/
def Env.Honest (env : Env cfg) : Prop :=
  ∀ history context methodId payload,
    (env.onRequest history context methodId payload).responseLength ≤ cfg.maxPayloadSize

/-- Why an active entry leaves the request table. -/
inductive Finishes (w : World cfg) (slot : Fin cfg.maxPendingRequests) :
    Cause → ReturnCode → Bytes → Prop where
  | reply {source : Address n} {data : Bytes} {hdr : MessageHeader}
      (accepted : Accepted source data hdr w)
      (notSd : hdr.serviceId ≠ sdServiceId)
      (type : MessageType.ofByte hdr.messageType = some .response ∨
        MessageType.ofByte hdr.messageType = some .error)
      (requestId : (w.rt.requestTracker.entries slot).requestId = hdr.requestId) :
      Finishes w slot .reply ⟨hdr.returnCode⟩ (payloadOf hdr data)
  | timeout {nowMs : UInt32}
      (expired : timeAfter nowMs (w.rt.requestTracker.entries slot).deadlineMs = true) :
      Finishes w slot .timeout .eTimeout []
  | sendFailed {handle : Nat} {requestId : UInt32} {target dest : Address n}
      {serviceId methodId : UInt16} {payload : Payload} {hasCallback : Bool}
      {frame : Bytes} {past : History cfg}
      (refused : w.history = .sent (.request handle) dest frame false ::
        .issued handle requestId target serviceId methodId payload hasCallback :: past)
      (found : (w.rt.requestTracker.entries slot).requestId = requestId) :
      Finishes w slot .sendFailed .eNotOk []

/-- What is known when `request` returns: nothing has happened, or a request was issued
and its frame handed to the transport, whose answer decides the result. -/
def RequestOutcome (history : History cfg) (handle : Nat) (hasCallback : Bool)
    (result : Option UInt32) : Prop :=
  result = none ∧ handle = history.length ∨
  ∃ requestId target serviceId methodId payload frame ok,
    .issued handle requestId target serviceId methodId payload hasCallback ∈ history ∧
    .sent (.request handle) target frame ok ∈ history ∧
    result = if ok then some requestId else none

/-- What is known when a call that sends returns. -/
def ReturnsWith (history : History cfg) : ApiCall cfg → ApiResult → Prop
  | .request _ _ _ _ hasCallback _ _, .request handle requestId =>
      handle ≤ history.length ∧ RequestOutcome history handle hasCallback requestId
  | .fireAndForget .., .bool _ => True
  | .notifyEvent .., .bool _ => True
  | _, _ => False

/-- The writes discovery makes outside API calls and renewal passes. -/
inductive SdWrite (sd : ServiceDiscovery cfg) : ServiceDiscovery cfg → Prop where
  | recordOffer (serviceId ttlSeconds sessionId : UInt16) (provider : Address n)
      (nowMs : UInt32) :
      SdWrite sd (sd.recordOffer serviceId ttlSeconds sessionId provider nowMs)
  | markFound (serviceId : UInt16) : SdWrite sd (sd.markFound serviceId)
  | flagResubscribe (serviceId : UInt16) (nowMs : UInt32) :
      SdWrite sd (sd.flagResubscribe serviceId nowMs)
  | giveUpFind (index : Nat) (retryCount : UInt8) : SdWrite sd (sd.giveUpFind index retryCount)
  | scheduleRetry (index : Nat) (retryCount : UInt8) (nowMs : UInt32) :
      SdWrite sd (sd.scheduleRetry index retryCount nowMs)
  | expireConsumer (index : Nat) : SdWrite sd (sd.expireConsumer index)
  | recordAck (serviceId eventId : UInt16) (result : ReturnCode) (grantedTtl : UInt16) :
      SdWrite sd (sd.recordAck serviceId eventId result grantedTtl)
  | processOffers (nowMs : UInt32) : SdWrite sd (sd.processOffers nowMs).2

/-- Steps that leave sequence tracking, pending requests, discovery, services and
keys alone. -/
inductive Background (env : Env cfg) : World cfg → World cfg → Prop where
  | increment (counter : DiagnosticCounter) (header : Option Bytes) (w : World cfg) :
      Background env w (w.increment counter header)
  | storeDtcs {dtcStore : DtcStore cfg} {w : World cfg}
      (write : DiagnosticsService.DtcWrite w.rt.dtcStore dtcStore) :
      Background env w { w with rt := { w.rt with dtcStore } }
  | fillResponse (responseBuffer : Buffer cfg.maxPayloadSize) (w : World cfg) :
      Background env w { w with rt := { w.rt with responseBuffer } }
  | sdBroadcast (message : SdMessage n) (w : World cfg) :
      Background env w (w.sendSdBroadcast env message)
  | sdUnicast (dest : Address n) (message : SdMessage n) (w : World cfg) :
      Background env w (w.sendSdUnicast env dest message)
  | subscribeRequest (source : Address n) (hdr : MessageHeader)
      (request : SdPayload.Subscribe) (nowMs : UInt32) (w : World cfg) :
      Background env w (w.handleSubscribeRequest env source hdr request nowMs)
  | unsubscribeRequest (request : SdPayload.Subscribe) (clientId : UInt16) (w : World cfg) :
      Background env w { w with rt := { w.rt with
        eventManager := w.rt.eventManager.unsubscribe request.serviceId request.eventId
          clientId } }
  | startCycle (nowMs : UInt32) (w : World cfg) : Background env w (w.startCycle nowMs)
  | evictSubscribers (nowMs : UInt32) (w : World cfg) :
      Background env w (w.evictSubscribers nowMs)

/-- The kinds of steps. -/
inductive StepKind where
  | background
  | validate
  | enterHandler
  | reply
  | finish
  | callback
  | submit
  | transmit
  | perform
  | returned
  | resetPeer
  | sdWrite
  | markRenewals
  deriving DecidableEq, Repr

/-- One step of the runtime or of the application inside it. -/
inductive Atomic (env : Env cfg) : StepKind → World cfg → World cfg → Prop where
  | background {before after : World cfg} (step : Background env before after) :
      Atomic env .background before after
  | validate (source : Address n) (data : Bytes) (w : World cfg) :
      Atomic env .validate w (w.validate source data).2
  | enterHandler {source : Address n} {data : Bytes} {hdr : MessageHeader}
      {entry : ServiceEntry} (capacity : Option Nat) {w : World cfg}
      (accepted : Accepted source data hdr w) (notSd : hdr.serviceId ≠ sdServiceId)
      (found : w.rt.dispatcher.find hdr.serviceId = some entry) :
      Atomic env .enterHandler w (w.emit (.onRequest entry w.rt.authenticator hdr.methodEventId
        (payloadOf hdr data) capacity))
  | reply {source : Address n} {data : Bytes} {hdr : MessageHeader} {w : World cfg}
      (accepted : .dispatched source data ∈ w.history)
      (checked : checkFrame cfg data = .ok hdr) (notSd : hdr.serviceId ≠ sdServiceId)
      (isRequest : MessageType.ofByte hdr.messageType = some .request)
      (rc : ReturnCode) {responseLength : Nat}
      (fits : env.Honest → responseLength ≤ cfg.maxPayloadSize) :
      Atomic env .reply w (w.sendReply env source hdr (payloadOf hdr data) rc responseLength)
  | finish {slot : Fin cfg.maxPendingRequests} {cause : Cause} {rc : ReturnCode}
      {payload : Bytes} {w : World cfg}
      (active : (w.rt.requestTracker.entries slot).active = true)
      (reason : Finishes w slot cause rc payload) :
      Atomic env .finish w (RequestTracker.finish World.trackerLens (World.invokeRequest cause id)
        slot rc payload w)
  | callback (callback : Callback n)
      (other : ∀ handle cause rc payload, callback ≠ .request handle cause rc payload)
      (w : World cfg) : Atomic env .callback w (w.emit (.callback callback))
  | submit {handle : Nat} (target : Address n) (serviceId methodId : UInt16)
      (payload : Payload) (hasCallback : Bool) (timeoutMs nowMs : UInt32) {w : World cfg}
      (fresh : handle = w.history.length) :
      Atomic env .submit w (w.submit env handle target serviceId methodId payload hasCallback
        timeoutMs nowMs).2
  | transmit {kind : SendKind} (dest : Address n) {hdr : MessageHeader}
      (payload : Option Bytes) (payloadLength : Nat) (auth : Bool) (w : World cfg)
      (type : kind = .fireAndForget ∧ hdr.messageType = MessageType.requestNoReturn.toByte ∨
        kind = .notification ∧ hdr.messageType = MessageType.notification.toByte) :
      Atomic env .transmit w (w.transmit env kind dest hdr payload payloadLength auth).2
  | perform {call : ApiCall cfg} (isLocal : call.isLocal = true) (w : World cfg) :
      Atomic env .perform w (w.perform env id call)
  | returned {call : ApiCall cfg} {result : ApiResult} {w : World cfg}
      (outcome : ReturnsWith w.history call result) :
      Atomic env .returned w (w.emit (.returned call result))
  | resetPeer (addr : Address n) (w : World cfg) : Atomic env .resetPeer w (w.resetPeer addr)
  | sdWrite {sd : ServiceDiscovery cfg} {w : World cfg} (write : SdWrite w.rt.sd sd) :
      Atomic env .sdWrite w { w with rt := { w.rt with sd } }
  | markRenewals (nowMs : UInt32) (w : World cfg) :
      Atomic env .markRenewals w (w.markRenewals nowMs)

/-- Any number of steps. -/
abbrev Steps (env : Env cfg) : World cfg → World cfg → Prop :=
  Relation.ReflTransGen fun before after => ∃ kind, Atomic env kind before after

/-- Does an API call take steps of this kind? -/
def StepKind.isApi : StepKind → Bool
  | background | finish | submit | transmit | perform | returned => true
  | _ => false

/-- Steps of API calls, all that the body of a callback consists of. -/
abbrev ApiSteps (env : Env cfg) : World cfg → World cfg → Prop :=
  Relation.ReflTransGen fun before after =>
    ∃ kind, StepKind.isApi kind = true ∧ Atomic env kind before after

/-- Is it a step of an API call alone, rather than one that may accompany it? -/
def StepKind.isCall : StepKind → Bool
  | finish | submit | transmit | perform | returned => true
  | _ => false

/-- A step of an API call; of the background steps it takes none but counting. -/
inductive CallStep (env : Env cfg) : World cfg → World cfg → Prop where
  | count (counter : DiagnosticCounter) (header : Option Bytes) (w : World cfg) :
      CallStep env w (w.increment counter header)
  | own {kind : StepKind} {before after : World cfg} (isCall : kind.isCall = true)
      (step : Atomic env kind before after) : CallStep env before after

/-- What an API call with the callbacks it runs consists of. -/
abbrev CallSteps (env : Env cfg) : World cfg → World cfg → Prop :=
  Relation.ReflTransGen (CallStep env)

/-- Is it a step that neither writes discovery's tables, an API call apart, nor belongs
to the background? -/
def StepKind.isPlain : StepKind → Bool
  | background | sdWrite | markRenewals => false
  | _ => true

/-- A step by which no discovery message is sent and no subscriber's lease changes. -/
inductive PlainStep (env : Env cfg) : World cfg → World cfg → Prop where
  | count (counter : DiagnosticCounter) (header : Option Bytes) (w : World cfg) :
      PlainStep env w (w.increment counter header)
  | storeDtcs {dtcStore : DtcStore cfg} {w : World cfg}
      (write : DiagnosticsService.DtcWrite w.rt.dtcStore dtcStore) :
      PlainStep env w { w with rt := { w.rt with dtcStore } }
  | fillResponse (responseBuffer : Buffer cfg.maxPayloadSize) (w : World cfg) :
      PlainStep env w { w with rt := { w.rt with responseBuffer } }
  | own {kind : StepKind} {before after : World cfg} (isPlain : kind.isPlain = true)
      (step : Atomic env kind before after) : PlainStep env before after

/-- What handling a message other than discovery's consists of. -/
abbrev PlainSteps (env : Env cfg) : World cfg → World cfg → Prop :=
  Relation.ReflTransGen (PlainStep env)

variable {env : Env cfg}

theorem ApiSteps.steps {before after : World cfg} (steps : ApiSteps env before after) :
    Steps env before after := by
  induction steps with
  | refl => exact .refl
  | tail _ step ih =>
      obtain ⟨kind, -, step⟩ := step
      exact ih.tail ⟨kind, step⟩

theorem Atomic.apiSteps {kind : StepKind} {before after : World cfg}
    (step : Atomic env kind before after) (isApi : kind.isApi = true) :
    ApiSteps env before after :=
  .single ⟨kind, isApi, step⟩

theorem Background.apiSteps {before after : World cfg}
    (step : Background env before after) : ApiSteps env before after :=
  Atomic.apiSteps (.background step) rfl

theorem Atomic.callSteps {kind : StepKind} {before after : World cfg}
    (step : Atomic env kind before after) (isCall : kind.isCall = true) :
    CallSteps env before after :=
  .single (.own isCall step)

theorem CallSteps.apiSteps {before after : World cfg} (steps : CallSteps env before after) :
    ApiSteps env before after := by
  apply steps.lift id
  intro first second step
  cases step with
  | count counter header => exact ⟨_, rfl, .background (.increment counter header first)⟩
  | @own kind _ _ isCall step =>
      refine ⟨kind, ?_, step⟩
      cases kind with
      | finish | submit | transmit | perform | returned => rfl
      | _ => cases isCall

theorem CallSteps.steps {before after : World cfg} (steps : CallSteps env before after) :
    Steps env before after :=
  steps.apiSteps.steps

theorem Atomic.plainSteps {kind : StepKind} {before after : World cfg}
    (step : Atomic env kind before after) (isPlain : kind.isPlain = true) :
    PlainSteps env before after :=
  .single (.own isPlain step)

theorem CallSteps.plainSteps {before after : World cfg} (steps : CallSteps env before after) :
    PlainSteps env before after := by
  apply steps.lift id
  intro first second step
  cases step with
  | count counter header => exact .count counter header first
  | @own kind _ _ isCall step =>
      refine .own ?_ step
      cases kind with
      | background | sdWrite | markRenewals => cases isCall
      | _ => rfl

theorem PlainSteps.steps {before after : World cfg} (steps : PlainSteps env before after) :
    Steps env before after := by
  apply steps.lift id
  intro first second step
  cases step with
  | count counter header => exact ⟨_, .background (.increment counter header first)⟩
  | storeDtcs write => exact ⟨_, .background (.storeDtcs write)⟩
  | fillResponse buffer => exact ⟨_, .background (.fillResponse buffer first)⟩
  | own isPlain step => exact ⟨_, step⟩

theorem Atomic.steps {kind : StepKind} {before after : World cfg}
    (step : Atomic env kind before after) : Steps env before after :=
  .single ⟨kind, step⟩

theorem Background.steps {before after : World cfg} (step : Background env before after) :
    Steps env before after :=
  .single ⟨.background, .background step⟩

/-! ## What background steps leave alone -/

/-- The kind of step that makes an event observable.  Diagnostics and discovery
traffic may accompany any step. -/
def Event.kind : Event cfg → StepKind
  | .received .. | .verdict .. | .dispatched .. => .validate
  | .peerReset .. => .resetPeer
  | .onRequest .. => .enterHandler
  | .executed .. | .sent .reply .. => .reply
  | .issued .. | .sent (.request _) .. => .submit
  | .sent .fireAndForget .. | .sent .notification .. => .transmit
  | .callback (.request ..) => .finish
  | .callback _ => .callback
  | .renewals .. => .markRenewals
  | .returned call _ => if call.isLocal then .perform else .returned
  | .diagnostic .. | .broadcast .. | .sent .sd .. => .background

/-- The events of a step: its own, and quiet ones. -/
def Observes (kind : StepKind) (before after : World cfg) : Prop :=
  ∃ events, after.history = events ++ before.history ∧
    ∀ event ∈ events, event.kind = kind ∨ event.kind = .background

/-- Among the events of a step there is none of another kind. -/
theorem Event.kind_ne {events : History cfg} {own other : StepKind}
    (kinds : ∀ event ∈ events, event.kind = own ∨ event.kind = .background)
    (different : own ≠ other) (loud : StepKind.background ≠ other) :
    ∀ event ∈ events, event.kind ≠ other := by
  intro event member told
  rcases kinds event member with same | quiet
  · exact different (same.symm.trans told)
  · exact loud (quiet.symm.trans told)

/-- Sequence tracking and pending requests are as before, and nothing but discovery
traffic and diagnostics has been observed. -/
structure SameProtocol (before after : World cfg) : Prop where
  clientId : after.rt.clientId = before.rt.clientId
  e2e : after.rt.e2e = before.rt.e2e
  requestTracker : after.rt.requestTracker = before.rt.requestTracker
  history : Observes .background before after

/-- Nothing but buffers, counters and subscribers has changed. -/
structure SameCore (before after : World cfg) : Prop extends SameProtocol before after where
  authenticator : after.rt.authenticator = before.rt.authenticator
  sd : after.rt.sd = before.rt.sd
  dispatcher : after.rt.dispatcher = before.rt.dispatcher
  eventHandlers : after.rt.eventHandlers = before.rt.eventHandlers

namespace Observes

variable {kind : StepKind} {first second third : World cfg}

theorem none (kind : StepKind) {before after : World cfg}
    (equal : after.history = before.history) : Observes kind before after :=
  ⟨[], equal, by simp⟩

theorem trans (left : Observes kind first second) (right : Observes kind second third) :
    Observes kind first third := by
  obtain ⟨older, olderEq, olderKinds⟩ := left
  obtain ⟨newer, newerEq, newerKinds⟩ := right
  refine ⟨newer ++ older, by rw [newerEq, olderEq, List.append_assoc], ?_⟩
  intro event member
  rcases List.mem_append.mp member with inNewer | inOlder
  · exact newerKinds event inNewer
  · exact olderKinds event inOlder

/-- Background events may accompany any step. -/
theorem ofBackground (observes : Observes .background first second) (kind : StepKind) :
    Observes kind first second := by
  obtain ⟨events, equal, kinds⟩ := observes
  exact ⟨events, equal, fun event member => .inr (or_self_iff.mp (kinds event member))⟩

theorem suffix (observes : Observes kind first second) :
    first.history <:+ second.history := by
  obtain ⟨events, equal, -⟩ := observes
  exact ⟨events, equal.symm⟩

/-- An event of another kind was there before, with the same past. -/
theorem earlier (observes : Observes kind first second) {event : Event cfg}
    {past : History cfg} (occurs : (event :: past) <:+ second.history)
    (other : event.kind ≠ kind) (notQuiet : event.kind ≠ .background) :
    (event :: past) <:+ first.history := by
  obtain ⟨events, equal, kinds⟩ := observes
  rw [equal] at occurs
  refine Runs.suffix_of_notMem occurs fun new => ?_
  rcases kinds event new with own | quiet
  · exact other own
  · exact notQuiet quiet

/-- Membership form of `earlier`. -/
theorem mem (observes : Observes kind first second) {event : Event cfg}
    (occurs : event ∈ second.history) (other : event.kind ≠ kind)
    (notQuiet : event.kind ≠ .background) : event ∈ first.history := by
  obtain ⟨events, equal, kinds⟩ := observes
  rw [equal, List.mem_append] at occurs
  rcases occurs with new | old
  · rcases kinds event new with own | quiet
    · exact absurd own other
    · exact absurd quiet notQuiet
  · exact old

/-- What is selected from the history changes only by events of the step's kind. -/
theorem filterMap {β : Type} {select : Event cfg → Option β}
    (observes : Observes kind first second)
    (ignored : ∀ event : Event cfg, event.kind = kind ∨ event.kind = .background →
      select event = Option.none) :
    second.history.filterMap select = first.history.filterMap select := by
  obtain ⟨events, equal, kinds⟩ := observes
  have nothing : events.filterMap select = [] := by
    rw [List.filterMap_eq_nil_iff]
    intro event member
    exact ignored event (kinds event member)
  rw [equal, List.filterMap_append, nothing, List.nil_append]

end Observes

namespace SameProtocol

theorem silent {w : World cfg} {rt : Runtime cfg} (clientId : rt.clientId = w.rt.clientId)
    (e2e : rt.e2e = w.rt.e2e) (requestTracker : rt.requestTracker = w.rt.requestTracker) :
    SameProtocol w { w with rt } :=
  ⟨clientId, e2e, requestTracker, .none _ rfl⟩

theorem refl (w : World cfg) : SameProtocol w w :=
  silent rfl rfl rfl

theorem trans {first second third : World cfg} (left : SameProtocol first second)
    (right : SameProtocol second third) : SameProtocol first third :=
  ⟨right.clientId.trans left.clientId, right.e2e.trans left.e2e,
    right.requestTracker.trans left.requestTracker, left.history.trans right.history⟩

end SameProtocol

theorem SameCore.refl (w : World cfg) : SameCore w w :=
  ⟨SameProtocol.refl w, rfl, rfl, rfl, rfl⟩

theorem SameCore.trans {first second third : World cfg} (left : SameCore first second)
    (right : SameCore second third) : SameCore first third where
  toSameProtocol := left.toSameProtocol.trans right.toSameProtocol
  authenticator := right.authenticator.trans left.authenticator
  sd := right.sd.trans left.sd
  dispatcher := right.dispatcher.trans left.dispatcher
  eventHandlers := right.eventHandlers.trans left.eventHandlers

/-- Observing a quiet event while changing only buffers and counters. -/
theorem SameCore.quiet {w : World cfg} {rt : Runtime cfg} {event : Event cfg}
    (quiet : event.kind = .background) (clientId : rt.clientId = w.rt.clientId)
    (e2e : rt.e2e = w.rt.e2e) (requestTracker : rt.requestTracker = w.rt.requestTracker)
    (authenticator : rt.authenticator = w.rt.authenticator) (sd : rt.sd = w.rt.sd)
    (dispatcher : rt.dispatcher = w.rt.dispatcher)
    (eventHandlers : rt.eventHandlers = w.rt.eventHandlers) :
    SameCore w (World.emit event { w with rt }) :=
  ⟨⟨clientId, e2e, requestTracker, [event], rfl, by simpa using quiet⟩,
    authenticator, sd, dispatcher, eventHandlers⟩

namespace World

theorem increment_core (counter : DiagnosticCounter) (header : Option Bytes)
    (w : World cfg) : SameCore w (w.increment counter header) := by
  rw [increment]
  split
  · exact .quiet rfl rfl rfl rfl rfl rfl rfl rfl
  · exact ⟨.silent rfl rfl rfl, rfl, rfl, rfl, rfl⟩

theorem countRefusal_core (ok : Bool) (w : World cfg) : SameCore w (w.countRefusal ok) := by
  cases ok with
  | true => exact SameCore.refl w
  | false => exact increment_core _ _ _

theorem sendSdBroadcast_core (message : SdMessage n) (w : World cfg) :
    SameCore w (w.sendSdBroadcast env message) := by
  rw [sendSdBroadcast]
  split
  · exact SameCore.refl w
  · have sent : ∀ txBuffer sdSeq frame ok, SameCore w (World.emit (.broadcast frame ok)
        { w with rt := { w.rt with txBuffer, sdSeq } }) :=
      fun _ _ _ _ => .quiet rfl rfl rfl rfl rfl rfl rfl rfl
    exact (sent _ _ _ _).trans (countRefusal_core _ _)

theorem sentSd_core (dest : Address n) (frame : Bytes) (ok : Bool) (w : World cfg)
    (eventManager : EventManager cfg) (txBuffer : Buffer (maxMsgSize cfg)) (sdSeq : UInt8) :
    SameCore w (World.emit (.sent .sd dest frame ok)
      { w with rt := { w.rt with eventManager, txBuffer, sdSeq } }) :=
  .quiet rfl rfl rfl rfl rfl rfl rfl rfl

theorem sendSdUnicast_core (dest : Address n) (message : SdMessage n) (w : World cfg) :
    SameCore w (w.sendSdUnicast env dest message) := by
  rw [sendSdUnicast]
  split
  · exact SameCore.refl w
  · exact (sentSd_core dest _ _ w w.rt.eventManager _ _).trans (countRefusal_core _ _)

theorem handleSubscribeRequest_core (source : Address n) (hdr : MessageHeader)
    (request : SdPayload.Subscribe) (nowMs : UInt32) (w : World cfg) :
    SameCore w (w.handleSubscribeRequest env source hdr request nowMs) :=
  (sentSd_core source _ _ w _ _ _).trans (countRefusal_core _ _)

end World

theorem Background.core {before after : World cfg} (step : Background env before after) :
    SameCore before after := by
  cases step with
  | increment counter header => exact World.increment_core counter header before
  | storeDtcs | fillResponse | unsubscribeRequest | startCycle | evictSubscribers =>
      exact ⟨.silent rfl rfl rfl, rfl, rfl, rfl, rfl⟩
  | sdBroadcast message => exact World.sendSdBroadcast_core message before
  | sdUnicast dest message => exact World.sendSdUnicast_core dest message before
  | subscribeRequest source hdr request nowMs =>
      exact World.handleSubscribeRequest_core source hdr request nowMs before

namespace World

/-- Offering a service writes discovery and nothing else. -/
theorem offerService_rt (serviceId ttlSeconds : UInt16) (nowMs : UInt32) (w : World cfg) :
    ∃ sd, (w.offerService serviceId ttlSeconds nowMs).2 = { w with rt := { w.rt with sd } } ∧
      (sd = w.rt.sd ∨ ∃ major minor,
        sd = (w.rt.sd.offer serviceId major minor ttlSeconds nowMs).2) := by
  rw [offerService]
  split
  · exact ⟨_, rfl, .inl rfl⟩
  · exact ⟨_, rfl, .inr ⟨_, _, rfl⟩⟩

/-- Enabling diagnostics registers and offers its service. -/
theorem enableDiagnostics_rt (nowMs : UInt32) (authRequired : Bool) (w : World cfg) :
    ∃ diagService dispatcher sd diagEnabled,
      (w.enableDiagnostics nowMs authRequired).2 =
        { w with rt := { w.rt with diagService, dispatcher, sd, diagEnabled } } ∧
      (sd = w.rt.sd ∨ ∃ major minor,
        sd = (w.rt.sd.offer diagServiceId major minor cfg.offerTtlSeconds nowMs).2) := by
  rw [enableDiagnostics]
  split
  · exact ⟨_, _, _, _, rfl, .inl rfl⟩
  · dsimp only
    split
    · next registered =>
        rw [← congrArg Prod.snd registered]
        exact ⟨_, _, _, _, rfl, .inl rfl⟩
    · next after registered =>
        have wired : _ = after := congrArg Prod.snd registered
        obtain ⟨sd, written, offer⟩ :=
          offerService_rt diagServiceId cfg.offerTtlSeconds nowMs after
        split
        · next last refused =>
            have answered : last = _ := (congrArg Prod.snd refused).symm.trans written
            subst wired answered
            exact ⟨_, _, _, _, rfl, offer⟩
        · next last accepted =>
            have answered : last = _ := (congrArg Prod.snd accepted).symm.trans written
            subst wired answered
            exact ⟨_, _, _, _, rfl, offer⟩

theorem offerService_same (serviceId ttlSeconds : UInt16) (nowMs : UInt32)
    (w : World cfg) : SameProtocol w (w.offerService serviceId ttlSeconds nowMs).2 := by
  obtain ⟨sd, written, -⟩ := w.offerService_rt serviceId ttlSeconds nowMs
  rw [written]
  exact .silent rfl rfl rfl

theorem registerEventHandler_same (serviceId eventId : UInt16) (context : Nat)
    (w : World cfg) :
    SameProtocol w (w.registerEventHandler serviceId eventId context).2 := by
  unfold registerEventHandler
  split
  · exact .refl w
  · exact .silent rfl rfl rfl

theorem subscribeEvent_same (serviceId eventId : UInt16) (context : Nat)
    (ttlSeconds : UInt16) (nowMs : UInt32) (w : World cfg) :
    SameProtocol w (w.subscribeEvent serviceId eventId context ttlSeconds nowMs).2 := by
  have registered := w.registerEventHandler_same serviceId eventId context
  unfold subscribeEvent
  rcases outcome : w.registerEventHandler serviceId eventId context with ⟨ok, after⟩
  rw [outcome] at registered
  cases ok with
  | false => exact registered
  | true => exact registered.trans (.silent rfl rfl rfl)

theorem enableDiagnostics_same (nowMs : UInt32) (authRequired : Bool) (w : World cfg) :
    SameProtocol w (w.enableDiagnostics nowMs authRequired).2 := by
  obtain ⟨_, _, _, _, written, -⟩ := w.enableDiagnostics_rt nowMs authRequired
  rw [written]
  exact .silent rfl rfl rfl

theorem reportDtc_same (code : UInt16) (severity : DtcSeverity) (nowMs : UInt32)
    (w : World cfg) : SameProtocol w (w.reportDtc code severity nowMs).2 := by
  unfold reportDtc
  split
  · exact .refl w
  · refine SameProtocol.trans ?_ (countRefusal_core _ _).toSameProtocol
    exact .silent rfl rfl rfl

/-- A local call changes neither sequence tracking nor pending requests. -/
theorem apiCall_same (body : World cfg → World cfg) {call : ApiCall cfg}
    (isLocal : call.isLocal = true) (w : World cfg) :
    SameProtocol w (w.apiCall env body call).2 := by
  cases call with
  | request | fireAndForget | notifyEvent => cases isLocal
  | offerService serviceId ttl now => exact w.offerService_same serviceId ttl now
  | subscribeEvent serviceId eventId context ttl now =>
      exact w.subscribeEvent_same serviceId eventId context ttl now
  | enableDiagnostics now auth => exact w.enableDiagnostics_same now auth
  | reportDtc code severity now => exact w.reportDtc_same code severity now
  | _ => exact .silent rfl rfl rfl

theorem reportDtc_sd (code : UInt16) (severity : DtcSeverity) (nowMs : UInt32)
    (w : World cfg) : (w.reportDtc code severity nowMs).2.rt.sd = w.rt.sd := by
  rw [reportDtc]
  split
  · rfl
  · exact (countRefusal_core _ _).sd

theorem offerService_tables (serviceId ttlSeconds : UInt16) (nowMs : UInt32)
    (w : World cfg) :
    (w.offerService serviceId ttlSeconds nowMs).2.rt.sd.consumers = w.rt.sd.consumers ∧
      (w.offerService serviceId ttlSeconds nowMs).2.rt.sd.subTrackers =
        w.rt.sd.subTrackers := by
  obtain ⟨sd, written, rfl | ⟨major, minor, rfl⟩⟩ :=
    w.offerService_rt serviceId ttlSeconds nowMs
  · rw [written]
    exact ⟨rfl, rfl⟩
  · rw [written]
    exact ServiceDiscovery.offer_tables ..

theorem enableDiagnostics_tables (nowMs : UInt32) (authRequired : Bool) (w : World cfg) :
    (w.enableDiagnostics nowMs authRequired).2.rt.sd.consumers = w.rt.sd.consumers ∧
      (w.enableDiagnostics nowMs authRequired).2.rt.sd.subTrackers =
        w.rt.sd.subTrackers := by
  obtain ⟨_, _, sd, _, written, rfl | ⟨major, minor, rfl⟩⟩ :=
    w.enableDiagnostics_rt nowMs authRequired
  · rw [written]
    exact ⟨rfl, rfl⟩
  · rw [written]
    exact ServiceDiscovery.offer_tables ..

/-- Consumers are written by `find_service` only. -/
theorem apiCall_consumers (body : World cfg → World cfg) {call : ApiCall cfg}
    (isLocal : call.isLocal = true)
    (notFind : ∀ serviceId major nowMs, call ≠ .findService serviceId major nowMs)
    (w : World cfg) : (w.apiCall env body call).2.rt.sd.consumers = w.rt.sd.consumers := by
  cases call with
  | request | fireAndForget | notifyEvent => cases isLocal
  | findService serviceId major nowMs => exact absurd rfl (notFind serviceId major nowMs)
  | offerService serviceId ttl now => exact (w.offerService_tables serviceId ttl now).1
  | enableDiagnostics now auth => exact (w.enableDiagnostics_tables now auth).1
  | subscribeEvent serviceId eventId context ttl now =>
      simp only [apiCall, subscribeEvent, registerEventHandler]
      cases Table.upsert (handlesEvent serviceId eventId)
          (fun _ => { serviceId, eventId, context }) { serviceId, eventId, context }
          (cfg.maxKnownServices * cfg.maxEvents) w.rt.eventHandlers with
      | none => rfl
      | some handlers => exact ServiceDiscovery.subscribeEvent_consumers ..
  | reportDtc code severity now =>
      have same := (w.reportDtc_sd code severity now)
      exact congrArg ServiceDiscovery.consumers same
  | _ => rfl

/-- A local call does not run its callback body. -/
theorem perform_local (body : World cfg → World cfg) {call : ApiCall cfg}
    (isLocal : call.isLocal = true) (w : World cfg) :
    w.perform env body call = w.perform env id call := by
  cases call with
  | request | fireAndForget | notifyEvent => cases isLocal
  | _ => rfl

end World

/-! ## What each step observes and leaves alone -/

namespace World

theorem emit_observes (event : Event cfg) (w : World cfg) :
    Observes event.kind w (w.emit event) :=
  ⟨[event], rfl, by simp⟩

/-- Step 8 adds at most a verdict and a diagnostic. -/
theorem checkSequence_observes (source : Address n) (data : Bytes) (hdr : MessageHeader)
    (w : World cfg) : Observes .validate w (w.checkSequence source data hdr).2 := by
  rw [checkSequence]
  split
  · exact .none _ rfl
  · have recorded : Observes .validate w
        (w.sequenceVerdict source data hdr.sequenceCounter).2 :=
      ⟨[.verdict source data _], rfl, by simp [Event.kind]⟩
    have counted := fun counter header (after : World cfg) =>
      (increment_core counter header after).history.ofBackground .validate
    rcases verdict : w.sequenceVerdict source data hdr.sequenceCounter with ⟨result, after⟩
    rw [verdict] at recorded
    cases result with
    | accept => exact recorded
    | firstSeen => exact recorded
    | duplicate => exact recorded.trans (counted _ _ _)
    | stale => exact recorded.trans (counted _ _ _)
    | tableFull => exact recorded.trans (counted _ _ _)

theorem validate_observes (source : Address n) (data : Bytes) (w : World cfg) :
    Observes .validate w (w.validate source data).2 := by
  have entered : Observes .validate w (w.emit (.received source data)) :=
    emit_observes _ w
  have counted := fun counter header (after : World cfg) =>
    (increment_core counter header after).history.ofBackground .validate
  rw [validate]
  cases checkFrame cfg data with
  | error failure => exact entered.trans (counted _ _ _)
  | ok hdr =>
      have checked := entered.trans
        (checkSequence_observes source data hdr (w.emit (.received source data)))
      rcases sequence : (w.emit (.received source data)).checkSequence source data hdr with
        ⟨proceed, after⟩
      rw [sequence] at checked
      cases proceed with
      | false => simpa only [sequence] using checked
      | true =>
          simp only [sequence]
          split
          · exact checked.trans (emit_observes (.dispatched source data) after)
          · exact checked.trans (counted _ _ _)

theorem sendReply_observes (source : Address n) (hdr : MessageHeader) (payload : Bytes)
    (rc : ReturnCode) (responseLength : Nat) (w : World cfg) :
    Observes .reply w (w.sendReply env source hdr payload rc responseLength) := by
  obtain ⟨after, ok, equal, -, history⟩ :=
    sendReply_spec env source hdr payload rc responseLength w
  have sent : Observes .reply w after :=
    ⟨[.sent .reply source _ ok, .executed source hdr.requestId hdr.serviceId
      hdr.methodEventId payload rc _], history, by simp [Event.kind]⟩
  rw [equal]
  exact sent.trans ((countRefusal_core ok after).history.ofBackground .reply)

theorem submit_observes (handle : Nat) (target : Address n) (serviceId methodId : UInt16)
    (payload : Payload) (hasCallback : Bool) (timeoutMs nowMs : UInt32) (w : World cfg) :
    Observes .submit w (w.submit env handle target serviceId methodId payload hasCallback
      timeoutMs nowMs).2 := by
  unfold submit
  split
  · exact .none _ rfl
  · next requestId tracker allocated =>
      exact ⟨[.sent (.request handle) target _ _, .issued handle requestId target serviceId
        methodId payload hasCallback], rfl, by simp [Event.kind]⟩

theorem finish_observes (slot : Fin cfg.maxPendingRequests) (cause : Cause)
    (rc : ReturnCode) (payload : Bytes) (w : World cfg) :
    Observes .finish w (RequestTracker.finish trackerLens (invokeRequest cause id) slot rc
      payload w) := by
  rw [RequestTracker.finish]
  cases ((trackerLens.get w).entries slot).callback with
  | none => exact .none _ rfl
  | some handle =>
      exact ⟨[.callback (.request handle cause rc payload)], rfl, by simp [Event.kind]⟩

theorem transmit_observes {kind : SendKind} (dest : Address n) {hdr : MessageHeader}
    (payload : Option Bytes) (payloadLength : Nat) (auth : Bool) (w : World cfg)
    (application : kind = .fireAndForget ∨ kind = .notification) :
    Observes .transmit w (w.transmit env kind dest hdr payload payloadLength auth).2 := by
  refine ⟨[.sent kind dest _ _], rfl, ?_⟩
  rcases application with rfl | rfl <;> simp [Event.kind]

end World

/-- The events a step adds are of its kind. -/
theorem Atomic.observes {kind : StepKind} {before after : World cfg}
    (step : Atomic env kind before after) : Observes kind before after := by
  cases step with
  | background step => exact step.core.history
  | validate source data => exact World.validate_observes source data before
  | enterHandler | resetPeer | markRenewals => exact ⟨[_], rfl, by simp [Event.kind]⟩
  | callback callback other =>
      refine ⟨[.callback callback], rfl, ?_⟩
      cases callback with
      | request handle cause rc payload => exact absurd rfl (other handle cause rc payload)
      | _ => simp [Event.kind]
  | reply => exact World.sendReply_observes _ _ _ _ _ _
  | finish => exact World.finish_observes _ _ _ _ _
  | submit => exact World.submit_observes _ _ _ _ _ _ _ _ _
  | transmit dest payload payloadLength auth _ type =>
      exact World.transmit_observes dest payload payloadLength auth before
        (type.imp And.left And.left)
  | @perform call isLocal =>
      have called : Observes .perform before (before.apiCall env id call).2 :=
        (World.apiCall_same id isLocal before).history.ofBackground .perform
      exact called.trans ⟨[.returned call _], rfl, by simp [Event.kind, isLocal]⟩
  | @returned call result _ outcome =>
      refine ⟨[.returned call result], rfl, ?_⟩
      cases call with
      | request | fireAndForget | notifyEvent => simp [Event.kind, ApiCall.isLocal]
      | _ => exact outcome.elim
  | sdWrite => exact .none _ rfl

theorem Steps.suffix {before after : World cfg} (steps : Steps env before after) :
    before.history <:+ after.history := by
  induction steps with
  | refl => exact List.suffix_refl _
  | tail _ step ih =>
      obtain ⟨kind, step⟩ := step
      exact ih.trans step.observes.suffix

theorem ApiSteps.observes {before after : World cfg} (steps : ApiSteps env before after) :
    ∃ events, after.history = events ++ before.history ∧
      ∀ event ∈ events, event.kind.isApi = true := by
  induction steps with
  | refl => exact ⟨[], rfl, by simp⟩
  | tail _ step ih =>
      obtain ⟨older, olderEq, olderKinds⟩ := ih
      obtain ⟨kind, isApi, step⟩ := step
      obtain ⟨newer, newerEq, newerKinds⟩ := step.observes
      refine ⟨newer ++ older, by rw [newerEq, olderEq, List.append_assoc], ?_⟩
      intro event member
      rcases List.mem_append.mp member with inNewer | inOlder
      · rcases newerKinds event inNewer with own | quiet
        · rw [own]
          exact isApi
        · rw [quiet]
          rfl
      · exact olderKinds event inOlder

namespace World

theorem increment_rt (counter : DiagnosticCounter) (header : Option Bytes) (w : World cfg) :
    (w.increment counter header).rt =
      { w.rt with diag := w.rt.diag.increment counter } := by
  rw [increment]
  split <;> rfl

/-- Step 8 writes the sequence table and counters. -/
theorem checkSequence_rt (source : Address n) (data : Bytes) (hdr : MessageHeader)
    (w : World cfg) :
    ∃ diag, (w.checkSequence source data hdr).2.rt =
      { w.rt with
        diag
        e2e := if hdr.serviceId = sdServiceId then w.rt.e2e
          else (w.rt.e2e.validateSequence source hdr.sequenceCounter).2 } ∧
      diag.callback = w.rt.diag.callback := by
  rw [checkSequence]
  split
  · exact ⟨w.rt.diag, rfl, rfl⟩
  · have recorded : (w.sequenceVerdict source data hdr.sequenceCounter).2.rt =
        { w.rt with e2e := (w.rt.e2e.validateSequence source hdr.sequenceCounter).2 } := rfl
    rcases verdict : w.sequenceVerdict source data hdr.sequenceCounter with ⟨result, after⟩
    rw [verdict] at recorded
    cases result with
    | accept | firstSeen => exact ⟨_, recorded, rfl⟩
    | duplicate | stale | tableFull =>
        dsimp only
        rw [increment_rt, recorded]
        exact ⟨_, rfl, rfl⟩

/-- Validation writes the sequence table and counters, the table only when the
datagram gets as far as step 8. -/
theorem validate_rt (source : Address n) (data : Bytes) (w : World cfg) :
    ∃ diag, (w.validate source data).2.rt =
      { w.rt with
        diag
        e2e := match checkFrame cfg data with
          | .error _ => w.rt.e2e
          | .ok hdr =>
              if hdr.serviceId = sdServiceId then w.rt.e2e
              else (w.rt.e2e.validateSequence source hdr.sequenceCounter).2 } ∧
      diag.callback = w.rt.diag.callback := by
  rw [validate]
  cases checkFrame cfg data with
  | error failure =>
      dsimp only
      rw [increment_rt]
      exact ⟨_, rfl, rfl⟩
  | ok hdr =>
      obtain ⟨diag, checked, callback⟩ :=
        checkSequence_rt source data hdr (w.emit (.received source data))
      rcases sequence : (w.emit (.received source data)).checkSequence source data hdr with
        ⟨proceed, after⟩
      rw [sequence] at checked
      simp only [sequence]
      cases proceed with
      | false => exact ⟨diag, checked, callback⟩
      | true =>
          simp only
          split
          · exact ⟨diag, checked, callback⟩
          · rw [increment_rt, checked]
            exact ⟨_, rfl, callback⟩

end World

/-- Which components a step of each kind can change. -/
structure Frame (kind : StepKind) (before after : World cfg) : Prop where
  clientId : after.rt.clientId = before.rt.clientId
  requestTracker : kind ∉ [.submit, .finish] →
    after.rt.requestTracker = before.rt.requestTracker
  e2e : kind ∉ [.validate, .reply, .submit, .transmit, .resetPeer] →
    after.rt.e2e = before.rt.e2e
  sd : kind ∉ [.perform, .sdWrite, .markRenewals] → after.rt.sd = before.rt.sd

theorem World.sendReply_frame (source : Address n) (hdr : MessageHeader)
    (payload : Bytes) (rc : ReturnCode) (responseLength : Nat) (w : World cfg) :
    Frame .reply w (w.sendReply env source hdr payload rc responseLength) := by
  obtain ⟨after, ok, equal, rt, -⟩ :=
    sendReply_spec env source hdr payload rc responseLength w
  have same := countRefusal_core ok after
  rw [equal]
  exact ⟨by rw [same.clientId, rt], fun _ => by rw [same.requestTracker, rt], by simp,
    fun _ => by rw [same.sd, rt]⟩

theorem Atomic.frame {kind : StepKind} {before after : World cfg}
    (step : Atomic env kind before after) : Frame kind before after := by
  cases step with
  | background step =>
      exact ⟨step.core.clientId, fun _ => step.core.requestTracker, fun _ => step.core.e2e,
        fun _ => step.core.sd⟩
  | validate source data =>
      obtain ⟨diag, rt, -⟩ := World.validate_rt source data before
      exact ⟨by rw [rt], fun _ => by rw [rt], by simp, fun _ => by rw [rt]⟩
  | enterHandler | callback | returned =>
      exact ⟨rfl, fun _ => rfl, fun _ => rfl, fun _ => rfl⟩
  | sdWrite | markRenewals => exact ⟨rfl, fun _ => rfl, fun _ => rfl, by simp⟩
  | resetPeer | transmit => exact ⟨rfl, fun _ => rfl, by simp, fun _ => rfl⟩
  | reply => exact World.sendReply_frame _ _ _ _ _ _
  | finish =>
      rw [RequestTracker.finish]
      cases ((World.trackerLens.get before).entries _).callback with
      | none => exact ⟨rfl, by simp, fun _ => rfl, fun _ => rfl⟩
      | some handle => exact ⟨rfl, by simp, fun _ => rfl, fun _ => rfl⟩
  | submit =>
      unfold World.submit
      split
      · exact ⟨rfl, fun _ => rfl, fun _ => rfl, fun _ => rfl⟩
      · exact ⟨rfl, by simp, by simp, fun _ => rfl⟩
  | @perform call isLocal =>
      have same : SameProtocol before (before.apiCall env id call).2 :=
        World.apiCall_same id isLocal before
      exact ⟨same.clientId, fun _ => same.requestTracker, fun _ => same.e2e, by simp⟩

end Sero
