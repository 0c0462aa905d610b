import Sero.Runtime.DiscoverySteps

/-!
# Deeds

Every operation once more as a sequence of steps, this time of steps that say what they are
done for: an answer names the datagram it answers, a callback the datagram or the entry it is
made for, and a call that neither waits nor runs a callback is one step with its return.
Where a frame or a callback comes from is proved over these.
-/

namespace Sero

open Library ServiceDiscovery

variable {n : Nat} {cfg : Config n}

/-- Who is to be answered. -/
def SdRequest.asker : SdRequest n → Option (Address n)
  | find source _ => some source
  | subscribe source _ _ => some source
  | _ => none

/-- An answer goes to where the datagram came from. -/
theorem heard_asker {source asker : Address n} {data : Bytes} {request : SdRequest n}
    (hears : heard cfg source data = some request) (asks : request.asker = some asker) :
    asker = source := by
  rw [heard] at hears
  split at hears
  · cases hears
  · next hdr _ =>
      split at hears
      · rw [SdRequest.decode] at hears
        split at hears
        · obtain ⟨offer, -, rfl⟩ := Option.map_eq_some_iff.mp hears
          cases asks
        · obtain ⟨serviceId, -, rfl⟩ := Option.map_eq_some_iff.mp hears
          exact (Option.some.inj asks).symm
        · obtain ⟨request, -, rfl⟩ := Option.map_eq_some_iff.mp hears
          exact (Option.some.inj asks).symm
        · obtain ⟨granted, -, rfl⟩ := Option.map_eq_some_iff.mp hears
          cases asks
        · obtain ⟨request, -, rfl⟩ := Option.map_eq_some_iff.mp hears
          cases asks
        · cases hears
      · cases hears

/-- When a callback other than a request's is made. -/
inductive Occasion (w : World cfg) : Callback n → Prop where
  | event {source : Address n} {data : Bytes} {hdr : MessageHeader} {entry : EventHandlerEntry}
      (accepted : Accepted source data hdr w) (notSd : hdr.serviceId ≠ sdServiceId)
      (type : MessageType.ofByte hdr.messageType = some .notification)
      (found : w.findEventHandler hdr.serviceId hdr.methodEventId = some entry) :
      Occasion w (.event entry.context hdr.serviceId hdr.methodEventId (payloadOf hdr data))
  | serviceFound {source : Address n} {data : Bytes} {offer : SdPayload.Offer n}
      (dispatched : .dispatched source data ∈ w.history)
      (offers : heard cfg source data = some (.offer offer)) :
      Occasion w (.serviceFound offer.serviceId offer.providerAddr)
  | serviceLost (serviceId : UInt16) : Occasion w (.serviceLost serviceId)
  | subscriptionAck {source : Address n} {data : Bytes} {result : ReturnCode}
      {granted : SdPayload.Subscribe} (dispatched : .dispatched source data ∈ w.history)
      (acks : heard cfg source data = some (.ack result granted)) :
      Occasion w (.subscriptionAck granted.serviceId granted.eventId result granted.ttlSeconds)

/-- A handler is entered with a response buffer if the frame asks for a response. -/
inductive Asks (cfg : Config n) (hdr : MessageHeader) : Option Nat → Prop where
  | request (type : MessageType.ofByte hdr.messageType = some .request) :
      Asks cfg hdr (some cfg.maxPayloadSize)
  | requestNoReturn (type : MessageType.ofByte hdr.messageType = some .requestNoReturn) :
      Asks cfg hdr none

/-- The entry of a service has been given this address. -/
def World.Knows (serviceId : UInt16) (provider : Address n) (w : World cfg) : Prop :=
  ∃ entry, w.rt.sd.findConsumer serviceId = some entry ∧ entry.providerAddr = provider

/-- One step, with what it is done for. -/
inductive Deed (env : Env cfg) : StepKind → World cfg → World cfg → Prop where
  | drop (w : World cfg) : Deed env .background w (w.increment .droppedMessages none)
  | storeDtcs {dtcStore : DtcStore cfg} {w : World cfg}
      (write : DiagnosticsService.DtcWrite w.rt.dtcStore dtcStore) :
      Deed env .background w { w with rt := { w.rt with dtcStore } }
  | fillResponse (responseBuffer : Buffer cfg.maxPayloadSize) (w : World cfg) :
      Deed env .background w { w with rt := { w.rt with responseBuffer } }
  | validate (source : Address n) (data : Bytes) (w : World cfg) :
      Deed env .validate w (w.validate source data).2
  | enterHandler {source : Address n} {data : Bytes} {hdr : MessageHeader} {entry : ServiceEntry}
      {capacity : Option Nat} {w : World cfg} (accepted : Accepted source data hdr w)
      (notSd : hdr.serviceId ≠ sdServiceId) (asks : Asks cfg hdr capacity)
      (found : w.rt.dispatcher.find hdr.serviceId = some entry)
      (ready : w.isReady env entry.context = true) :
      Deed env .enterHandler w (w.emit (.onRequest entry w.rt.authenticator hdr.methodEventId
        (payloadOf hdr data) capacity))
  | reply {source : Address n} {data : Bytes} {hdr : MessageHeader} {w : World cfg}
      (accepted : .dispatched source data ∈ w.history) (checked : checkFrame cfg data = .ok hdr)
      (notSd : hdr.serviceId ≠ sdServiceId)
      (isRequest : MessageType.ofByte hdr.messageType = some .request) (rc : ReturnCode)
      {responseLength : Nat} (fits : env.Honest → responseLength ≤ cfg.maxPayloadSize) :
      Deed env .reply w (w.sendReply env source hdr (payloadOf hdr data) rc responseLength)
  | finish {slot : Fin cfg.maxPendingRequests} {cause : Cause} {rc : ReturnCode}
      {payload : Bytes} {w : World cfg}
      (active : (w.rt.requestTracker.entries slot).active = true)
      (reason : Finishes w slot cause rc payload) :
      Deed env .finish w (RequestTracker.finish World.trackerLens (World.invokeRequest cause id)
        slot rc payload w)
  | callback {callback : Callback n} {w : World cfg} (occasion : Occasion w callback) :
      Deed env .callback w (w.emit (.callback callback))
  | submit {handle : Nat} (target : Address n) (serviceId methodId : UInt16)
      (payload : Payload) (hasCallback : Bool) (timeoutMs nowMs : UInt32) {w : World cfg}
      (fresh : handle = w.history.length) :
      Deed env .submit w (w.submit env handle target serviceId methodId payload hasCallback
        timeoutMs nowMs).2
  | returned {target : Option (Address n)} {serviceId methodId : UInt16} {payload : Payload}
      {hasCallback : Bool} {timeoutMs nowMs : UInt32} {handle : Nat} {requestId : Option UInt32}
      {w : World cfg} (old : handle ≤ w.history.length)
      (outcome : RequestOutcome w.history handle hasCallback requestId) :
      Deed env .returned w (w.emit (.returned (.request target serviceId methodId payload
        hasCallback timeoutMs nowMs) (.request handle requestId)))
  | fireAndForget (serviceId methodId : UInt16) (payload : Payload) (w : World cfg) :
      Deed env .transmit w (w.perform env id (.fireAndForget serviceId methodId payload))
  | notifyEvent (serviceId eventId : UInt16) (payload : Payload) (w : World cfg) :
      Deed env .transmit w (w.perform env id (.notifyEvent serviceId eventId payload))
  | perform {call : ApiCall cfg} (isLocal : call.isLocal = true) (w : World cfg) :
      Deed env .perform w (w.perform env id call)
  | resetPeer (addr : Address n) (w : World cfg) : Deed env .resetPeer w (w.resetPeer addr)
  | recordOffer {source : Address n} {data : Bytes} {offer : SdPayload.Offer n} {w : World cfg}
      (dispatched : .dispatched source data ∈ w.history)
      (offers : heard cfg source data = some (.offer offer)) (nowMs : UInt32) :
      Deed env .sdWrite w (World.sdLens.modify (fun sd => sd.recordOffer offer.serviceId
        offer.ttlSeconds offer.sessionId offer.providerAddr nowMs) w)
  | markFound {source : Address n} {data : Bytes} {offer : SdPayload.Offer n} {w : World cfg}
      (dispatched : .dispatched source data ∈ w.history)
      (offers : heard cfg source data = some (.offer offer))
      (knows : w.Knows offer.serviceId offer.providerAddr) :
      Deed env .sdWrite w (World.sdLens.modify (fun sd => sd.markFound offer.serviceId) w)
  | flagResubscribe (serviceId : UInt16) (nowMs : UInt32) (w : World cfg) :
      Deed env .sdWrite w (World.sdLens.modify (fun sd => sd.flagResubscribe serviceId nowMs) w)
  | recordAck (serviceId eventId : UInt16) (result : ReturnCode) (grantedTtl : UInt16)
      (w : World cfg) :
      Deed env .sdWrite w (World.sdLens.modify (fun sd =>
        sd.recordAck serviceId eventId result grantedTtl) w)
  | expireConsumer (index : Nat) (w : World cfg) :
      Deed env .sdWrite w (World.sdLens.modify (fun sd => sd.expireConsumer index) w)
  | giveUpFind (index : Nat) (retryCount : UInt8) (w : World cfg) :
      Deed env .sdWrite w (World.sdLens.modify (fun sd => sd.giveUpFind index retryCount) w)
  | scheduleRetry (index : Nat) (retryCount : UInt8) (nowMs : UInt32) (w : World cfg) :
      Deed env .sdWrite w
        (World.sdLens.modify (fun sd => sd.scheduleRetry index retryCount nowMs) w)
  | answerFind {source : Address n} {data : Bytes} {serviceId : UInt16} {w : World cfg}
      (dispatched : .dispatched source data ∈ w.history)
      (finds : heard cfg source data = some (.find source serviceId)) :
      Deed env .background w ((w.rt.sd.handleFind serviceId).foldl
        (fun w message => w.sendSdUnicast env source message) w)
  | subscribeRequest {source : Address n} {data : Bytes} {hdr : MessageHeader}
      {request : SdPayload.Subscribe} {w : World cfg}
      (dispatched : .dispatched source data ∈ w.history)
      (subscribes : heard cfg source data = some (.subscribe source hdr request))
      (nowMs : UInt32) :
      Deed env .sdWrite w (w.handleSubscribeRequest env source hdr request nowMs)
  | unsubscribeRequest (request : SdPayload.Subscribe) (clientId : UInt16) (w : World cfg) :
      Deed env .sdWrite w { w with rt := { w.rt with
        eventManager := w.rt.eventManager.unsubscribe request.serviceId request.eventId
          clientId } }
  | startCycle (nowMs : UInt32) (w : World cfg) : Deed env .background w (w.startCycle nowMs)
  | evictSubscribers (nowMs : UInt32) (w : World cfg) :
      Deed env .sdWrite w (w.evictSubscribers nowMs)
  | broadcastOffers (nowMs : UInt32) (w : World cfg) :
      Deed env .sdWrite w (w.broadcastOffers env nowMs)
  | renewSubscriptions (nowMs : UInt32) (w : World cfg) :
      Deed env .markRenewals w (w.renewSubscriptions env nowMs)
  | sendFind {entry : ConsumerEntry n} {w : World cfg} (listed : entry ∈ w.rt.sd.consumers)
      (searching : entry.state = .searching) :
      Deed env .background w (w.sendSdBroadcast env (.find entry.serviceId))

/-- Any number of them. -/
abbrev Deeds (env : Env cfg) : World cfg → World cfg → Prop :=
  Relation.ReflTransGen fun before after => ∃ kind, Deed env kind before after

variable {env : Env cfg}

/-- Deeds are steps. -/
theorem Deed.steps {kind : StepKind} {before after : World cfg}
    (deed : Deed env kind before after) : Steps env before after := by
  cases deed with
  | drop => exact (Background.increment _ _ before).steps
  | storeDtcs write => exact (Background.storeDtcs write).steps
  | fillResponse buffer => exact (Background.fillResponse buffer before).steps
  | validate source data => exact (Atomic.validate source data before).steps
  | enterHandler accepted notSd _ found => exact (Atomic.enterHandler _ accepted notSd found).steps
  | reply accepted checked notSd isRequest rc fits =>
      exact (Atomic.reply accepted checked notSd isRequest rc fits).steps
  | finish active reason => exact (Atomic.finish active reason).steps
  | callback occasion =>
      refine (Atomic.callback _ ?_ before).steps
      cases occasion <;> simp
  | submit target serviceId methodId payload hasCallback timeoutMs nowMs fresh =>
      exact (Atomic.submit target serviceId methodId payload hasCallback timeoutMs nowMs
        fresh).steps
  | returned old outcome =>
      refine (Atomic.returned ?_).steps
      exact And.intro old outcome
  | fireAndForget | notifyEvent => exact (World.perform_steps (fun _ => .refl) _ before).steps
  | perform isLocal => exact (Atomic.perform isLocal before).steps
  | resetPeer addr => exact (Atomic.resetPeer addr before).steps
  | recordOffer => exact World.sdWrite_steps (fun _ => .recordOffer _ _ _ _ _) before
  | markFound => exact World.sdWrite_steps (fun _ => .markFound _) before
  | flagResubscribe => exact World.sdWrite_steps (fun _ => .flagResubscribe _ _) before
  | recordAck => exact World.sdWrite_steps (fun _ => .recordAck _ _ _ _) before
  | expireConsumer => exact World.sdWrite_steps (fun _ => .expireConsumer _) before
  | giveUpFind => exact World.sdWrite_steps (fun _ => .giveUpFind _ _) before
  | scheduleRetry => exact World.sdWrite_steps (fun _ => .scheduleRetry _ _ _) before
  | answerFind => exact Runs.foldl (fun w message => (Background.sdUnicast _ message w).steps) _ _
  | subscribeRequest _ _ nowMs => exact (Background.subscribeRequest _ _ _ nowMs before).steps
  | unsubscribeRequest request clientId =>
      exact (Background.unsubscribeRequest request clientId before).steps
  | startCycle nowMs => exact (Background.startCycle nowMs before).steps
  | evictSubscribers nowMs => exact (Background.evictSubscribers nowMs before).steps
  | broadcastOffers nowMs =>
      exact (World.sdWrite_steps (fun _ => .processOffers nowMs) before).trans
        (Runs.foldl (fun _ _ => (Background.sdBroadcast _ _).steps) _ _)
  | renewSubscriptions nowMs =>
      exact (Atomic.markRenewals nowMs before).steps.trans
        (Runs.foldl (fun _ _ => (Background.sdUnicast _ _ _).steps) _ _)
  | sendFind => exact (Background.sdBroadcast _ before).steps

theorem Deed.deeds {kind : StepKind} {before after : World cfg}
    (deed : Deed env kind before after) : Deeds env before after :=
  .single ⟨kind, deed⟩

theorem Deeds.steps {before after : World cfg} (deeds : Deeds env before after) :
    Steps env before after := by
  induction deeds with
  | refl => exact .refl
  | tail _ deed ih =>
      obtain ⟨kind, deed⟩ := deed
      exact ih.trans deed.steps

theorem Deeds.kept {before after : World cfg} (deeds : Deeds env before after)
    {event : Event cfg} (occurred : event ∈ before.history) : event ∈ after.history :=
  deeds.steps.suffix.subset occurred

namespace World

/-! ## Operations as deeds -/

section Calls

variable {body : World cfg → World cfg} (runs : ∀ w, CallSteps env w (body w))
  (deeds : ∀ w, Deeds env w (body w))

include deeds in
theorem finish_deeds {w : World cfg} {slot : Fin cfg.maxPendingRequests} {cause : Cause}
    {rc : ReturnCode} {payload : Bytes}
    (active : (w.rt.requestTracker.entries slot).active = true)
    (reason : Finishes w slot cause rc payload) :
    Deeds env w (RequestTracker.finish trackerLens (invokeRequest cause body) slot rc payload
      w) := by
  have entered : Deeds env w _ := (Deed.finish active reason).deeds
  rw [finish_body]
  cases (w.rt.requestTracker.entries slot).callback with
  | none => exact entered
  | some handle => exact entered.trans (deeds _)

include deeds in
theorem requestImpl_deeds {handle : Nat} {w : World cfg} (fresh : handle = w.history.length)
    (target : Address n) (serviceId methodId : UInt16) (payload : Payload)
    (hasCallback : Bool) (timeoutMs nowMs : UInt32) :
    Deeds env w (w.requestImpl env body handle target serviceId methodId payload hasCallback
      timeoutMs nowMs).2 := by
  have submitted : Deeds env w (w.submit env handle target serviceId methodId payload hasCallback
      timeoutMs nowMs).2 :=
    (Deed.submit target serviceId methodId payload hasCallback timeoutMs nowMs fresh).deeds
  have outcome := @submit_spec _ _ env handle target serviceId methodId payload hasCallback
    timeoutMs nowMs w
  rcases submission : w.submit env handle target serviceId methodId payload hasCallback timeoutMs
      nowMs with ⟨answer, after⟩
  rw [submission] at submitted outcome
  rw [requestImpl, submission]
  rcases answer with - | ⟨requestId, - | -⟩
  · exact submitted
  · refine (submitted.trans ?_).trans (Deed.drop _).deeds
    dsimp only
    rw [RequestTracker.complete, trackerLens_get]
    cases found : after.rt.requestTracker.findActive requestId with
    | none => exact .refl
    | some slot =>
        obtain ⟨active, slotId⟩ := RequestTracker.findActive_spec found
        rcases outcome with ⟨-, none⟩ | ⟨_, _, _, -, same, -, -, rt, auth, history⟩
        · cases none
        · cases same
          exact finish_deeds deeds active (.sendFailed history slotId)
  · exact submitted

include runs deeds in
/-- A call with its return. -/
theorem perform_deeds (call : ApiCall cfg) (w : World cfg) :
    Deeds env w (w.perform env body call) := by
  cases call with
  | request target serviceId methodId payload hasCallback timeoutMs nowMs =>
      obtain ⟨steps, outcome⟩ := request_steps runs (rfl : w.history.length = _) target
        serviceId methodId payload hasCallback timeoutMs nowMs
      have requested : Deeds env w (w.request env body w.history.length target serviceId methodId
          payload hasCallback timeoutMs nowMs).2 := by
        rw [request]
        cases target.or (w.rt.sd.getProviderAddress serviceId) with
        | none => exact .refl
        | some provider => exact requestImpl_deeds deeds rfl _ _ _ _ _ _ _
      exact requested.trans (Deed.returned (Steps.suffix steps.steps).length_le outcome).deeds
  | fireAndForget serviceId methodId payload =>
      exact (Deed.fireAndForget serviceId methodId payload w).deeds
  | notifyEvent serviceId eventId payload =>
      exact (Deed.notifyEvent serviceId eventId payload w).deeds
  | _ => exact (Deed.perform rfl w).deeds

end Calls

theorem script_deeds (script : Script cfg) :
    ∀ w : World cfg, Deeds env w (script.run env w) := by
  induction script with
  | done => exact fun _ => .refl
  | call operation callback rest callbackIh restIh =>
      intro w
      exact (perform_deeds callback.run_steps callbackIh operation w).trans (restIh _)

theorem react_deeds (w : World cfg) : Deeds env w (w.react env) :=
  script_deeds _ w

theorem callback_deeds {callback : Callback n} {w : World cfg} (occasion : Occasion w callback) :
    Deeds env w (w.callback env callback) :=
  (Deed.callback occasion).deeds.trans (react_deeds _)

section Receiving

variable {source : Address n} {data : Bytes} {hdr : MessageHeader} {w : World cfg}

theorem callHandler_deeds (accepted : Accepted source data hdr w)
    (notSd : hdr.serviceId ≠ sdServiceId) {capacity : Option Nat} (asks : Asks cfg hdr capacity)
    {entry : ServiceEntry} (found : w.rt.dispatcher.find hdr.serviceId = some entry)
    (ready : w.isReady env entry.context = true) :
    Deeds env w
      (w.callHandler env entry hdr.methodEventId (payloadOf hdr data) capacity).2 := by
  refine (Deed.enterHandler accepted notSd asks found ready).deeds.trans ?_
  simp only [World.callHandler]
  cases entry.context with
  | application context => exact script_deeds _ _
  | diagnostics => exact (Deed.storeDtcs (DiagnosticsService.onRequest_write ..)).deeds

theorem dispatch_deeds (accepted : Accepted source data hdr w)
    (notSd : hdr.serviceId ≠ sdServiceId)
    (isRequest : MessageType.ofByte hdr.messageType = some .request) :
    Deeds env w (w.dispatch env hdr.serviceId hdr.methodEventId (payloadOf hdr data)).2 := by
  rw [World.dispatch]
  cases found : w.rt.dispatcher.find hdr.serviceId with
  | none => exact .refl
  | some entry =>
      dsimp only
      split
      · next ready =>
          exact (callHandler_deeds accepted notSd (.request isRequest) found ready).trans
            (Deed.fillResponse _ _).deeds
      · exact .refl

theorem handleRequest_deeds (accepted : Accepted source data hdr w)
    (notSd : hdr.serviceId ≠ sdServiceId)
    (isRequest : MessageType.ofByte hdr.messageType = some .request) :
    Deeds env w (w.handleRequest env source hdr (payloadOf hdr data)) := by
  have dispatched : Deeds env w _ := dispatch_deeds accepted notSd isRequest
  have fits := ((@plainWalk_plainSteps _ _ env).dispatch accepted notSd).2
  have still := dispatched.kept (List.mem_of_mem_head? accepted.current)
  exact dispatched.trans (Deed.reply still accepted.checked notSd isRequest _ fits).deeds

theorem handleFireAndForget_deeds (accepted : Accepted source data hdr w)
    (notSd : hdr.serviceId ≠ sdServiceId)
    (type : MessageType.ofByte hdr.messageType = some .requestNoReturn) :
    Deeds env w (w.handleFireAndForget env hdr (payloadOf hdr data)) := by
  rw [World.handleFireAndForget]
  cases found : w.rt.dispatcher.find hdr.serviceId with
  | none => exact (Deed.drop w).deeds
  | some entry =>
      dsimp only
      split
      · next ready => exact callHandler_deeds accepted notSd (.requestNoReturn type) found ready
      · exact .refl

theorem handleReply_deeds (accepted : Accepted source data hdr w)
    (notSd : hdr.serviceId ≠ sdServiceId)
    (type : MessageType.ofByte hdr.messageType = some .response ∨
      MessageType.ofByte hdr.messageType = some .error) :
    Deeds env w (w.handleReply env hdr (payloadOf hdr data)) := by
  rw [World.handleReply, RequestTracker.complete]
  cases found : (trackerLens.get w).findActive hdr.requestId with
  | none => exact .refl
  | some slot =>
      obtain ⟨active, requestId⟩ := RequestTracker.findActive_spec found
      exact finish_deeds react_deeds active (.reply accepted notSd type requestId)

theorem handleNotification_deeds (accepted : Accepted source data hdr w)
    (notSd : hdr.serviceId ≠ sdServiceId)
    (type : MessageType.ofByte hdr.messageType = some .notification) :
    Deeds env w (w.handleNotification env hdr (payloadOf hdr data)) := by
  rw [World.handleNotification]
  split
  · exact .refl
  · next entry found => exact callback_deeds (.event accepted notSd type found)

/-- Messages other than discovery's. -/
theorem dispatchMessage_deeds (accepted : Accepted source data hdr w)
    (notSd : hdr.serviceId ≠ sdServiceId) (nowMs : UInt32) :
    Deeds env w (w.dispatchMessage env source hdr (payloadOf hdr data) nowMs) := by
  rw [World.dispatchMessage, if_neg notSd]
  split
  · next type => exact handleRequest_deeds accepted notSd type
  · next type => exact handleFireAndForget_deeds accepted notSd type
  · next type => exact handleReply_deeds accepted notSd (.inl type)
  · next type => exact handleReply_deeds accepted notSd (.inr type)
  · next type => exact handleNotification_deeds accepted notSd type
  · exact .refl

end Receiving

section Discovery

variable {serviceId : UInt16} {provider : Address n} {w : World cfg}

/-- The application can ask for a service again, not change the address of its entry. -/
theorem Knows.callStep {after : World cfg} (knows : w.Knows serviceId provider)
    (step : CallStep env w after) : after.Knows serviceId provider := by
  obtain ⟨entry, found, address⟩ := knows
  have kept : after.rt.sd.consumers = w.rt.sd.consumers → after.Knows serviceId provider := by
    intro same
    refine ⟨entry, ?_, address⟩
    rw [findConsumer, same]
    exact found
  cases step with
  | count => exact kept (congrArg ServiceDiscovery.consumers (increment_core ..).sd)
  | own isCall step =>
      have frame := step.frame.sd
      cases step with
      | @perform call isLocal =>
          by_cases finds : ∃ wanted major nowMs, call = .findService wanted major nowMs
          · obtain ⟨wanted, major, nowMs, rfl⟩ := finds
            have written : (w.perform env id (.findService wanted major nowMs)).rt.sd =
                (w.rt.sd.find wanted major nowMs).2 := rfl
            by_cases same : serviceId = wanted
            · subst same
              refine ⟨ConsumerEntry.search serviceId major nowMs entry, ?_, address⟩
              rw [written]
              exact findConsumer_find found major nowMs
            · refine ⟨entry, ?_, address⟩
              rw [written, findConsumer_find_of_ne _ same]
              exact found
          · refine kept (apiCall_consumers id isLocal ?_ w)
            rintro wanted major nowMs rfl
            exact finds ⟨wanted, major, nowMs, rfl⟩
      | finish | submit | transmit | returned =>
          exact kept (congrArg ServiceDiscovery.consumers (frame (by simp)))
      | _ => cases isCall

theorem Knows.callServiceLost (knows : w.Knows serviceId provider) (lost : UInt16) :
    (callServiceLost sdLens (sdHooks env) lost w).Knows serviceId provider := by
  rw [ServiceDiscovery.callServiceLost]
  split
  · have entered : (w.emit (.callback (.serviceLost lost))).Knows serviceId provider := knows
    exact Runs.invariant (fun _ _ known step => known.callStep step) (react_steps _) entered
  · exact knows

theorem callServiceLost_deeds (lost : UInt16) (w : World cfg) :
    Deeds env w (ServiceDiscovery.callServiceLost sdLens (sdHooks env) lost w) := by
  rw [ServiceDiscovery.callServiceLost]
  split
  · exact callback_deeds (.serviceLost lost)
  · exact .refl

/-- Recording an offer tells the address. -/
theorem knows_recordOffer {entry : ConsumerEntry n}
    (found : w.rt.sd.findConsumer serviceId = some entry) (ttlSeconds sessionId : UInt16)
    (nowMs : UInt32) :
    World.Knows serviceId provider (sdLens.modify (fun sd =>
      sd.recordOffer serviceId ttlSeconds sessionId provider nowMs) w) := by
  have recorded : (w.rt.sd.recordOffer serviceId ttlSeconds sessionId provider
      nowMs).findConsumer serviceId = _ := findConsumer_updateConsumer _ (by simp) _
  rw [if_pos rfl, found] at recorded
  exact ⟨_, recorded, rfl⟩

section Offers

variable {source : Address n} {data : Bytes} {offer : SdPayload.Offer n}
  (offers : heard cfg source data = some (.offer offer))

include offers

theorem callServiceFound_deeds (dispatched : .dispatched source data ∈ w.history) :
    Deeds env w (callServiceFound sdLens (sdHooks env) offer.serviceId offer.providerAddr w) := by
  rw [callServiceFound]
  split
  · exact callback_deeds (.serviceFound dispatched offers)
  · exact .refl

theorem sdHandleOffer_deeds (dispatched : .dispatched source data ∈ w.history) (nowMs : UInt32) :
    Deeds env w (ServiceDiscovery.handleOffer sdLens (sdHooks env) offer.serviceId
      offer.majorVersion offer.ttlSeconds offer.sessionId offer.providerAddr nowMs w) := by
  have flagged : ∀ w : World cfg, Deeds env w
      (sdLens.modify (fun sd => sd.flagResubscribe offer.serviceId nowMs) w) :=
    fun w => (Deed.flagResubscribe _ _ w).deeds
  unfold ServiceDiscovery.handleOffer
  split
  · exact .refl
  · split
    · exact .refl
    · next entry found =>
      split
      · exact .refl
      · have recorded : Deeds env w _ := (Deed.recordOffer dispatched offers nowMs).deeds
        have knows := @World.knows_recordOffer _ _ _ offer.providerAddr w _ found
          offer.ttlSeconds offer.sessionId nowMs
        have marked : ∀ {w : World cfg}, w.Knows offer.serviceId offer.providerAddr →
            .dispatched source data ∈ w.history →
            Deeds env w (sdLens.modify (fun sd => sd.markFound offer.serviceId) w) :=
          fun knows dispatched => (Deed.markFound dispatched offers knows).deeds
        refine recorded.trans ?_
        dsimp only
        split
        · have lost := @callServiceLost_deeds _ _ env offer.serviceId (sdLens.modify (fun sd =>
            sd.recordOffer offer.serviceId offer.ttlSeconds offer.sessionId offer.providerAddr
              nowMs) w)
          have still := lost.kept dispatched
          refine lost.trans ((marked (knows.callServiceLost _) still).trans ?_)
          refine Relation.ReflTransGen.trans ?_ (flagged _)
          exact callServiceFound_deeds offers still
        · split
          · exact (marked knows dispatched).trans
              ((flagged _).trans (callServiceFound_deeds offers dispatched))
          · split
            · exact (flagged _).trans (callServiceFound_deeds offers dispatched)
            · exact .refl

end Offers

theorem handleOffer_deeds {source : Address n} {data : Bytes} {offer : SdPayload.Offer n}
    (dispatched : .dispatched source data ∈ w.history)
    (offers : heard cfg source data = some (.offer offer)) (nowMs : UInt32) :
    Deeds env w (w.handleOffer env offer nowMs) := by
  rw [World.handleOffer]
  split
  · exact (Deed.resetPeer offer.providerAddr w).deeds.trans
      (sdHandleOffer_deeds offers (.tail _ dispatched) nowMs)
  · exact sdHandleOffer_deeds offers dispatched nowMs

theorem handleSubscribeAck_deeds {source : Address n} {data : Bytes} {result : ReturnCode}
    {granted : SdPayload.Subscribe} (dispatched : .dispatched source data ∈ w.history)
    (acks : heard cfg source data = some (.ack result granted)) :
    Deeds env w (ServiceDiscovery.handleSubscribeAck sdLens (sdHooks env) granted.serviceId
      granted.eventId result granted.ttlSeconds w) := by
  rw [ServiceDiscovery.handleSubscribeAck]
  have recorded : Deeds env w _ := (Deed.recordAck granted.serviceId granted.eventId result
    granted.ttlSeconds w).deeds
  split
  · exact recorded.trans (callback_deeds (.subscriptionAck dispatched acks))
  · exact recorded

theorem handle_deeds {source : Address n} {data : Bytes} {request : SdRequest n}
    (dispatched : .dispatched source data ∈ w.history)
    (hears : heard cfg source data = some request) (nowMs : UInt32) :
    Deeds env w (request.handle env nowMs w) := by
  cases request with
  | offer offer => exact handleOffer_deeds dispatched hears nowMs
  | find asker serviceId =>
      obtain rfl := heard_asker hears rfl
      exact (Deed.resetPeer asker w).deeds.trans (Deed.answerFind (.tail _ dispatched) hears).deeds
  | subscribe asker hdr asked =>
      obtain rfl := heard_asker hears rfl
      exact (Deed.subscribeRequest dispatched hears nowMs).deeds
  | ack result granted => exact handleSubscribeAck_deeds dispatched hears
  | unsubscribe clientId asked => exact (Deed.unsubscribeRequest asked clientId w).deeds

end Discovery

theorem validateAndDispatch_deeds (source : Address n) (data : Bytes) (nowMs : UInt32)
    (w : World cfg) : Deeds env w (w.validateAndDispatch env source data nowMs) := by
  have validated : Deeds env w (w.validate source data).2 := (Deed.validate source data w).deeds
  rw [World.validateAndDispatch]
  rcases outcome : w.validate source data with ⟨passed, after⟩
  rw [outcome] at validated
  cases passed with
  | none => exact validated
  | some hdr =>
      have accepted := validate_accepted outcome
      refine validated.trans ?_
      by_cases sd : hdr.serviceId = sdServiceId
      · have hears : heard cfg source data =
            SdRequest.decode source hdr (payloadOf hdr data) := by
          rw [heard, accepted.checked]
          exact if_pos sd
        simp only [dispatchMessage, if_pos sd, handleSdMessage_eq]
        cases decoded : SdRequest.decode source hdr (payloadOf hdr data) with
        | none => exact .refl
        | some request =>
            exact handle_deeds (List.mem_of_mem_head? accepted.current) (hears.trans decoded) nowMs
      · exact dispatchMessage_deeds accepted sd nowMs

theorem evictRequests_deeds (nowMs : UInt32) (w : World cfg) :
    Deeds env w (w.evictRequests env nowMs) := by
  refine Runs.foldl (fun w slot => ?_) _ w
  rw [RequestTracker.evictSlot]
  split
  · next expired =>
      rw [Bool.and_eq_true] at expired
      exact finish_deeds react_deeds expired.1 (.timeout expired.2)
  · exact .refl

theorem processConsumerTtl_deeds (nowMs : UInt32) (w : World cfg) (index : Nat) :
    Deeds env w (processConsumerTtl sdLens (sdHooks env) nowMs w index) := by
  rw [processConsumerTtl]
  split
  · exact .refl
  · split
    · exact (Deed.expireConsumer index w).deeds.trans
        ((Deed.resetPeer _ _).deeds.trans (callServiceLost_deeds _ _))
    · exact .refl

theorem processFind_deeds (nowMs : UInt32) (w : World cfg) (index : Nat) :
    Deeds env w (processFind sdLens (sdHooks env) nowMs w index) := by
  rw [processFind]
  split
  · exact .refl
  · next entry here =>
      split
      · next due =>
          refine (Deed.sendFind (List.mem_of_getElem? here) due.1).deeds.trans ?_
          dsimp only
          split
          · exact (Deed.giveUpFind index _ _).deeds.trans (callServiceLost_deeds _ _)
          · exact (Deed.scheduleRetry index _ nowMs _).deeds
      · exact .refl

theorem housekeeping_deeds (nowMs : UInt32) (w : World cfg) :
    Deeds env w (w.housekeeping env nowMs) := by
  refine (evictRequests_deeds nowMs w).trans ?_
  refine (Deed.evictSubscribers nowMs _).deeds.trans ?_
  refine (Deed.broadcastOffers nowMs _).deeds.trans ?_
  refine (Deed.renewSubscriptions nowMs _).deeds.trans ?_
  exact (Runs.foldl (processConsumerTtl_deeds nowMs) _ _).trans
    (Runs.foldl (processFind_deeds nowMs) _ _)

theorem step_deeds (w : World cfg) (move : Move cfg) : Deeds env w (w.step env move) := by
  cases move with
  | api call => exact perform_deeds react_steps react_deeds call w
  | start nowMs => exact (Deed.startCycle nowMs w).deeds
  | deliver source data nowMs => exact validateAndDispatch_deeds source data nowMs w
  | housekeeping nowMs => exact housekeeping_deeds nowMs w

/-- Every reachable world is reached by deeds.  In between lie the worlds in which handlers and
callbacks are entered and make their calls. -/
theorem Reachable.deeds {w : World cfg} (reachable : Reachable env w) :
    ∃ clientId, Deeds env (World.initial cfg clientId) w := by
  obtain ⟨clientId, moves, rfl⟩ := reachable
  exact ⟨clientId, Runs.foldl step_deeds moves _⟩

/-- What holds initially and is preserved by every deed holds of every reachable world. -/
theorem Reachable.deedsInvariant {holds : World cfg → Prop}
    (initially : ∀ clientId, holds (World.initial cfg clientId))
    (preserves : ∀ kind before after, holds before → Deed env kind before after → holds after)
    {w : World cfg} (reachable : Reachable env w) : holds w := by
  obtain ⟨clientId, run⟩ := reachable.deeds
  refine Runs.invariant ?_ run (initially clientId)
  rintro before after holding ⟨kind, deed⟩
  exact preserves kind before after holding deed

end World

/-! ## What deeds observe and leave alone -/

theorem Observes.foldl {α : Type} {kind : StepKind} {body : World cfg → α → World cfg}
    (each : ∀ w item, Observes kind w (body w item)) (items : List α) (w : World cfg) :
    Observes kind w (items.foldl body w) := by
  induction items generalizing w with
  | nil => exact .none _ rfl
  | cons item rest ih => exact (each w item).trans (ih _)

theorem SendSteps.observes {before after : World cfg} (steps : SendSteps env before after) :
    Observes .transmit before after := by
  induction steps with
  | refl => exact .none _ rfl
  | tail _ step ih =>
      refine ih.trans ?_
      cases step with
      | count => exact (World.increment_core ..).history.ofBackground _
      | transmit step => exact step.observes

/-- The events of a deed: its own, quiet ones, and the return of a call that sends. -/
def DeedObserves (kind : StepKind) (before after : World cfg) : Prop :=
  ∃ events, after.history = events ++ before.history ∧
    ∀ event ∈ events, event.kind = kind ∨ event.kind = .background ∨
      kind = .transmit ∧ event.kind = .returned

theorem Observes.deed {kind : StepKind} {before after : World cfg}
    (observes : Observes kind before after) : DeedObserves kind before after := by
  obtain ⟨events, history, kinds⟩ := observes
  exact ⟨events, history, fun event member => (kinds event member).imp id .inl⟩

/-- A call that sends returns. -/
theorem Observes.returned {before after : World cfg} (observes : Observes .transmit before after)
    {call : ApiCall cfg} (sends : call.isLocal = false) (result : ApiResult) :
    DeedObserves .transmit before (after.emit (.returned call result)) := by
  obtain ⟨events, history, kinds⟩ := observes
  refine ⟨.returned call result :: events, by rw [World.emit_history, history]; rfl, ?_⟩
  intro event member
  rcases List.mem_cons.mp member with rfl | sent
  · exact .inr (.inr ⟨rfl, by simp [Event.kind, sends]⟩)
  · exact (kinds event sent).imp id .inl

theorem Deed.observes {kind : StepKind} {before after : World cfg}
    (deed : Deed env kind before after) : DeedObserves kind before after := by
  cases deed with
  | drop => exact (World.increment_core _ _ before).history.deed
  | validate source data => exact (World.validate_observes source data before).deed
  | enterHandler | returned => exact (World.emit_observes _ before).deed
  | reply => exact (World.sendReply_observes ..).deed
  | finish => exact (World.finish_observes ..).deed
  | callback occasion => cases occasion <;> exact (World.emit_observes _ before).deed
  | submit => exact (World.submit_observes ..).deed
  | fireAndForget serviceId methodId payload =>
      exact (World.fireAndForget_steps serviceId methodId payload before).observes.returned rfl _
  | notifyEvent serviceId eventId payload =>
      exact (World.notifyEvent_steps serviceId eventId payload before).observes.returned rfl _
  | perform isLocal => exact (Atomic.perform isLocal before).observes.deed
  | resetPeer addr => exact (@Atomic.resetPeer _ _ env addr before).observes.deed
  | answerFind =>
      exact (Observes.foldl (fun w message =>
        (World.sendSdUnicast_core _ message w).history) _ _).deed
  | subscribeRequest =>
      exact ((World.handleSubscribeRequest_core ..).history.ofBackground _).deed
  | broadcastOffers nowMs =>
      have sent : Observes .background before (before.broadcastOffers env nowMs) :=
        Observes.foldl (fun w message => (World.sendSdBroadcast_core message w).history) _ _
      exact (sent.ofBackground _).deed
  | renewSubscriptions nowMs =>
      have each : ∀ (w : World cfg) (send : Address n × SdMessage n),
          Observes .background w (w.sendSdUnicast env send.1 send.2) :=
        fun w send => (World.sendSdUnicast_core send.1 send.2 w).history
      have sent : Observes .background (before.markRenewals nowMs)
          (before.renewSubscriptions env nowMs) := by
        rw [World.renewSubscriptions]
        exact .foldl each _ _
      exact ((@Atomic.markRenewals _ _ env nowMs before).observes.trans
        (sent.ofBackground _)).deed
  | sendFind => exact (World.sendSdBroadcast_core _ before).history.deed
  | _ => exact (Observes.none _ rfl).deed

/-- An event of another kind was there before, with the same past. -/
theorem Deed.earlier {kind : StepKind} {before after : World cfg}
    (deed : Deed env kind before after) {event : Event cfg} {past : History cfg}
    (occurs : (event :: past) <:+ after.history) (other : event.kind ≠ kind)
    (notQuiet : event.kind ≠ .background) (notReturned : event.kind ≠ .returned) :
    (event :: past) <:+ before.history := by
  obtain ⟨events, history, kinds⟩ := deed.observes
  rw [history] at occurs
  refine Runs.suffix_of_notMem occurs fun new => ?_
  rcases kinds event new with own | quiet | ⟨-, returned⟩
  · exact other own
  · exact notQuiet quiet
  · exact notReturned returned

theorem Deed.suffix {kind : StepKind} {before after : World cfg}
    (deed : Deed env kind before after) : before.history <:+ after.history :=
  Steps.suffix deed.steps

/-- The tables, and what requests are answered with, are as before. -/
structure SameTables (before after : World cfg) : Prop where
  localAddr : after.rt.localAddr = before.rt.localAddr
  authenticator : after.rt.authenticator = before.rt.authenticator
  dispatcher : after.rt.dispatcher = before.rt.dispatcher
  eventManager : after.rt.eventManager = before.rt.eventManager
  eventHandlers : after.rt.eventHandlers = before.rt.eventHandlers
  sd : after.rt.sd = before.rt.sd

namespace SameTables

theorem refl (w : World cfg) : SameTables w w :=
  ⟨rfl, rfl, rfl, rfl, rfl, rfl⟩

theorem trans {first second third : World cfg} (left : SameTables first second)
    (right : SameTables second third) : SameTables first third :=
  ⟨right.localAddr.trans left.localAddr, right.authenticator.trans left.authenticator,
    right.dispatcher.trans left.dispatcher, right.eventManager.trans left.eventManager,
    right.eventHandlers.trans left.eventHandlers, right.sd.trans left.sd⟩

theorem emit {before after : World cfg} (same : SameTables before after) (event : Event cfg) :
    SameTables before (after.emit event) :=
  same.trans ⟨rfl, rfl, rfl, rfl, rfl, rfl⟩

theorem foldl {α : Type} {body : World cfg → α → World cfg}
    (each : ∀ w item, SameTables w (body w item)) (items : List α) (w : World cfg) :
    SameTables w (items.foldl body w) := by
  induction items generalizing w with
  | nil => exact refl w
  | cons item rest ih => exact (each w item).trans (ih _)

end SameTables

namespace World

theorem increment_tables (counter : DiagnosticCounter) (header : Option Bytes) (w : World cfg) :
    SameTables w (w.increment counter header) := by
  have written := increment_rt counter header w
  constructor <;> rw [written]

theorem countRefusal_tables (ok : Bool) (w : World cfg) : SameTables w (w.countRefusal ok) := by
  cases ok with
  | true => exact .refl w
  | false => exact increment_tables _ _ w

theorem sendSdBroadcast_tables (message : SdMessage n) (w : World cfg) :
    SameTables w (w.sendSdBroadcast env message) := by
  rw [sendSdBroadcast]
  split
  · exact .refl w
  · refine SameTables.trans ?_ (countRefusal_tables _ _)
    exact ⟨rfl, rfl, rfl, rfl, rfl, rfl⟩

theorem sendSdUnicast_tables (dest : Address n) (message : SdMessage n) (w : World cfg) :
    SameTables w (w.sendSdUnicast env dest message) := by
  rw [sendSdUnicast]
  split
  · exact .refl w
  · refine SameTables.trans ?_ (countRefusal_tables _ _)
    exact ⟨rfl, rfl, rfl, rfl, rfl, rfl⟩

theorem sendReply_tables (source : Address n) (hdr : MessageHeader) (payload : Bytes)
    (rc : ReturnCode) (responseLength : Nat) (w : World cfg) :
    SameTables w (w.sendReply env source hdr payload rc responseLength) := by
  obtain ⟨after, ok, equal, rt, -⟩ := sendReply_spec env source hdr payload rc responseLength w
  rw [equal]
  refine SameTables.trans ?_ (countRefusal_tables ok after)
  constructor <;> rw [rt]

theorem finish_tables (slot : Fin cfg.maxPendingRequests) (cause : Cause) (rc : ReturnCode)
    (payload : Bytes) (w : World cfg) :
    SameTables w (RequestTracker.finish trackerLens (invokeRequest cause id) slot rc payload
      w) := by
  rw [RequestTracker.finish]
  cases ((trackerLens.get w).entries slot).callback <;> exact ⟨rfl, rfl, rfl, rfl, rfl, rfl⟩

end World

theorem SendSteps.tables {before after : World cfg} (steps : SendSteps env before after) :
    SameTables before after := by
  induction steps with
  | refl => exact .refl _
  | tail _ step ih =>
      refine ih.trans ?_
      cases step with
      | count counter header => exact World.increment_tables counter header _
      | transmit step => cases step; exact ⟨rfl, rfl, rfl, rfl, rfl, rfl⟩

/-- Does a deed of this kind write a table? -/
def StepKind.writes : StepKind → Bool
  | perform | sdWrite | markRenewals => true
  | _ => false

theorem Deed.tables {kind : StepKind} {before after : World cfg}
    (deed : Deed env kind before after) (quiet : kind.writes = false) :
    SameTables before after := by
  cases deed with
  | drop => exact World.increment_tables _ _ before
  | validate source data =>
      obtain ⟨diag, rt, -⟩ := World.validate_rt source data before
      constructor <;> rw [rt]
  | reply => exact World.sendReply_tables ..
  | finish => exact World.finish_tables ..
  | submit target serviceId methodId payload hasCallback timeoutMs nowMs fresh =>
      unfold World.submit
      split <;> exact ⟨rfl, rfl, rfl, rfl, rfl, rfl⟩
  | fireAndForget serviceId methodId payload =>
      exact (World.fireAndForget_steps serviceId methodId payload before).tables.emit _
  | notifyEvent serviceId eventId payload =>
      exact (World.notifyEvent_steps serviceId eventId payload before).tables.emit _
  | answerFind =>
      exact SameTables.foldl (fun w message => World.sendSdUnicast_tables _ message w) _ _
  | sendFind => exact World.sendSdBroadcast_tables _ before
  | perform | recordOffer | markFound | flagResubscribe | recordAck | expireConsumer
  | giveUpFind | scheduleRetry | subscribeRequest | unsubscribeRequest | evictSubscribers
  | broadcastOffers | renewSubscriptions => cases quiet
  | _ => exact ⟨rfl, rfl, rfl, rfl, rfl, rfl⟩

end Sero
