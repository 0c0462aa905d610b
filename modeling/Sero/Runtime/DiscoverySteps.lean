import Sero.Runtime.Decomposition

/-!
# Discovery, step by step

What receiving a datagram and the rest of a cycle do to discovery, as steps that say
under which guard each is taken and which message it answers.  The two passes that send
what they have decided beforehand, offers and renewals, stand between such steps.
-/

namespace Sero

open Library ServiceDiscovery

variable {n : Nat} {cfg : Config n}

/-- A discovery message as its receiver decodes it. -/
inductive SdRequest (n : Nat) where
  | offer (offer : SdPayload.Offer n)
  | find (source : Address n) (serviceId : UInt16)
  | subscribe (source : Address n) (hdr : MessageHeader) (request : SdPayload.Subscribe)
  | ack (result : ReturnCode) (granted : SdPayload.Subscribe)
  | unsubscribe (clientId : UInt16) (request : SdPayload.Subscribe)

namespace SdRequest

def decode (source : Address n) (hdr : MessageHeader) (payload : Bytes) :
    Option (SdRequest n) :=
  match SdMethod.ofId hdr.methodEventId with
  | some .offerService => (SdPayload.deserializeOffer payload).map offer
  | some .findService => (SdPayload.deserializeFind payload).map (find source)
  | some .subscribeEvent => (SdPayload.deserializeSubscribe payload).map (subscribe source hdr)
  | some .subscribeAck => (SdPayload.deserializeSubscribe payload).map (ack ⟨hdr.returnCode⟩)
  | some .unsubscribe =>
      (SdPayload.deserializeSubscribe payload).map (unsubscribe hdr.clientId)
  | none => none

def handle (env : Env cfg) (nowMs : UInt32) (w : World cfg) : SdRequest n → World cfg
  | offer offered => w.handleOffer env offered nowMs
  | find source serviceId => w.handleFind env source serviceId
  | subscribe source hdr request => w.handleSubscribeRequest env source hdr request nowMs
  | ack result granted =>
      handleSubscribeAck World.sdLens (World.sdHooks env) granted.serviceId granted.eventId
        result granted.ttlSeconds w
  | unsubscribe clientId request =>
      { w with rt := { w.rt with
        eventManager := w.rt.eventManager.unsubscribe request.serviceId request.eventId
          clientId } }

end SdRequest

/-- What a datagram asks of discovery, if its frame is valid. -/
def heard (cfg : Config n) (source : Address n) (data : Bytes) : Option (SdRequest n) :=
  match checkFrame cfg data with
  | .error _ => none
  | .ok hdr =>
      if hdr.serviceId = sdServiceId then SdRequest.decode source hdr (payloadOf hdr data)
      else none

variable {env : Env cfg}

theorem World.handleSdMessage_eq (source : Address n) (hdr : MessageHeader) (payload : Bytes)
    (nowMs : UInt32) (w : World cfg) :
    w.handleSdMessage env source hdr payload nowMs =
      match SdRequest.decode source hdr payload with
      | none => w
      | some request => request.handle env nowMs w := by
  rw [handleSdMessage, SdRequest.decode]
  cases SdMethod.ofId hdr.methodEventId with
  | none => rfl
  | some method =>
      cases method with
      | offerService =>
          dsimp only
          cases SdPayload.deserializeOffer payload <;> rfl
      | findService =>
          dsimp only
          cases SdPayload.deserializeFind payload <;> rfl
      | _ =>
          dsimp only
          cases SdPayload.deserializeSubscribe payload <;> rfl

/-! ## Steps -/

/-- One step of discovery at a time of the local clock, in answer to what was heard. -/
inductive DiscoveryStep (env : Env cfg) (nowMs : UInt32) (asked : Option (SdRequest n)) :
    World cfg → World cfg → Prop where
  | plain {before after : World cfg} (step : PlainStep env before after) :
      DiscoveryStep env nowMs asked before after
  | startCycle (w : World cfg) : DiscoveryStep env nowMs asked w (w.startCycle nowMs)
  | evictSubscribers (w : World cfg) :
      DiscoveryStep env nowMs asked w (w.evictSubscribers nowMs)
  | sendFind (serviceId : UInt16) (w : World cfg) :
      DiscoveryStep env nowMs asked w (w.sendSdBroadcast env (.find serviceId))
  | answerFind {source : Address n} {serviceId : UInt16} {message : SdMessage n}
      {w : World cfg} (finds : asked = some (.find source serviceId))
      (offered : message ∈ w.rt.sd.handleFind serviceId) :
      DiscoveryStep env nowMs asked w (w.sendSdUnicast env source message)
  | subscribeRequest {source : Address n} {hdr : MessageHeader}
      {request : SdPayload.Subscribe} (subscribes : asked = some (.subscribe source hdr request))
      (w : World cfg) :
      DiscoveryStep env nowMs asked w (w.handleSubscribeRequest env source hdr request nowMs)
  | unsubscribeRequest {clientId : UInt16} {request : SdPayload.Subscribe}
      (unsubscribes : asked = some (.unsubscribe clientId request)) (w : World cfg) :
      DiscoveryStep env nowMs asked w { w with rt := { w.rt with
        eventManager := w.rt.eventManager.unsubscribe request.serviceId request.eventId
          clientId } }
  | recordOffer {offer : SdPayload.Offer n} (offers : asked = some (.offer offer))
      (w : World cfg) :
      DiscoveryStep env nowMs asked w (World.sdLens.modify (fun sd =>
        sd.recordOffer offer.serviceId offer.ttlSeconds offer.sessionId offer.providerAddr
          nowMs) w)
  | markFound {offer : SdPayload.Offer n} (offers : asked = some (.offer offer))
      (w : World cfg) :
      DiscoveryStep env nowMs asked w
        (World.sdLens.modify (fun sd => sd.markFound offer.serviceId) w)
  | flagResubscribe {offer : SdPayload.Offer n} (offers : asked = some (.offer offer))
      (w : World cfg) :
      DiscoveryStep env nowMs asked w
        (World.sdLens.modify (fun sd => sd.flagResubscribe offer.serviceId nowMs) w)
  | recordAck {result : ReturnCode} {granted : SdPayload.Subscribe}
      (acks : asked = some (.ack result granted)) (w : World cfg) :
      DiscoveryStep env nowMs asked w (World.sdLens.modify (fun sd =>
        sd.recordAck granted.serviceId granted.eventId result granted.ttlSeconds) w)
  | expireConsumer {index : Nat} {entry : ConsumerEntry n} {w : World cfg}
      (here : w.rt.sd.consumers[index]? = some entry) (found : entry.state = .found)
      (expired : timeAfter nowMs entry.ttlExpiryMs = true) :
      DiscoveryStep env nowMs asked w
        (World.sdLens.modify (fun sd => sd.expireConsumer index) w)
  | giveUpFind {index : Nat} {entry : ConsumerEntry n} {w : World cfg}
      (here : w.rt.sd.consumers[index]? = some entry) (searching : entry.state = .searching)
      (retryCount : UInt8) :
      DiscoveryStep env nowMs asked w
        (World.sdLens.modify (fun sd => sd.giveUpFind index retryCount) w)
  | scheduleRetry {index : Nat} {entry : ConsumerEntry n} {w : World cfg}
      (here : w.rt.sd.consumers[index]? = some entry) (searching : entry.state = .searching)
      (retryCount : UInt8) :
      DiscoveryStep env nowMs asked w
        (World.sdLens.modify (fun sd => sd.scheduleRetry index retryCount nowMs) w)

/-- Any number of them. -/
abbrev DiscoverySteps (env : Env cfg) (nowMs : UInt32) (asked : Option (SdRequest n)) :
    World cfg → World cfg → Prop :=
  Relation.ReflTransGen (DiscoveryStep env nowMs asked)

variable {nowMs : UInt32} {asked : Option (SdRequest n)}

theorem PlainSteps.discoverySteps {before after : World cfg}
    (steps : PlainSteps env before after) : DiscoverySteps env nowMs asked before after :=
  steps.lift id fun _ _ step => .plain step

/-- Discovery steps are steps. -/
theorem DiscoveryStep.steps {before after : World cfg}
    (step : DiscoveryStep env nowMs asked before after) : Steps env before after := by
  cases step with
  | plain step => exact PlainSteps.steps (.single step)
  | startCycle => exact (Background.startCycle nowMs before).steps
  | evictSubscribers => exact (Background.evictSubscribers nowMs before).steps
  | sendFind serviceId => exact (Background.sdBroadcast _ before).steps
  | answerFind => exact (Background.sdUnicast _ _ before).steps
  | subscribeRequest => exact (Background.subscribeRequest _ _ _ nowMs before).steps
  | unsubscribeRequest => exact (Background.unsubscribeRequest _ _ before).steps
  | recordOffer => exact World.sdWrite_steps (fun _ => .recordOffer _ _ _ _ _) before
  | markFound => exact World.sdWrite_steps (fun _ => .markFound _) before
  | flagResubscribe => exact World.sdWrite_steps (fun _ => .flagResubscribe _ _) before
  | recordAck => exact World.sdWrite_steps (fun _ => .recordAck _ _ _ _) before
  | expireConsumer => exact World.sdWrite_steps (fun _ => .expireConsumer _) before
  | giveUpFind => exact World.sdWrite_steps (fun _ => .giveUpFind _ _) before
  | scheduleRetry => exact World.sdWrite_steps (fun _ => .scheduleRetry _ _ _) before

theorem DiscoverySteps.steps {before after : World cfg}
    (steps : DiscoverySteps env nowMs asked before after) : Steps env before after := by
  induction steps with
  | refl => exact .refl
  | tail _ step ih => exact ih.trans step.steps

/-! ## Receiving and the rest of a cycle -/

namespace World

theorem sdHandleOffer_discoverySteps {offer : SdPayload.Offer n}
    (offers : asked = some (.offer offer)) (w : World cfg) :
    DiscoverySteps env nowMs asked w (ServiceDiscovery.handleOffer sdLens (sdHooks env)
      offer.serviceId offer.majorVersion offer.ttlSeconds offer.sessionId
      offer.providerAddr nowMs w) := by
  have recorded : ∀ w : World cfg, DiscoverySteps env nowMs asked w (sdLens.modify (fun sd =>
      sd.recordOffer offer.serviceId offer.ttlSeconds offer.sessionId offer.providerAddr
        nowMs) w) := fun w => .single (.recordOffer offers w)
  have found : ∀ w : World cfg, DiscoverySteps env nowMs asked w
      (sdLens.modify (fun sd => sd.markFound offer.serviceId) w) :=
    fun w => .single (.markFound offers w)
  have flagged : ∀ w : World cfg, DiscoverySteps env nowMs asked w
      (sdLens.modify (fun sd => sd.flagResubscribe offer.serviceId nowMs) w) :=
    fun w => .single (.flagResubscribe offers w)
  have lost : ∀ w : World cfg, DiscoverySteps env nowMs asked w
      (callServiceLost sdLens (sdHooks env) offer.serviceId w) :=
    fun w => (callServiceLost_steps offer.serviceId w).discoverySteps
  have told : ∀ w : World cfg, DiscoverySteps env nowMs asked w
      (callServiceFound sdLens (sdHooks env) offer.serviceId offer.providerAddr w) :=
    fun w => (callServiceFound_steps offer.serviceId offer.providerAddr w).discoverySteps
  unfold ServiceDiscovery.handleOffer
  split
  · exact .refl
  · split
    · exact .refl
    · split
      · exact .refl
      · refine (recorded w).trans ?_
        dsimp only
        split
        · exact (lost _).trans ((found _).trans ((told _).trans (flagged _)))
        · split
          · exact (found _).trans ((flagged _).trans (told _))
          · split
            · exact (flagged _).trans (told _)
            · exact .refl

theorem resetPeer_discoverySteps (addr : Address n) (w : World cfg) :
    DiscoverySteps env nowMs asked w (w.resetPeer addr) :=
  ((Atomic.resetPeer addr w).plainSteps rfl).discoverySteps

/-- A loop over what was found at its start, as long as its turns leave it standing. -/
theorem answerFind_discoverySteps {source : Address n} {serviceId : UInt16}
    (finds : asked = some (.find source serviceId)) (messages : List (SdMessage n))
    (w : World cfg) (offered : ∀ message ∈ messages, message ∈ w.rt.sd.handleFind serviceId) :
    DiscoverySteps env nowMs asked w
      (messages.foldl (fun w message => w.sendSdUnicast env source message) w) := by
  induction messages generalizing w with
  | nil => exact .refl
  | cons message rest ih =>
      have sent : DiscoveryStep env nowMs asked w (w.sendSdUnicast env source message) :=
        .answerFind finds (offered message (.head _))
      have same := (@sendSdUnicast_core _ _ env source message w).sd
      refine Relation.ReflTransGen.head sent (ih _ fun other member => ?_)
      rw [same]
      exact offered other (.tail _ member)

theorem handle_discoverySteps (request : SdRequest n) (w : World cfg) :
    DiscoverySteps env nowMs (some request) w (request.handle env nowMs w) := by
  cases request with
  | offer offer =>
      rw [SdRequest.handle, World.handleOffer]
      refine Relation.ReflTransGen.trans ?_ (sdHandleOffer_discoverySteps rfl _)
      split
      · exact resetPeer_discoverySteps offer.providerAddr w
      · exact .refl
  | find source serviceId =>
      have same : (w.resetPeer source).rt.sd = w.rt.sd := rfl
      refine (resetPeer_discoverySteps source w).trans ?_
      apply answerFind_discoverySteps rfl
      exact fun message member => member
  | subscribe source hdr request => exact .single (.subscribeRequest rfl w)
  | ack result granted =>
      refine Relation.ReflTransGen.head (.recordAck rfl w) ?_
      rw [SdRequest.handle, handleSubscribeAck]
      split
      · exact (callback_steps (by simp) _).discoverySteps
      · exact .refl
  | unsubscribe clientId request => exact .single (.unsubscribeRequest rfl w)

/-- Receiving a datagram, with what it asks of discovery. -/
theorem receive_discoverySteps (source : Address n) (data : Bytes) (w : World cfg) :
    DiscoverySteps env nowMs (heard cfg source data) w
      (w.validateAndDispatch env source data nowMs) := by
  have validated : PlainSteps env w (w.validate source data).2 :=
    (Atomic.validate source data w).plainSteps rfl
  rw [validateAndDispatch]
  rcases outcome : w.validate source data with ⟨passed, after⟩
  rw [outcome] at validated
  cases passed with
  | none => exact validated.discoverySteps
  | some hdr =>
      have accepted := validate_accepted outcome
      refine validated.discoverySteps.trans ?_
      by_cases sd : hdr.serviceId = sdServiceId
      · have hears : heard cfg source data =
            SdRequest.decode source hdr (payloadOf hdr data) := by
          rw [heard, accepted.checked]
          exact if_pos sd
        simp only [dispatchMessage, if_pos sd, handleSdMessage_eq, hears]
        cases SdRequest.decode source hdr (payloadOf hdr data) with
        | none => exact .refl
        | some request => exact handle_discoverySteps request after
      · exact (plainWalk_plainSteps.dispatchMessage accepted sd nowMs).discoverySteps

theorem processFind_discoverySteps (w : World cfg) (index : Nat) :
    DiscoverySteps env nowMs asked w (processFind sdLens (sdHooks env) nowMs w index) := by
  rw [processFind]
  split
  · exact .refl
  · next entry here =>
      split
      · next due =>
          have sent : DiscoveryStep env nowMs asked w
              ((sdHooks env).broadcast (.find entry.serviceId) w) := .sendFind entry.serviceId w
          have still : ((sdHooks env).broadcast (.find entry.serviceId) w).rt.sd.consumers[index]? =
              some entry := by
            have same := (@sendSdBroadcast_core _ _ env (.find entry.serviceId) w).sd
            exact (congrArg (fun sd : ServiceDiscovery cfg => sd.consumers[index]?) same).trans here
          refine Relation.ReflTransGen.head sent ?_
          dsimp only
          split
          · exact Relation.ReflTransGen.head (.giveUpFind still due.1 _)
              (callServiceLost_steps _ _).discoverySteps
          · exact .single (.scheduleRetry still due.1 _)
      · exact .refl

theorem processConsumerTtl_discoverySteps (w : World cfg) (index : Nat) :
    DiscoverySteps env nowMs asked w
      (processConsumerTtl sdLens (sdHooks env) nowMs w index) := by
  rw [processConsumerTtl]
  split
  · exact .refl
  · next entry here =>
      split
      · next due =>
          refine Relation.ReflTransGen.head (.expireConsumer here due.1 due.2) ?_
          exact (resetPeer_discoverySteps _ _).trans (callServiceLost_steps _ _).discoverySteps
      · exact .refl

/-- What a cycle does once it has received, up to the offers. -/
def timeOut (env : Env cfg) (nowMs : UInt32) (w : World cfg) : World cfg :=
  (w.evictRequests env nowMs).evictSubscribers nowMs

/-- The two passes that send what discovery has decided. -/
def announce (env : Env cfg) (nowMs : UInt32) (w : World cfg) : World cfg :=
  (w.broadcastOffers env nowMs).renewSubscriptions env nowMs

theorem foldl_sd {α : Type} {body : World cfg → α → World cfg}
    (each : ∀ w item, (body w item).rt.sd = w.rt.sd) (items : List α) (w : World cfg) :
    (items.foldl body w).rt.sd = w.rt.sd := by
  induction items generalizing w with
  | nil => rfl
  | cons item rest ih => exact (ih _).trans (each w item)

/-- Sending offers leaves discovery as the pass has decided. -/
theorem broadcastOffers_sd (w : World cfg) :
    (w.broadcastOffers env nowMs).rt.sd = (w.rt.sd.processOffers nowMs).2 := by
  have each : ∀ (w : World cfg) (message : SdMessage n),
      (w.sendSdBroadcast env message).rt.sd = w.rt.sd :=
    fun w message => (sendSdBroadcast_core message w).sd
  rw [broadcastOffers]
  exact foldl_sd each _ _

theorem renewSubscriptions_sd (w : World cfg) :
    (w.renewSubscriptions env nowMs).rt.sd = (w.rt.sd.processSubscriptionRenewals nowMs).2 := by
  have each : ∀ (w : World cfg) (send : Address n × SdMessage n),
      (w.sendSdUnicast env send.1 send.2).rt.sd = w.rt.sd :=
    fun w send => (sendSdUnicast_core send.1 send.2 w).sd
  have marked : (w.markRenewals nowMs).rt.sd = (w.rt.sd.processSubscriptionRenewals nowMs).2 :=
    rfl
  rw [renewSubscriptions, foldl_sd each, marked]

theorem announce_steps (w : World cfg) : Steps env w (w.announce env nowMs) :=
  ((sdWrite_steps (fun _ => .processOffers nowMs) w).trans
    (Runs.foldl (fun _ _ => (Background.sdBroadcast _ _).steps) _ _)).trans
  ((Atomic.markRenewals nowMs _).steps.trans
    (Runs.foldl (fun _ _ => (Background.sdUnicast _ _ _).steps) _ _))

theorem timeOut_discoverySteps (w : World cfg) :
    DiscoverySteps env nowMs asked w (w.timeOut env nowMs) :=
  (evictRequests_steps nowMs w).plainSteps.discoverySteps.tail (.evictSubscribers _)

/-- What it does after them. -/
theorem housekeeping_discoverySteps (w : World cfg) :
    DiscoverySteps env nowMs asked ((w.timeOut env nowMs).announce env nowMs)
      (w.housekeeping env nowMs) :=
  (Runs.foldl processConsumerTtl_discoverySteps _ _).trans
    (Runs.foldl processFind_discoverySteps _ _)

theorem perform_discoverySteps (call : ApiCall cfg) (w : World cfg) :
    DiscoverySteps env nowMs asked w (w.perform env (react env) call) :=
  (perform_steps react_steps call w).plainSteps.discoverySteps

end World

end Sero
