import Sero.Properties.SubscriptionFrames

/-!
# Keeping a subscriber

A subscriber stays in its provider's table, with the lease it has, as long as no eviction
comes after the end of the lease and no message of its own client concerns the event.
An acknowledgement grants exactly the lease that was installed.
-/

namespace Sero

open Library ServiceDiscovery

variable {n : Nat} {cfg : Config n} {env : Env cfg}

/-! ## Granting -/

/-- What a provider does about a subscription: it answers with what it has installed. -/
structure AnswersSubscription (cfg : Config n) (source : Address n) (clientId : UInt16)
    (request : SdPayload.Subscribe) (nowMs : UInt32) (before after : World cfg) : Prop where
  answer : ∃ result granted frame, after.traffic = (some source, frame) :: before.traffic ∧
    ackIn frame = some (result, ⟨request.serviceId, request.eventId, granted⟩) ∧
    (result = .eOk →
      granted = (if request.ttlSeconds = 0 then cfg.subscriptionTtlSeconds
        else request.ttlSeconds) ∧
      after.rt.eventManager.subscriber request.serviceId request.eventId clientId =
        some ⟨clientId, source, nowMs + 1000 * granted.toUInt32⟩) ∧
    (result ≠ .eOk → granted = 0 ∧ after.rt.eventManager = before.rt.eventManager)

theorem grantedTtl_eq (ttlSeconds : UInt16) :
    EventManager.grantedTtl cfg ttlSeconds =
      if ttlSeconds = 0 then cfg.subscriptionTtlSeconds else ttlSeconds := by
  have positive : ttlSeconds > 0 ↔ ttlSeconds ≠ 0 := by
    rw [gt_iff_lt, UInt16.lt_iff_toNat_lt, Ne, ← UInt16.toNat_inj]
    exact Nat.pos_iff_ne_zero
  rw [EventManager.grantedTtl]
  by_cases zero : ttlSeconds = 0
  · rw [if_pos zero, if_neg (by simp [zero])]
  · rw [if_neg zero, if_pos (positive.mpr zero)]

namespace World

theorem increment_eventManager (counter : DiagnosticCounter) (header : Option Bytes)
    (w : World cfg) : (w.increment counter header).rt.eventManager = w.rt.eventManager := by
  rw [increment]
  split <;> rfl

theorem countRefusal_eventManager (ok : Bool) (w : World cfg) :
    (w.countRefusal ok).rt.eventManager = w.rt.eventManager := by
  cases ok with
  | true => rfl
  | false => exact increment_eventManager _ _ _

variable {source : Address n} {hdr : MessageHeader} {request : SdPayload.Subscribe}
variable {nowMs : UInt32} {w : World cfg}

/-- The provider's table after a request to subscribe. -/
theorem handleSubscribeRequest_eventManager :
    (w.handleSubscribeRequest env source hdr request nowMs).rt.eventManager =
      (w.rt.eventManager.subscribe request.serviceId request.eventId hdr.clientId source
        request.ttlSeconds nowMs).2 :=
  countRefusal_eventManager _ _

theorem handleSubscribeRequest_answers :
    AnswersSubscription cfg source hdr.clientId request nowMs w
      (w.handleSubscribeRequest env source hdr request nowMs) := by
  refine ⟨_, _, _, handleSubscribeRequest_traffic, ackIn_ackFrame, ?_, ?_⟩
  · intro isOk
    rw [handleSubscribeRequest_eventManager, EventManager.subscribe_accepted isOk, if_pos isOk,
      EventManager.accepted, UInt32.mul_comm]
    exact ⟨grantedTtl_eq request.ttlSeconds, rfl⟩
  · intro refused
    rw [handleSubscribeRequest_eventManager, if_neg refused]
    exact ⟨rfl, EventManager.subscribe_refused refused⟩

end World

/-- A request that arrives is answered with what has been installed, and nothing else is
sent. -/
theorem World.receive_subscribe {source : Address n} {data : Bytes} {hdr : MessageHeader}
    {request : SdPayload.Subscribe} {nowMs : UInt32}
    (hears : heard cfg source data = some (.subscribe source hdr request))
    (unsigned : (MessageHeader.deserialize data).hasAuth = false) (w : World cfg) :
    let after := w.validateAndDispatch env source data nowMs
    let answer := w.rt.eventManager.subscribe request.serviceId request.eventId hdr.clientId
      source request.ttlSeconds nowMs
    let granted :=
      if answer.1 = .eOk then EventManager.grantedTtl cfg request.ttlSeconds else 0
    let ack := ackFrame w.rt answer.1 request.serviceId request.eventId granted
    after.rt.eventManager = answer.2 ∧
      (after.since w).filterMap Event.sdFrame = [(some source, ack.1.bytes.take ack.2)] := by
  intro after answer granted ack
  have handled : after =
      (w.arrived source data).handleSubscribeRequest env source hdr request nowMs :=
    receive_heard hears unsigned nowMs w
  have traffic : after.traffic = [(some source, ack.1.bytes.take ack.2)] ++ w.traffic := by
    rw [handled]
    exact handleSubscribeRequest_traffic
  obtain ⟨events, history⟩ :=
    Steps.suffix ((@walk_steps _ _ env).validateAndDispatch source data nowMs w)
  constructor
  · rw [handled]
    exact handleSubscribeRequest_eventManager
  · rw [World.since_eq history.symm]
    exact List.append_cancel_right ((traffic_append history.symm).symm.trans traffic)

/-! ## Keeping -/

/-- What a stretch of a run does to a subscriber whose client is silent about the event. -/
structure KeepsSubscriber (serviceId eventId clientId : UInt16) (nowMs : UInt32)
    (before after : EventManager cfg) : Prop where
  distinct : before.DistinctSubscribers → after.DistinctSubscribers
  kept : before.DistinctSubscribers → ∀ subscriber,
    before.subscriber serviceId eventId clientId = some subscriber →
    timeAfter nowMs subscriber.expiryMs = false →
    after.subscriber serviceId eventId clientId = some subscriber

namespace KeepsSubscriber

variable {serviceId eventId clientId : UInt16} {nowMs : UInt32}
variable {first second third : EventManager cfg}

theorem of_eq (same : second = first) :
    KeepsSubscriber serviceId eventId clientId nowMs first second := by
  subst same
  exact ⟨id, fun _ _ subscribed _ => subscribed⟩

theorem trans (left : KeepsSubscriber serviceId eventId clientId nowMs first second)
    (right : KeepsSubscriber serviceId eventId clientId nowMs second third) :
    KeepsSubscriber serviceId eventId clientId nowMs first third where
  distinct := right.distinct ∘ left.distinct
  kept distinct subscriber subscribed unexpired :=
    right.kept (left.distinct distinct) subscriber
      (left.kept distinct subscriber subscribed unexpired) unexpired

theorem registerEvent (otherService otherEvent : UInt16) :
    KeepsSubscriber serviceId eventId clientId nowMs first
      (first.registerEvent otherService otherEvent).2 where
  distinct distinct := distinct.registerEvent _ _
  kept _ _ subscribed _ := EventManager.subscriber_registerEvent subscribed _ _

end KeepsSubscriber

/-- Is it a client's request about an event? -/
def SdRequest.concerns (serviceId eventId clientId : UInt16) : SdRequest n → Bool
  | .subscribe _ hdr request =>
      hdr.clientId == clientId && request.serviceId == serviceId && request.eventId == eventId
  | .unsubscribe client request =>
      client == clientId && request.serviceId == serviceId && request.eventId == eventId
  | _ => false

variable {serviceId eventId clientId : UInt16} {nowMs : UInt32} {asked : Option (SdRequest n)}

/-- Local calls register events at most. -/
theorem World.apiCall_keepsSubscriber (body : World cfg → World cfg) {call : ApiCall cfg}
    (isLocal : call.isLocal = true) (w : World cfg) :
    KeepsSubscriber serviceId eventId clientId nowMs w.rt.eventManager
      (w.apiCall env body call).2.rt.eventManager := by
  cases call with
  | request | fireAndForget | notifyEvent => cases isLocal
  | registerEvent service event => exact .registerEvent service event
  | offerService service ttl now =>
      obtain ⟨sd, written, -⟩ := w.offerService_rt service ttl now
      have same : (w.offerService service ttl now).2.rt.eventManager = w.rt.eventManager := by
        rw [written]
      exact .of_eq same
  | subscribeEvent service event context ttl now =>
      have same : (w.subscribeEvent service event context ttl now).2.rt.eventManager =
          w.rt.eventManager := by
        rw [subscribeEvent, registerEventHandler]
        cases Table.upsert (handlesEvent service event)
            (fun _ => { serviceId := service, eventId := event, context })
            { serviceId := service, eventId := event, context }
            (cfg.maxKnownServices * cfg.maxEvents) w.rt.eventHandlers <;> rfl
      exact .of_eq same
  | enableDiagnostics now auth =>
      obtain ⟨_, _, _, _, written, -⟩ := w.enableDiagnostics_rt now auth
      have same : (w.enableDiagnostics now auth).2.rt.eventManager = w.rt.eventManager := by
        rw [written]
      exact .of_eq same
  | reportDtc code severity now =>
      have same : (w.reportDtc code severity now).2.rt.eventManager = w.rt.eventManager := by
        rw [reportDtc]
        split
        · rfl
        · exact countRefusal_eventManager _ _
      exact .of_eq same
  | _ => exact .of_eq rfl

theorem World.checkSequence_eventManager (source : Address n) (data : Bytes)
    (hdr : MessageHeader) (w : World cfg) :
    (w.checkSequence source data hdr).2.rt.eventManager = w.rt.eventManager := by
  rw [checkSequence]
  split
  · rfl
  · have recorded : (w.sequenceVerdict source data hdr.sequenceCounter).2.rt.eventManager =
        w.rt.eventManager := rfl
    rcases verdict : w.sequenceVerdict source data hdr.sequenceCounter with ⟨result, after⟩
    rw [verdict] at recorded
    cases result with
    | accept | firstSeen => exact recorded
    | duplicate | stale | tableFull => exact (increment_eventManager _ _ _).trans recorded

theorem World.validate_eventManager (source : Address n) (data : Bytes) (w : World cfg) :
    (w.validate source data).2.rt.eventManager = w.rt.eventManager := by
  rw [validate]
  cases checkFrame cfg data with
  | error failure => exact increment_eventManager _ _ _
  | ok hdr =>
      have checked : _ = w.rt.eventManager :=
        checkSequence_eventManager source data hdr (w.emit (.received source data))
      rcases sequence : (w.emit (.received source data)).checkSequence source data hdr with
        ⟨proceed, after⟩
      rw [sequence] at checked
      simp only [sequence]
      cases proceed with
      | false => exact checked
      | true =>
          dsimp only
          split
          · exact checked
          · exact (increment_eventManager _ _ _).trans checked

theorem World.submit_eventManager (handle : Nat) (target : Address n)
    (serviceId methodId : UInt16) (payload : Payload) (hasCallback : Bool)
    (timeoutMs nowMs : UInt32) (w : World cfg) :
    (w.submit env handle target serviceId methodId payload hasCallback timeoutMs
      nowMs).2.rt.eventManager = w.rt.eventManager := by
  rw [submit]
  split <;> rfl

theorem World.finish_eventManager (slot : Fin cfg.maxPendingRequests) (cause : Cause)
    (rc : ReturnCode) (payload : Bytes) (w : World cfg) :
    (RequestTracker.finish trackerLens (invokeRequest cause id) slot rc payload
      w).rt.eventManager = w.rt.eventManager := by
  rw [RequestTracker.finish]
  cases ((trackerLens.get w).entries slot).callback <;> rfl

theorem World.sendSdBroadcast_eventManager (message : SdMessage n) (w : World cfg) :
    (w.sendSdBroadcast env message).rt.eventManager = w.rt.eventManager := by
  rw [sendSdBroadcast]
  split
  · rfl
  · exact countRefusal_eventManager _ _

theorem World.sendSdUnicast_eventManager (dest : Address n) (message : SdMessage n)
    (w : World cfg) : (w.sendSdUnicast env dest message).rt.eventManager = w.rt.eventManager := by
  rw [sendSdUnicast]
  split
  · rfl
  · exact countRefusal_eventManager _ _

theorem PlainStep.keepsSubscriber {before after : World cfg} (step : PlainStep env before after) :
    KeepsSubscriber serviceId eventId clientId nowMs before.rt.eventManager
      after.rt.eventManager := by
  cases step with
  | count counter header => exact .of_eq (World.increment_eventManager counter header before)
  | storeDtcs | fillResponse => exact .of_eq rfl
  | own isPlain step =>
      cases step with
      | background | sdWrite | markRenewals => cases isPlain
      | validate source data => exact .of_eq (World.validate_eventManager source data before)
      | @reply source data hdr _ _ _ _ _ rc responseLength =>
          obtain ⟨after, ok, equal, rt, -⟩ :=
            World.sendReply_spec env source hdr (payloadOf hdr data) rc responseLength before
          rw [equal, World.countRefusal_eventManager, rt]
          exact .of_eq rfl
      | finish => exact .of_eq (World.finish_eventManager ..)
      | submit => exact .of_eq (World.submit_eventManager ..)
      | perform isLocal => exact World.apiCall_keepsSubscriber id isLocal before
      | enterHandler | callback | transmit | returned | resetPeer => exact .of_eq rfl

/-- A step in which the client does not ask about the event. -/
theorem DiscoveryStep.keepsSubscriber {before after : World cfg}
    (step : DiscoveryStep env nowMs asked before after)
    (silent : ∀ request, asked = some request →
      request.concerns serviceId eventId clientId = false) :
    KeepsSubscriber serviceId eventId clientId nowMs before.rt.eventManager
      after.rt.eventManager := by
  cases step with
  | plain step => exact step.keepsSubscriber
  | evictSubscribers =>
      exact ⟨fun distinct => distinct.evictExpired nowMs,
        fun distinct _ subscribed unexpired =>
          EventManager.subscriber_evictExpired distinct subscribed unexpired⟩
  | @subscribeRequest source hdr request subscribes =>
      have other : ¬(hdr.clientId = clientId ∧ request.serviceId = serviceId ∧
          request.eventId = eventId) := by
        have quiet := silent _ subscribes
        simpa [SdRequest.concerns, and_assoc] using quiet
      rw [World.handleSubscribeRequest_eventManager]
      refine ⟨fun distinct => distinct.subscribe _ _ _ _ _ _, ?_⟩
      intro _ subscriber subscribed _
      rw [EventManager.subscriber_subscribe other]
      exact subscribed
  | @unsubscribeRequest client request unsubscribes =>
      have other : ¬(client = clientId ∧ request.serviceId = serviceId ∧
          request.eventId = eventId) := by
        have quiet := silent _ unsubscribes
        simpa [SdRequest.concerns, and_assoc] using quiet
      refine ⟨fun distinct => distinct.unsubscribe _ _ _, ?_⟩
      intro distinct subscriber subscribed _
      rw [EventManager.subscriber_unsubscribe distinct other]
      exact subscribed
  | sendFind => exact .of_eq (World.sendSdBroadcast_eventManager _ before)
  | answerFind => exact .of_eq (World.sendSdUnicast_eventManager _ _ before)
  | _ => exact .of_eq rfl

theorem DiscoverySteps.keepsSubscriber {before after : World cfg}
    (steps : DiscoverySteps env nowMs asked before after)
    (silent : ∀ request, asked = some request →
      request.concerns serviceId eventId clientId = false) :
    KeepsSubscriber serviceId eventId clientId nowMs before.rt.eventManager
      after.rt.eventManager := by
  induction steps with
  | refl => exact .of_eq rfl
  | tail _ step ih => exact ih.trans (step.keepsSubscriber silent)

/-! ## A whole cycle -/

theorem World.foldl_eventManager {α : Type} {body : World cfg → α → World cfg}
    (each : ∀ w item, (body w item).rt.eventManager = w.rt.eventManager) (items : List α)
    (w : World cfg) : (items.foldl body w).rt.eventManager = w.rt.eventManager := by
  induction items generalizing w with
  | nil => rfl
  | cons item rest ih => exact (ih _).trans (each w item)

/-- The two passes that send leave the subscribers alone. -/
theorem World.announce_eventManager (w : World cfg) :
    (w.announce env nowMs).rt.eventManager = w.rt.eventManager := by
  have offers : (w.broadcastOffers env nowMs).rt.eventManager = w.rt.eventManager := by
    have each : ∀ (w : World cfg) (message : SdMessage n),
        (w.sendSdBroadcast env message).rt.eventManager = w.rt.eventManager :=
      fun w message => sendSdBroadcast_eventManager message w
    rw [broadcastOffers]
    exact foldl_eventManager each _ _
  have each : ∀ (w : World cfg) (send : Address n × SdMessage n),
      (w.sendSdUnicast env send.1 send.2).rt.eventManager = w.rt.eventManager :=
    fun w send => sendSdUnicast_eventManager send.1 send.2 w
  rw [announce, renewSubscriptions, foldl_eventManager each]
  exact offers

theorem World.housekeeping_keepsSubscriber (w : World cfg) :
    KeepsSubscriber serviceId eventId clientId nowMs w.rt.eventManager
      (w.housekeeping env nowMs).rt.eventManager := by
  have timedOut : DiscoverySteps env nowMs none w (w.timeOut env nowMs) :=
    timeOut_discoverySteps w
  have announced : ((w.timeOut env nowMs).announce env nowMs).rt.eventManager =
      (w.timeOut env nowMs).rt.eventManager := announce_eventManager _
  have rest : DiscoverySteps env nowMs none ((w.timeOut env nowMs).announce env nowMs)
      (w.housekeeping env nowMs) := housekeeping_discoverySteps w
  exact (timedOut.keepsSubscriber (by simp)).trans
    ((KeepsSubscriber.of_eq announced).trans (rest.keepsSubscriber (by simp)))

theorem Background.distinctSubscribers {before after : World cfg}
    (step : Background env before after) (distinct : before.rt.eventManager.DistinctSubscribers) :
    after.rt.eventManager.DistinctSubscribers := by
  cases step with
  | increment counter header =>
      rw [World.increment_eventManager]
      exact distinct
  | sdBroadcast message =>
      rw [World.sendSdBroadcast_eventManager]
      exact distinct
  | sdUnicast dest message =>
      rw [World.sendSdUnicast_eventManager]
      exact distinct
  | subscribeRequest source hdr request nowMs =>
      rw [World.handleSubscribeRequest_eventManager]
      exact distinct.subscribe _ _ _ _ _ _
  | unsubscribeRequest => exact distinct.unsubscribe _ _ _
  | evictSubscribers nowMs => exact distinct.evictExpired nowMs
  | storeDtcs | fillResponse | startCycle => exact distinct

theorem Atomic.distinctSubscribers {kind : StepKind} {before after : World cfg}
    (step : Atomic env kind before after)
    (distinct : before.rt.eventManager.DistinctSubscribers) :
    after.rt.eventManager.DistinctSubscribers := by
  cases plain : kind.isPlain with
  | true =>
      have keeps : KeepsSubscriber 0 0 0 0 before.rt.eventManager after.rt.eventManager :=
        (PlainStep.own plain step).keepsSubscriber
      exact keeps.distinct distinct
  | false =>
      cases step with
      | background step => exact step.distinctSubscribers distinct
      | sdWrite | markRenewals => exact distinct
      | _ => cases plain

theorem World.Reachable.distinctSubscribers {w : World cfg} (reachable : World.Reachable env w) :
    w.rt.eventManager.DistinctSubscribers :=
  reachable.invariant (fun _ => fun _ member => nomatch member)
    fun _ _ _ distinct step => step.distinctSubscribers distinct

end Sero
