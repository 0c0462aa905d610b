import Sero.Properties.ConsumerLease
import Sero.Properties.SubscriptionFrames

/-!
# What a consumer says about a subscription

Once an event is subscribed to, and until the application writes its subscription again,
the device asks for the event in its renewal pass only.
-/

namespace Sero

open Library ServiceDiscovery

variable {n : Nat} {cfg : Config n} {env : Env cfg}

/-- Has the application written its subscription of an event? -/
def resubscribes (serviceId eventId : UInt16) (events : History cfg) : Bool :=
  events.any fun
    | .returned (.subscribeEvent service event ..) _ => service == serviceId && event == eventId
    | .returned (.unsubscribeEvent service event) _ => service == serviceId && event == eventId
    | _ => false

theorem resubscribes_append (serviceId eventId : UInt16) (newer older : History cfg) :
    resubscribes serviceId eventId (newer ++ older) =
      (resubscribes serviceId eventId newer || resubscribes serviceId eventId older) :=
  List.any_append

/-- A device whose tracker of an event is as described. -/
structure Tracking (serviceId eventId clientId : UInt16) (describes : SubTracker → Prop)
    (w : World cfg) : Prop where
  distinct : w.rt.sd.DistinctTrackers
  tracks : ∃ tracker, w.rt.sd.findSubTracker serviceId eventId = some tracker ∧
    describes tracker
  clientId : w.rt.sd.clientId = clientId

/-- Unless the application writes its subscription, the tracker stays as described, and the
device does not ask for the event. -/
def KeepsTracker (serviceId eventId clientId : UInt16) (describes : SubTracker → Prop)
    (before after : World cfg) : Prop :=
  ∃ events, after.history = events ++ before.history ∧
    (resubscribes serviceId eventId events = false →
      Tracking serviceId eventId clientId describes before →
      Tracking serviceId eventId clientId describes after ∧
        ∀ sent ∈ events.filterMap Event.sdFrame, asksFor serviceId eventId sent.2 = false)

variable {serviceId eventId clientId : UInt16} {describes : SubTracker → Prop}

theorem Tracking.of_same {before after : World cfg}
    (tracking : Tracking serviceId eventId clientId describes before)
    (trackers : after.rt.sd.subTrackers = before.rt.sd.subTrackers)
    (own : after.rt.sd.clientId = before.rt.sd.clientId) :
    Tracking serviceId eventId clientId describes after where
  distinct := by
    rw [DistinctTrackers, trackers]
    exact tracking.distinct
  tracks := by
    rw [findSubTracker, trackers]
    exact tracking.tracks
  clientId := own.trans tracking.clientId

theorem Tracking.imp {other : SubTracker → Prop} {w : World cfg}
    (tracking : Tracking serviceId eventId clientId describes w)
    (implies : ∀ tracker, describes tracker → other tracker) :
    Tracking serviceId eventId clientId other w where
  distinct := tracking.distinct
  tracks := tracking.tracks.imp fun tracker ⟨tracked, described⟩ =>
    ⟨tracked, implies tracker described⟩
  clientId := tracking.clientId

namespace KeepsTracker

variable {first second third : World cfg}

theorem trans (left : KeepsTracker serviceId eventId clientId describes first second)
    (right : KeepsTracker serviceId eventId clientId describes second third) :
    KeepsTracker serviceId eventId clientId describes first third := by
  obtain ⟨older, olderEq, leftKeeps⟩ := left
  obtain ⟨newer, newerEq, rightKeeps⟩ := right
  refine ⟨newer ++ older, by rw [newerEq, olderEq, List.append_assoc], ?_⟩
  intro kept tracking
  rw [resubscribes_append, Bool.or_eq_false_iff] at kept
  obtain ⟨middle, olderFrames⟩ := leftKeeps kept.2 tracking
  obtain ⟨last, newerFrames⟩ := rightKeeps kept.1 middle
  refine ⟨last, ?_⟩
  rw [List.filterMap_append]
  intro sent member
  rcases List.mem_append.mp member with inNewer | inOlder
  · exact newerFrames sent inNewer
  · exact olderFrames sent inOlder

/-- A step that sends these frames and writes the tracker so. -/
theorem of_traffic {events : History cfg} (history : second.history = events ++ first.history)
    {frames : List (Option (Address n) × Bytes)}
    (traffic : second.traffic = frames ++ first.traffic)
    (others : ∀ sent ∈ frames, asksFor serviceId eventId sent.2 = false)
    (keeps : Tracking serviceId eventId clientId describes first →
      Tracking serviceId eventId clientId describes second) :
    KeepsTracker serviceId eventId clientId describes first second := by
  have same : events.filterMap Event.sdFrame = frames :=
    List.append_cancel_right ((World.traffic_append history).symm.trans traffic)
  refine ⟨events, history, ?_⟩
  intro _ tracking
  rw [same]
  exact ⟨keeps tracking, others⟩

/-- A step that sends no discovery frame. -/
theorem of_silent {events : History cfg} (history : second.history = events ++ first.history)
    (traffic : second.traffic = first.traffic)
    (keeps : Tracking serviceId eventId clientId describes first →
      Tracking serviceId eventId clientId describes second) :
    KeepsTracker serviceId eventId clientId describes first second :=
  of_traffic history (traffic.trans (List.nil_append _).symm) (by simp) keeps

/-- A message that does not ask for the event. -/
theorem broadcast {message : SdMessage n} {w : World cfg}
    (other : ∀ sequenceCounter, asksFor serviceId eventId
      (message.frame w.rt.sd.clientId sequenceCounter) = false) :
    KeepsTracker serviceId eventId clientId describes w (w.sendSdBroadcast env message) := by
  have core := @World.sendSdBroadcast_core _ _ env message w
  obtain ⟨events, history, -⟩ := core.history
  have keeps : Tracking serviceId eventId clientId describes w →
      Tracking serviceId eventId clientId describes (w.sendSdBroadcast env message) :=
    fun tracking => tracking.of_same (by rw [core.sd]) (by rw [core.sd])
  by_cases room : message.Fits cfg w.rt.sd.clientId
  · have traffic : (w.sendSdBroadcast env message).traffic =
        [(none, message.frame w.rt.sd.clientId w.rt.sdSeq)] ++ w.traffic :=
      sendSdBroadcast_traffic room
    apply of_traffic history traffic _ keeps
    intro sent member
    cases List.mem_singleton.mp member
    exact other _
  · apply of_silent history _ keeps
    rw [World.sendSdBroadcast, if_pos (Nat.not_le.mp room)]

theorem unicast (dest : Address n) {message : SdMessage n} {w : World cfg}
    (other : ∀ sequenceCounter, asksFor serviceId eventId
      (message.frame w.rt.sd.clientId sequenceCounter) = false) :
    KeepsTracker serviceId eventId clientId describes w (w.sendSdUnicast env dest message) := by
  have core := @World.sendSdUnicast_core _ _ env dest message w
  obtain ⟨events, history, -⟩ := core.history
  have keeps : Tracking serviceId eventId clientId describes w →
      Tracking serviceId eventId clientId describes (w.sendSdUnicast env dest message) :=
    fun tracking => tracking.of_same (by rw [core.sd]) (by rw [core.sd])
  by_cases room : message.Fits cfg w.rt.sd.clientId
  · have traffic : (w.sendSdUnicast env dest message).traffic =
        [(some dest, message.frame w.rt.sd.clientId w.rt.sdSeq)] ++ w.traffic :=
      sendSdUnicast_traffic dest room
    apply of_traffic history traffic _ keeps
    intro sent member
    cases List.mem_singleton.mp member
    exact other _
  · apply of_silent history _ keeps
    rw [World.sendSdUnicast, if_pos (Nat.not_le.mp room)]

theorem foldl {α : Type} {body : World cfg → α → World cfg} (items : List α)
    (each : ∀ w, ∀ item ∈ items,
      KeepsTracker serviceId eventId clientId describes w (body w item)) (w : World cfg) :
    KeepsTracker serviceId eventId clientId describes w (items.foldl body w) := by
  induction items generalizing w with
  | nil => exact .of_silent (List.nil_append _).symm rfl id
  | cons item rest ih =>
      exact (each w item (.head _)).trans
        (ih (fun w other member => each w other (.tail _ member)) _)

end KeepsTracker

/-! ## Steps of the consumer -/

/-- Announcing and finding services asks for no event. -/
theorem asksFor_offer (entry : ProviderEntry) (addr : Address n) (clientId : UInt16)
    (sequenceCounter : UInt8) :
    asksFor serviceId eventId ((ProviderEntry.offerMessage entry addr).frame clientId
      sequenceCounter) = false := by
  rw [← Bool.not_eq_true]
  intro asks
  rcases asksFor_frame asks with ⟨_, isSubscribe⟩ | isUnsubscribe
  · cases isSubscribe
  · cases isUnsubscribe

theorem asksFor_find (wanted clientId : UInt16) (sequenceCounter : UInt8) :
    asksFor serviceId eventId ((SdMessage.find (n := n) wanted).frame clientId
      sequenceCounter) = false := by
  rw [← Bool.not_eq_true]
  intro asks
  rcases asksFor_frame asks with ⟨_, isSubscribe⟩ | isUnsubscribe
  · cases isSubscribe
  · cases isUnsubscribe

/-- Subscribing writes discovery's table, if there is room for a handler. -/
theorem World.subscribeEvent_sd (serviceId eventId : UInt16) (context : Nat)
    (ttlSeconds : UInt16) (nowMs : UInt32) (w : World cfg) :
    (w.subscribeEvent serviceId eventId context ttlSeconds nowMs).2.rt.sd = w.rt.sd ∨
      (w.subscribeEvent serviceId eventId context ttlSeconds nowMs).2.rt.sd =
        (w.rt.sd.subscribeEvent serviceId eventId ttlSeconds nowMs).2 := by
  rw [subscribeEvent, registerEventHandler]
  cases Table.upsert (handlesEvent serviceId eventId)
      (fun _ => { serviceId, eventId, context }) { serviceId, eventId, context }
      (cfg.maxKnownServices * cfg.maxEvents) w.rt.eventHandlers with
  | none => exact .inl rfl
  | some handlers => exact .inr rfl

/-- Subscribing to another event. -/
theorem Tracking.subscribeEvent {before after : World cfg}
    (tracking : Tracking serviceId eventId clientId describes before)
    {service event ttlSeconds : UInt16} {nowMs : UInt32}
    (other : (service, event) ≠ (serviceId, eventId))
    (written : after.rt.sd = (before.rt.sd.subscribeEvent service event ttlSeconds nowMs).2) :
    Tracking serviceId eventId clientId describes after := by
  obtain ⟨tracker, tracked, described⟩ := tracking.tracks
  refine ⟨?_, ⟨tracker, ?_, described⟩, ?_⟩
  · rw [written]
    exact tracking.distinct.subscribeEvent _ _ _ _
  · rw [written]
    cases accepted : (before.rt.sd.subscribeEvent service event ttlSeconds nowMs).1 with
    | false =>
        rw [subscribeEvent_refused accepted]
        exact tracked
    | true =>
        rw [findSubTracker_subscribeEvent accepted, if_neg (Ne.symm other)]
        exact tracked
  · rw [written, subscribeEvent_clientId]
    exact tracking.clientId

/-- A write to the tracker of another event, or one that keeps the description. -/
theorem Tracking.update {before after : World cfg}
    (tracking : Tracking serviceId eventId clientId describes before) {service event : UInt16}
    {update : SubTracker → SubTracker}
    (keys : ∀ tracker, SubTracker.key (update tracker) = SubTracker.key tracker)
    (keeps : (service, event) = (serviceId, eventId) →
      ∀ tracker, describes tracker → describes (update tracker))
    (written : after.rt.sd = before.rt.sd.updateSubTracker service event update) :
    Tracking serviceId eventId clientId describes after := by
  obtain ⟨tracker, tracked, described⟩ := tracking.tracks
  refine ⟨?_, ?_, ?_⟩
  · rw [written]
    exact tracking.distinct.updateSubTracker _ _ keys
  · rw [written, findSubTracker_updateSubTracker _ _ _ keys, tracked]
    split
    · next same => exact ⟨update tracker, rfl, keeps same.symm tracker described⟩
    · exact ⟨tracker, rfl, described⟩
  · rw [written]
    exact tracking.clientId

/-- The calls that write subscriptions. -/
def ApiCall.writesTrackers : ApiCall cfg → Bool
  | .subscribeEvent .. | .unsubscribeEvent .. => true
  | _ => false

theorem World.apiCall_subTrackers (body : World cfg → World cfg) {call : ApiCall cfg}
    (isLocal : call.isLocal = true) (other : call.writesTrackers = false) (w : World cfg) :
    (w.apiCall env body call).2.rt.sd.subTrackers = w.rt.sd.subTrackers := by
  cases call with
  | request | fireAndForget | notifyEvent => cases isLocal
  | subscribeEvent | unsubscribeEvent => cases other
  | offerService service ttl now =>
      obtain ⟨sd, written, offer⟩ := w.offerService_rt service ttl now
      change (w.offerService service ttl now).2.rt.sd.subTrackers = _
      rw [written]
      rcases offer with rfl | ⟨major, minor, rfl⟩
      · rfl
      · exact (offer_tables ..).2
  | findService service major now => exact find_subTrackers w.rt.sd service major now
  | enableDiagnostics now auth =>
      obtain ⟨_, sd, _, _, written, offer⟩ := w.enableDiagnostics_rt now auth
      change (w.enableDiagnostics now auth).2.rt.sd.subTrackers = _
      rw [written]
      rcases offer with rfl | ⟨major, minor, rfl⟩
      · rfl
      · exact (offer_tables ..).2
  | reportDtc code severity now =>
      change (w.reportDtc code severity now).2.rt.sd.subTrackers = _
      rw [World.reportDtc]
      split
      · rfl
      · rw [(World.countRefusal_core _ _).sd]
  | _ => rfl

/-- A call that does not write the subscription. -/
theorem Tracking.apiCall {w : World cfg}
    (tracking : Tracking serviceId eventId clientId describes w) {call : ApiCall cfg}
    (isLocal : call.isLocal = true)
    (other : resubscribes serviceId eventId [.returned call (w.apiCall env id call).1] = false) :
    Tracking serviceId eventId clientId describes (w.apiCall env id call).2 := by
  have own := @World.apiCall_sdClientId _ _ env id call isLocal w
  cases writes : call.writesTrackers with
  | false => exact tracking.of_same (World.apiCall_subTrackers id isLocal writes w) own
  | true =>
      cases call with
      | subscribeEvent service event context ttl now =>
          have different : (service, event) ≠ (serviceId, eventId) := by
            simpa [resubscribes] using other
          rcases w.subscribeEvent_sd service event context ttl now with same | written
          · exact tracking.of_same (congrArg ServiceDiscovery.subTrackers same) own
          · exact tracking.subscribeEvent different written
      | unsubscribeEvent service event =>
          have different : (service, event) ≠ (serviceId, eventId) := by
            simpa [resubscribes] using other
          exact tracking.update (SubTracker.unsubscribe_key) (fun same => absurd same different)
            rfl
      | _ => cases writes

/-- No step files an event twice. -/
theorem Atomic.distinctTrackers {kind : StepKind} {before after : World cfg}
    (step : Atomic env kind before after) (distinct : before.rt.sd.DistinctTrackers) :
    after.rt.sd.DistinctTrackers := by
  have same := step.frame.sd
  cases step with
  | @perform call isLocal w =>
      change (before.apiCall env id call).2.rt.sd.DistinctTrackers
      cases writes : call.writesTrackers with
      | false =>
          rw [DistinctTrackers, World.apiCall_subTrackers id isLocal writes]
          exact distinct
      | true =>
          cases call with
          | subscribeEvent service event context ttl now =>
              change (before.subscribeEvent service event context ttl
                now).2.rt.sd.DistinctTrackers
              rcases before.subscribeEvent_sd service event context ttl now with
                unchanged | written
              · rw [unchanged]
                exact distinct
              · rw [written]
                exact distinct.subscribeEvent _ _ _ _
          | unsubscribeEvent service event =>
              exact distinct.updateSubTracker service event SubTracker.unsubscribe_key
          | _ => cases writes
  | sdWrite write =>
      cases write with
      | flagResubscribe serviceId nowMs =>
          exact distinct.map (SubTracker.flagged_key serviceId nowMs) rfl
      | recordAck serviceId eventId result grantedTtl =>
          exact distinct.updateSubTracker _ _ (SubTracker.acknowledge_key result grantedTtl)
      | recordOffer | markFound | giveUpFind | scheduleRetry | expireConsumer |
          processOffers => exact distinct
  | markRenewals nowMs => exact distinct.map (before.rt.sd.renew_key nowMs) rfl
  | _ =>
      rw [same (by simp)]
      exact distinct

theorem Steps.distinctTrackers {before after : World cfg} (steps : Steps env before after)
    (distinct : before.rt.sd.DistinctTrackers) : after.rt.sd.DistinctTrackers := by
  induction steps with
  | refl => exact distinct
  | tail _ step ih =>
      obtain ⟨kind, step⟩ := step
      exact step.distinctTrackers ih

theorem World.Reachable.distinctTrackers {w : World cfg} (reachable : World.Reachable env w) :
    w.rt.sd.DistinctTrackers :=
  reachable.invariant (fun _ => List.nodup_nil)
    fun _ _ _ distinct step => step.distinctTrackers distinct

theorem PlainStep.keepsTracker {before after : World cfg} (step : PlainStep env before after) :
    KeepsTracker serviceId eventId clientId describes before after := by
  obtain ⟨events, history⟩ := (PlainSteps.steps (.single step)).suffix
  have traffic := step.traffic
  have silent : after.rt.sd = before.rt.sd →
      KeepsTracker serviceId eventId clientId describes before after := by
    intro same
    exact .of_silent history.symm traffic fun tracking =>
      tracking.of_same (by rw [same]) (by rw [same])
  cases step with
  | count counter header => exact silent (World.increment_core counter header before).sd
  | storeDtcs | fillResponse => exact silent rfl
  | @own kind _ _ isPlain step =>
      have same := step.frame.sd
      cases step with
      | background | sdWrite | markRenewals => cases isPlain
      | @perform call isLocal =>
          obtain ⟨quiet, called, -⟩ :=
            (@World.apiCall_same _ _ env id call isLocal before).history
          have performed : (before.perform env id call).history =
              .returned call (before.apiCall env id call).1 :: quiet ++ before.history :=
            congrArg (List.cons _) called
          have frames := List.append_cancel_right ((World.traffic_append performed).symm.trans
            (traffic.trans (List.nil_append _).symm))
          refine ⟨_, performed, ?_⟩
          intro other tracking
          rw [frames]
          refine ⟨?_, by simp⟩
          have notWritten : resubscribes serviceId eventId
              [.returned call (before.apiCall env id call).1] = false := by
            rw [← List.singleton_append, resubscribes_append, Bool.or_eq_false_iff] at other
            exact other.1
          exact (tracking.apiCall isLocal notWritten).of_same rfl rfl
      | _ => exact silent (same (by simp))

variable {nowMs : UInt32} {asked : Option (SdRequest n)}

/-- A step that answers nothing about the event, offers of its service apart. -/
theorem DiscoveryStep.keepsTracker {before after : World cfg}
    (step : DiscoveryStep env nowMs asked before after)
    (flags : ∀ offer, asked = some (.offer offer) → ∀ tracker, describes tracker →
      describes (SubTracker.flagged offer.serviceId nowMs tracker))
    (answers : ∀ result granted, asked = some (.ack result granted) →
      (granted.serviceId, granted.eventId) ≠ (serviceId, eventId)) :
    KeepsTracker serviceId eventId clientId describes before after := by
  obtain ⟨events, history⟩ := step.steps.suffix
  have silent : after.traffic = before.traffic →
      after.rt.sd.subTrackers = before.rt.sd.subTrackers →
      after.rt.sd.clientId = before.rt.sd.clientId →
      KeepsTracker serviceId eventId clientId describes before after :=
    fun traffic trackers own =>
      .of_silent history.symm traffic fun tracking => tracking.of_same trackers own
  cases step with
  | plain step => exact step.keepsTracker
  | startCycle | evictSubscribers | unsubscribeRequest | recordOffer | markFound |
      expireConsumer | giveUpFind | scheduleRetry => exact silent rfl rfl rfl
  | sendFind wanted => exact .broadcast fun _ => asksFor_find _ _ _
  | answerFind _ offered =>
      obtain ⟨entry, -, rfl⟩ := List.mem_map.mp offered
      exact .unicast _ fun _ => asksFor_offer _ _ _ _
  | @subscribeRequest source hdr request =>
      have core := @World.handleSubscribeRequest_core _ _ env source hdr request nowMs before
      have traffic := @World.handleSubscribeRequest_traffic _ _ env source hdr request nowMs
        before
      refine .of_traffic history.symm (traffic.trans List.singleton_append.symm) ?_
        fun tracking => tracking.of_same (by rw [core.sd]) (by rw [core.sd])
      intro sent member
      cases List.mem_singleton.mp member
      exact asksFor_ackFrame _ _
  | @flagResubscribe offer offers =>
      refine .of_silent history.symm rfl fun tracking => ?_
      obtain ⟨tracker, tracked, described⟩ := tracking.tracks
      refine ⟨?_, ⟨_, ?_, flags offer offers tracker described⟩, tracking.clientId⟩
      · exact tracking.distinct.map (SubTracker.flagged_key offer.serviceId nowMs) rfl
      · have looked := before.rt.sd.findSubTracker_flagResubscribe offer.serviceId nowMs
          serviceId eventId
        rw [tracked] at looked
        exact looked
  | @recordAck result granted acks =>
      refine .of_silent history.symm rfl fun tracking => ?_
      exact tracking.update (SubTracker.acknowledge_key result granted.ttlSeconds)
        (fun same => absurd same (answers result granted acks)) rfl

theorem DiscoverySteps.keepsTracker {before after : World cfg}
    (steps : DiscoverySteps env nowMs asked before after)
    (flags : ∀ offer, asked = some (.offer offer) → ∀ tracker, describes tracker →
      describes (SubTracker.flagged offer.serviceId nowMs tracker))
    (answers : ∀ result granted, asked = some (.ack result granted) →
      (granted.serviceId, granted.eventId) ≠ (serviceId, eventId)) :
    KeepsTracker serviceId eventId clientId describes before after := by
  induction steps with
  | refl => exact .of_silent (List.nil_append _).symm rfl id
  | tail _ step ih => exact ih.trans (step.keepsTracker flags answers)

/-! ## Acknowledgements -/

/-- An answer about the event is recorded. -/
theorem World.receive_ack {source : Address n} {data : Bytes} {result : ReturnCode}
    {grantedTtl : UInt16}
    (hears : heard cfg source data = some (.ack result ⟨serviceId, eventId, grantedTtl⟩))
    (unsigned : (MessageHeader.deserialize data).hasAuth = false) {w : World cfg}
    (quiet : resubscribes serviceId eventId
      ((w.validateAndDispatch env source data nowMs).since w) = false)
    (tracking : Tracking serviceId eventId clientId describes w)
    {recorded : SubTracker → Prop}
    (records : ∀ tracker, describes tracker →
      recorded (SubTracker.acknowledge result grantedTtl tracker)) :
    Tracking serviceId eventId clientId recorded (w.validateAndDispatch env source data nowMs) ∧
      ∀ sent ∈ ((w.validateAndDispatch env source data nowMs).since w).filterMap Event.sdFrame,
        asksFor serviceId eventId sent.2 = false := by
  let granted : SdPayload.Subscribe := ⟨serviceId, eventId, grantedTtl⟩
  let arrived := w.arrived source data
  let written := sdLens.modify (fun sd => sd.recordAck serviceId eventId result grantedTtl) arrived
  have handled := @receive_heard _ _ env _ _ _ hears unsigned nowMs w
  rw [handled] at quiet ⊢
  have answered : PlainSteps env written
      ((SdRequest.ack result granted).handle env nowMs arrived) := by
    rw [SdRequest.handle, handleSubscribeAck]
    split
    · exact callback_steps (by simp) _
    · exact .refl
  have before : Tracking serviceId eventId clientId recorded written := by
    obtain ⟨tracker, tracked, described⟩ := tracking.tracks
    refine ⟨?_, ⟨_, ?_, records tracker described⟩, tracking.clientId⟩
    · exact tracking.distinct.updateSubTracker serviceId eventId
        (SubTracker.acknowledge_key result grantedTtl)
    · have looked := w.rt.sd.findSubTracker_recordAck serviceId eventId result grantedTtl
        serviceId eventId
      rw [if_pos rfl, tracked] at looked
      exact looked
  have answering : DiscoverySteps env nowMs none written
      ((SdRequest.ack result granted).handle env nowMs arrived) := answered.discoverySteps
  obtain ⟨events, history, keeps⟩ := @DiscoverySteps.keepsTracker _ _ env serviceId eventId
    clientId recorded nowMs none _ _ answering (by simp) (by simp)
  have whole : ((SdRequest.ack result granted).handle env nowMs arrived).history =
      (events ++ [.dispatched source data, .received source data]) ++ w.history := by
    rw [history, List.append_assoc]
    rfl
  rw [World.since_eq whole, resubscribes_append, Bool.or_eq_false_iff] at quiet
  obtain ⟨after, frames⟩ := keeps quiet.1 before
  refine ⟨after, ?_⟩
  rw [World.since_eq whole, List.filterMap_append]
  intro sent member
  rcases List.mem_append.mp member with inEvents | inArrival
  · exact frames sent inEvents
  · cases inArrival

/-! ## The renewal pass -/

/-- One turn of the renewal loop for a service that is found. -/
def renewed (cfg : Config n) (nowMs : UInt32) (tracker : SubTracker) :
    Option (SdMessage n) × SubTracker :=
  if tracker.active then renewTracker cfg nowMs tracker else (none, tracker)

theorem renew_found {sd : ServiceDiscovery cfg} {provider : Address n} {tracker : SubTracker}
    (found : sd.getProviderAddress tracker.serviceId = some provider) :
    sd.renew nowMs tracker =
      ((renewed cfg nowMs tracker).1.map fun message => (provider, message),
        (renewed cfg nowMs tracker).2) := by
  rw [renew, found, renewed]
  cases tracker.active <;> rfl

/-- The frames of a series of unicasts. -/
theorem World.foldl_unicast_frames (sends : List (Address n × SdMessage n)) (w : World cfg) :
    let after := sends.foldl (fun w send => w.sendSdUnicast env send.1 send.2) w
    ∃ events, after.history = events ++ w.history ∧
      (∀ sent ∈ events.filterMap Event.sdFrame, ∃ send ∈ sends, ∃ sequenceCounter,
        sent = (some send.1, send.2.frame w.rt.sd.clientId sequenceCounter)) ∧
      ∀ send ∈ sends, send.2.Fits cfg w.rt.sd.clientId → ∃ sequenceCounter,
        (some send.1, send.2.frame w.rt.sd.clientId sequenceCounter) ∈
          events.filterMap Event.sdFrame := by
  induction sends generalizing w with
  | nil => exact ⟨[], rfl, by simp, by simp⟩
  | cons first rest ih =>
      have core := @World.sendSdUnicast_core _ _ env first.1 first.2 w
      obtain ⟨older, olderEq, -⟩ := core.history
      obtain ⟨newer, newerEq, fromRest, ofRest⟩ := ih (w.sendSdUnicast env first.1 first.2)
      rw [core.sd] at fromRest ofRest
      have whole := World.traffic_append olderEq
      refine ⟨newer ++ older, by rw [List.foldl_cons, newerEq, olderEq, List.append_assoc], ?_, ?_⟩
      · intro sent member
        rw [List.filterMap_append] at member
        rcases List.mem_append.mp member with inNewer | inOlder
        · obtain ⟨send, later, counter, equal⟩ := fromRest sent inNewer
          exact ⟨send, .tail _ later, counter, equal⟩
        · by_cases room : first.2.Fits cfg w.rt.sd.clientId
          · rw [sendSdUnicast_traffic first.1 room, ← List.singleton_append] at whole
            rw [← List.append_cancel_right whole] at inOlder
            exact ⟨first, .head _, _, List.mem_singleton.mp inOlder⟩
          · rw [World.sendSdUnicast, if_pos (Nat.not_le.mp room)] at whole
            have silent := List.append_cancel_right ((List.nil_append _).trans whole)
            rw [← silent] at inOlder
            cases inOlder
      · intro send member room
        rw [List.filterMap_append]
        rcases List.mem_cons.mp member with rfl | later
        · rw [sendSdUnicast_traffic send.1 room, ← List.singleton_append] at whole
          rw [← List.append_cancel_right whole]
          exact ⟨_, List.mem_append_right _ (List.mem_singleton_self _)⟩
        · obtain ⟨counter, sent⟩ := ofRest send later room
          exact ⟨counter, List.mem_append_left _ sent⟩

/-- Every configuration has room for a subscription. -/
theorem fits_subscribe (serviceId eventId ttlSeconds clientId : UInt16) :
    (SdMessage.subscribeEvent (n := n) serviceId eventId ttlSeconds).Fits cfg clientId := by
  rw [SdMessage.Fits, SdMessage.encode_length, maxMsgSize]
  simp only [SdMessage.payload, SdPayload.serializeSubscribe, List.length_append,
    writeU16_length, List.length_cons, List.length_nil, headerSize, crcSize, hmacSize]
  omega

theorem World.broadcastOffers_keepsTracker (w : World cfg) :
    KeepsTracker serviceId eventId clientId describes w (w.broadcastOffers env nowMs) := by
  have written : KeepsTracker serviceId eventId clientId describes w
      { w with rt := { w.rt with sd := (w.rt.sd.processOffers nowMs).2 } } :=
    .of_silent (List.nil_append _).symm rfl fun tracking => tracking.of_same rfl rfl
  refine written.trans (KeepsTracker.foldl _ ?_ _)
  intro w message member
  obtain ⟨entry, -, rfl⟩ := List.mem_map.mp member
  exact .broadcast fun _ => asksFor_offer _ _ _ _

/-- What the renewal pass does about one event of a service that is found. -/
structure Renews (serviceId eventId clientId : UInt16) (nowMs : UInt32) (tracker : SubTracker)
    (before after : World cfg) : Prop where
  tracking : Tracking serviceId eventId clientId (· = (renewed cfg nowMs tracker).2) after
  frames : ∃ events, after.history = events ++ before.history ∧
    (∀ sent ∈ events.filterMap Event.sdFrame, asksFor serviceId eventId sent.2 = true →
      ∃ message sequenceCounter, (renewed cfg nowMs tracker).1 = some message ∧
        sent.2 = message.frame clientId sequenceCounter) ∧
    ∀ ttlSeconds, (renewed cfg nowMs tracker).1 =
        some (.subscribeEvent serviceId eventId ttlSeconds) →
      ∃ sent ∈ events.filterMap Event.sdFrame, asksFor serviceId eventId sent.2 = true

theorem World.renewSubscriptions_renews {w : World cfg} {tracker : SubTracker}
    (tracking : Tracking serviceId eventId clientId (· = tracker) w)
    (found : HasFound serviceId w) :
    Renews serviceId eventId clientId nowMs tracker w (w.renewSubscriptions env nowMs) := by
  obtain ⟨_, tracked, rfl⟩ := tracking.tracks
  rename_i tracker
  obtain ⟨provider, address⟩ := Option.isSome_iff_exists.mp (hasFound_iff.mp found)
  have key : SubTracker.key tracker = (serviceId, eventId) := Table.lookup_key tracked
  have service : tracker.serviceId = serviceId := congrArg Prod.fst key
  have turn := @renew_found _ _ nowMs w.rt.sd provider tracker (by rw [service]; exact address)
  have unique : ∀ other ∈ w.rt.sd.subTrackers, SubTracker.key other = (serviceId, eventId) →
      other = tracker := by
    intro other member same
    have looked := Table.Distinct.lookup_of_mem tracking.distinct member
    rw [same] at looked
    exact Option.some.inj (looked.symm.trans tracked)
  have sd := @World.renewSubscriptions_sd _ _ env nowMs w
  constructor
  · constructor
    · rw [sd]
      exact tracking.distinct.map (w.rt.sd.renew_key nowMs) rfl
    · rw [sd, findSubTracker_processSubscriptionRenewals, tracked]
      exact ⟨_, rfl, congrArg Prod.snd turn⟩
    · rw [sd]
      exact tracking.clientId
  · obtain ⟨events, history, fromSends, ofSends⟩ := @World.foldl_unicast_frames _ _ env
      (w.rt.sd.processSubscriptionRenewals nowMs).1 (w.markRenewals nowMs)
    have own : (w.markRenewals nowMs).rt.sd.clientId = clientId := tracking.clientId
    rw [own] at fromSends ofSends
    let pass : Event cfg := .renewals (w.rt.sd.processSubscriptionRenewals nowMs).1 w.rt.sd
      (w.rt.sd.processSubscriptionRenewals nowMs).2
    have whole : (w.renewSubscriptions env nowMs).history = (events ++ [pass]) ++ w.history := by
      rw [List.append_assoc]
      exact history
    have same : (events ++ [pass]).filterMap Event.sdFrame = events.filterMap Event.sdFrame := by
      rw [List.filterMap_append]
      exact List.append_nil _
    refine ⟨events ++ [pass], whole, ?_, ?_⟩
    · rw [same]
      intro sent member asks
      obtain ⟨⟨dest, message⟩, inSends, counter, rfl⟩ := fromSends sent member
      obtain ⟨other, isTracker, active, -, sends⟩ := mem_processSubscriptionRenewals inSends
      have about : SubTracker.key other = (serviceId, eventId) := by
        rcases asksFor_frame asks with ⟨ttl, rfl⟩ | rfl <;>
          rcases renewTracker_message sends with ⟨-, equal⟩ | ⟨-, equal⟩ <;>
          cases equal <;> rfl
      cases unique other isTracker about
      refine ⟨message, counter, ?_, rfl⟩
      rw [renewed, if_pos active]
      exact sends
    · rw [same]
      intro ttlSeconds sends
      have inSends : (provider, SdMessage.subscribeEvent serviceId eventId ttlSeconds) ∈
          (w.rt.sd.processSubscriptionRenewals nowMs).1 := by
        refine List.mem_filterMap.mpr ⟨tracker, Table.lookup_mem tracked, ?_⟩
        rw [turn, sends]
        rfl
      obtain ⟨counter, sent⟩ := ofSends _ inSends (fits_subscribe _ _ _ _)
      exact ⟨_, sent, asksFor_subscribe _ _ _ _ _⟩

/-- Neither before its renewal pass nor after it does a cycle concern the event. -/
structure CycleAround (env : Env cfg) (serviceId eventId clientId : UInt16) (nowMs : UInt32)
    (tracker : SubTracker) (before offered after : World cfg) (older newer : History cfg) :
    Prop where
  tracking : Tracking serviceId eventId clientId (· = tracker) offered
  found : HasFound serviceId offered
  olderHistory : offered.history = older ++ before.history
  olderFrames : ∀ sent ∈ older.filterMap Event.sdFrame, asksFor serviceId eventId sent.2 = false
  newerHistory : after.history = newer ++ (offered.renewSubscriptions env nowMs).history
  newerFrames : ∀ sent ∈ newer.filterMap Event.sdFrame, asksFor serviceId eventId sent.2 = false
  renewed : Tracking serviceId eventId clientId (· = (renewed cfg nowMs tracker).2) after

/-- A whole cycle of a consumer that still has found the service afterwards. -/
theorem World.housekeeping_around {w : World cfg} {tracker : SubTracker}
    (tracking : Tracking serviceId eventId clientId (· = tracker) w)
    (quiet : resubscribes serviceId eventId ((w.housekeeping env nowMs).since w) = false)
    (found : HasFound serviceId (w.housekeeping env nowMs)) :
    ∃ offered older newer, CycleAround env serviceId eventId clientId nowMs tracker w
      offered (w.housekeeping env nowMs) older newer := by
  let offered := (w.timeOut env nowMs).broadcastOffers env nowMs
  let announced := offered.renewSubscriptions env nowMs
  have timedOut : DiscoverySteps env nowMs none w (w.timeOut env nowMs) :=
    timeOut_discoverySteps w
  have first : KeepsTracker serviceId eventId clientId (· = tracker) w offered :=
    (timedOut.keepsTracker (by simp) (by simp)).trans (broadcastOffers_keepsTracker _)
  have rest : DiscoverySteps env nowMs none announced (w.housekeeping env nowMs) :=
    housekeeping_discoverySteps w
  have last : KeepsTracker serviceId eventId clientId (· = (renewed cfg nowMs tracker).2) announced
      (w.housekeeping env nowMs) := rest.keepsTracker (by simp) (by simp)
  have consumers : announced.rt.sd.consumers = offered.rt.sd.consumers := by
    rw [@renewSubscriptions_sd _ _ env nowMs offered]
    rfl
  have stillFound : HasFound serviceId offered := by
    have atPass : HasFound serviceId announced := by
      have keeps : KeepsConsumer serviceId nowMs announced (w.housekeeping env nowMs) :=
        rest.keepsConsumer (by simp)
      exact not_not.mp fun unfound => keeps.unfound unfound found
    obtain ⟨entry, tracked, isFound⟩ := atPass
    rw [findConsumer, consumers] at tracked
    exact ⟨entry, tracked, isFound⟩
  obtain ⟨older, olderEq, firstKeeps⟩ := first
  obtain ⟨newer, newerEq, lastKeeps⟩ := last
  have passes : ∃ events, announced.history = events ++ offered.history := by
    obtain ⟨events, history⟩ := (Steps.suffix
      ((Atomic.markRenewals nowMs offered).steps.trans
        (Runs.foldl (fun _ _ => (Background.sdUnicast _ _ _).steps) _ _)))
    exact ⟨events, history.symm⟩
  obtain ⟨middle, middleEq⟩ := passes
  have whole : (w.housekeeping env nowMs).history = (newer ++ (middle ++ older)) ++ w.history := by
    rw [newerEq, middleEq, olderEq, List.append_assoc, List.append_assoc]
  rw [World.since_eq whole, resubscribes_append, resubscribes_append, Bool.or_eq_false_iff,
    Bool.or_eq_false_iff] at quiet
  obtain ⟨atPass, olderFrames⟩ := firstKeeps quiet.2.2 tracking
  have renews : Renews serviceId eventId clientId nowMs tracker offered announced :=
    renewSubscriptions_renews atPass stillFound
  obtain ⟨after, newerFrames⟩ := lastKeeps quiet.1 renews.tracking
  exact ⟨offered, older, newer, atPass, stillFound, olderEq, olderFrames, newerEq, newerFrames,
    after⟩

/-- What it does about the event is what its renewal pass does. -/
theorem World.housekeeping_renews {w : World cfg} {tracker : SubTracker}
    (tracking : Tracking serviceId eventId clientId (· = tracker) w)
    (quiet : resubscribes serviceId eventId ((w.housekeeping env nowMs).since w) = false)
    (found : HasFound serviceId (w.housekeeping env nowMs)) :
    Renews serviceId eventId clientId nowMs tracker w (w.housekeeping env nowMs) := by
  obtain ⟨offered, older, newer, around⟩ := housekeeping_around tracking quiet found
  have renews : Renews serviceId eventId clientId nowMs tracker offered
    (offered.renewSubscriptions env nowMs) := renewSubscriptions_renews around.tracking around.found
  obtain ⟨middle, middleEq, fromPass, ofPass⟩ := renews.frames
  have whole : (w.housekeeping env nowMs).history = (newer ++ (middle ++ older)) ++ w.history := by
    rw [around.newerHistory, middleEq, around.olderHistory, List.append_assoc, List.append_assoc]
  refine ⟨around.renewed, _, whole, ?_, ?_⟩
  · intro sent member asks
    simp only [List.filterMap_append, List.mem_append] at member
    rcases member with inNewer | inMiddle | inOlder
    · rw [around.newerFrames sent inNewer] at asks
      cases asks
    · exact fromPass sent inMiddle asks
    · rw [around.olderFrames sent inOlder] at asks
      cases asks
  · intro ttlSeconds sends
    obtain ⟨sent, inMiddle, asks⟩ := ofPass ttlSeconds sends
    refine ⟨sent, ?_, asks⟩
    simp only [List.filterMap_append, List.mem_append]
    exact .inr (.inl inMiddle)

end Sero
