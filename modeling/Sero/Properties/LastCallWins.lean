import Sero.Properties.SubscriptionTracker

/-!
# The last call wins

What the application has last said about an event is what the device tells its provider.
`subscribe_event` leaves `needs_unsubscribe` as it was, and an answer to an earlier request
is taken for an answer to the one that is still to be sent: in these two ways a subscription
can be undone by what came before it.
-/

namespace Sero

open Library ServiceDiscovery

variable {n : Nat} {cfg : Config n} {env : Env cfg}

/-! ## What the application has asked for -/

/-- Where a subscription stands: the application does not want it, or no renewal pass has
found the provider since it was asked for, or one has. -/
inductive Wish where
  | unwanted
  | waiting
  | served
  deriving DecidableEq

/-- Where a subscription stands, going by the calls and the renewal passes. -/
def wish (serviceId eventId : UInt16) : History cfg → Wish
  | [] => .unwanted
  | .returned (.subscribeEvent service event ..) (.bool true) :: past =>
      if (service, event) = (serviceId, eventId) then .waiting
      else wish serviceId eventId past
  | .returned (.unsubscribeEvent service event) _ :: past =>
      if (service, event) = (serviceId, eventId) then .unwanted
      else wish serviceId eventId past
  | .renewals _ before _ :: past =>
      if wish serviceId eventId past = .waiting ∧
          (before.getProviderAddress serviceId).isSome = true then .served
      else wish serviceId eventId past
  | _ :: past => wish serviceId eventId past

/-- Would a renewal pass that starts here attend to the event? -/
def attends (serviceId eventId : UInt16) (sd : ServiceDiscovery cfg) : Bool :=
  (sd.getProviderAddress serviceId).isSome &&
    (sd.findSubTracker serviceId eventId).any SubTracker.active

/-- Has no renewal pass attended to the event since it was given up? -/
def unsubscribePending (serviceId eventId : UInt16) : History cfg → Bool
  | [] => false
  | .returned (.unsubscribeEvent service event) (.bool true) :: past =>
      decide ((service, event) = (serviceId, eventId)) ||
        unsubscribePending serviceId eventId past
  | .renewals _ before _ :: past =>
      unsubscribePending serviceId eventId past && !attends serviceId eventId before
  | _ :: past => unsubscribePending serviceId eventId past

/-- Is it an answer that turns the subscription down? -/
def Event.rejects (serviceId eventId : UInt16) : Event cfg → Bool
  | .dispatched source data =>
      match heard cfg source data with
      | some (.ack result granted) =>
          granted.serviceId == serviceId && granted.eventId == eventId && result != .eOk
      | _ => false
  | _ => false

/-- The event is asked for only when no unsubscribe is pending, and no answer turns it down
before it is asked for on the wire. -/
structure Orderly (serviceId eventId : UInt16) (history : History cfg) : Prop where
  settled : ∀ context ttlSeconds nowMs past,
    (.returned (.subscribeEvent serviceId eventId context ttlSeconds nowMs) (.bool true) ::
      past) <:+ history → unsubscribePending serviceId eventId past = false
  answered : ∀ event past, (event :: past) <:+ history →
    event.rejects serviceId eventId = true → wish serviceId eventId past ≠ .waiting

/-- Does a frame with one of these methods name the event? -/
def mentions (methods : List SdMethod) (serviceId eventId : UInt16) (data : Bytes) : Bool :=
  (subscribeFields methods data).any fun request =>
    request.serviceId == serviceId && request.eventId == eventId

/-- While the application wants an event it is not given up, and the first renewal pass
that finds the provider asks for it. -/
structure LastCallWins (serviceId eventId : UInt16) (history : History cfg) : Prop where
  kept : ∀ event past, (event :: past) <:+ history → wish serviceId eventId past ≠ .unwanted →
    ∀ sent, event.sdFrame = some sent → mentions [.unsubscribe] serviceId eventId sent.2 = false
  asked : ∀ (newer : History cfg) (sends : List (Address n × SdMessage n))
      (before after : ServiceDiscovery cfg) (past : History cfg),
    history = newer ++ .renewals sends before after :: past →
    wish serviceId eventId past = .waiting →
    (before.getProviderAddress serviceId).isSome = true →
    (after.findSubTracker serviceId eventId).any SubTracker.active = true ∧
      ∃ later burst, newer = later ++ burst ∧ (∀ event ∈ burst, event.kind = .background) ∧
        ∃ sent ∈ burst.filterMap Event.sdFrame,
          mentions [.subscribeEvent] serviceId eventId sent.2 = true

section Frames

variable {serviceId eventId : UInt16}

theorem asksFor_of_mentions {method : SdMethod} (asks : method ∈ [.subscribeEvent, .unsubscribe])
    {data : Bytes} (named : mentions [method] serviceId eventId data = true) :
    asksFor serviceId eventId data = true := by
  rw [mentions, subscribeFields] at named
  rw [asksFor, subscribeFields]
  split at named
  · next isMethod =>
      have isOne : (MessageHeader.deserialize data).methodEventId ∈
          [SdMethod.subscribeEvent, .unsubscribe].map SdMethod.toId := by
        rw [List.mem_singleton.mp isMethod.2]
        exact List.mem_map_of_mem asks
      rw [if_pos ⟨isMethod.1, isOne⟩]
      exact named
  · cases named

theorem mentions_eq_false {method : SdMethod} (asks : method ∈ [.subscribeEvent, .unsubscribe])
    {data : Bytes} (silent : asksFor serviceId eventId data = false) :
    mentions [method] serviceId eventId data = false := by
  rw [← Bool.not_eq_true] at silent ⊢
  exact fun named => silent (asksFor_of_mentions asks named)

/-- Does a message ask for the event? -/
def SdMessage.asks (serviceId eventId : UInt16) : SdMessage n → Bool
  | .subscribeEvent service event _ => service == serviceId && event == eventId
  | _ => false

/-- Does a message give the event up? -/
def SdMessage.withdraws (serviceId eventId : UInt16) : SdMessage n → Bool
  | .unsubscribe service event => service == serviceId && event == eventId
  | _ => false

theorem mentions_asks (message : SdMessage n) (clientId : UInt16) (sequenceCounter : UInt8) :
    mentions [.subscribeEvent] serviceId eventId (message.frame clientId sequenceCounter) =
      message.asks serviceId eventId := by
  cases message with
  | subscribeEvent service event ttlSeconds =>
      rw [mentions, subscribeFields, SdMessage.frame, deserialize_messageFrame]
      rw [if_pos ⟨rfl, .head _⟩, SdMessage.payload, payloadOf_serializeSubscribe rfl,
        SdPayload.deserializeSubscribe_serializeSubscribe]
      rfl
  | _ =>
      rw [mentions, subscribeFields, SdMessage.frame, deserialize_messageFrame]
      rfl

theorem mentions_withdraws (message : SdMessage n) (clientId : UInt16)
    (sequenceCounter : UInt8) :
    mentions [.unsubscribe] serviceId eventId (message.frame clientId sequenceCounter) =
      message.withdraws serviceId eventId := by
  cases message with
  | unsubscribe service event =>
      rw [mentions, subscribeFields, SdMessage.frame, deserialize_messageFrame]
      rw [if_pos ⟨rfl, .head _⟩, SdMessage.payload, payloadOf_serializeSubscribe rfl,
        SdPayload.deserializeSubscribe_serializeSubscribe]
      rfl
  | _ =>
      rw [mentions, subscribeFields, SdMessage.frame, deserialize_messageFrame]
      rfl

end Frames

/-- No call about the event, no renewal pass, and no frame that asks for it or gives it up. -/
structure Silent (serviceId eventId : UInt16) (events : History cfg) : Prop where
  calls : resubscribes serviceId eventId events = false
  passes : ∀ event ∈ events, event.kind ≠ .markRenewals
  frames : ∀ sent ∈ events.filterMap Event.sdFrame, asksFor serviceId eventId sent.2 = false

section Silent

variable {serviceId eventId : UInt16} {events past : History cfg}

theorem Silent.nil : Silent serviceId eventId ([] : History cfg) :=
  ⟨rfl, by simp, by simp⟩

theorem Silent.tail {event : Event cfg} (silent : Silent serviceId eventId (event :: events)) :
    Silent serviceId eventId events := by
  obtain ⟨calls, passes, frames⟩ := silent
  rw [← List.singleton_append, resubscribes_append, Bool.or_eq_false_iff] at calls
  refine ⟨calls.2, fun other member => passes other (.tail _ member), ?_⟩
  intro sent member
  apply frames sent
  rw [List.filterMap_cons]
  split
  · exact member
  · exact .tail _ member

/-- They change neither where the subscription stands nor what is pending. -/
theorem wish_append (silent : Silent serviceId eventId events) :
    wish serviceId eventId (events ++ past) = wish serviceId eventId past ∧
      unsubscribePending serviceId eventId (events ++ past) =
        unsubscribePending serviceId eventId past := by
  induction events with
  | nil => exact ⟨rfl, rfl⟩
  | cons event rest ih =>
      obtain ⟨tail, pendingTail⟩ := ih silent.tail
      have notCall : resubscribes serviceId eventId [event] = false := by
        have calls := silent.calls
        rw [← List.singleton_append, resubscribes_append, Bool.or_eq_false_iff] at calls
        exact calls.1
      cases event with
      | renewals => exact absurd rfl (silent.passes _ (.head _))
      | returned call result =>
          cases call with
          | subscribeEvent service event context ttl now =>
              have other : (service, event) ≠ (serviceId, eventId) := by
                simpa [resubscribes] using notCall
              rcases result with _ | (_ | _) | _
              · exact ⟨tail, pendingTail⟩
              · exact ⟨tail, pendingTail⟩
              · exact ⟨(if_neg other).trans tail, pendingTail⟩
              · exact ⟨tail, pendingTail⟩
          | unsubscribeEvent service event =>
              have other : (service, event) ≠ (serviceId, eventId) := by
                simpa [resubscribes] using notCall
              refine ⟨(if_neg other).trans tail, ?_⟩
              rcases result with _ | (_ | _) | _
              · exact pendingTail
              · exact pendingTail
              · rw [List.cons_append, unsubscribePending, decide_eq_false other,
                  Bool.false_or]
                exact pendingTail
              · exact pendingTail
          | _ => exact ⟨tail, pendingTail⟩
      | _ => exact ⟨tail, pendingTail⟩

theorem Orderly.of_suffix {earlier later : History cfg}
    (orderly : Orderly serviceId eventId later) (grown : earlier <:+ later) :
    Orderly serviceId eventId earlier where
  settled _ _ _ _ occurs := orderly.settled _ _ _ _ (occurs.trans grown)
  answered _ _ occurs := orderly.answered _ _ (occurs.trans grown)

theorem LastCallWins.cons (wins : LastCallWins serviceId eventId past) {event : Event cfg}
    (notPass : event.kind ≠ .markRenewals)
    (frame : ∀ sent, event.sdFrame = some sent →
      mentions [.unsubscribe] serviceId eventId sent.2 = false) :
    LastCallWins serviceId eventId (event :: past) := by
  constructor
  · intro other before occurs wanted
    rcases List.suffix_cons_iff.mp occurs with same | earlier
    · obtain ⟨rfl, -⟩ := List.cons.inj same
      exact frame
    · exact wins.kept other before earlier wanted
  · intro newer sends before after older occurs waiting found
    cases newer with
    | nil =>
        obtain ⟨rfl, -⟩ := List.cons.inj occurs
        exact absurd rfl notPass
    | cons newest newer =>
        obtain ⟨-, occurs⟩ := List.cons.inj occurs
        obtain ⟨active, later, burst, split, rest⟩ :=
          wins.asked newer sends before after older occurs waiting found
        exact ⟨active, newest :: later, burst, by rw [split, List.cons_append], rest⟩

theorem LastCallWins.append (wins : LastCallWins serviceId eventId past)
    (silent : Silent serviceId eventId events) :
    LastCallWins serviceId eventId (events ++ past) := by
  induction events with
  | nil => exact wins
  | cons event rest ih =>
      refine (ih silent.tail).cons (silent.passes _ (.head _)) fun sent isSent => ?_
      refine mentions_eq_false (by simp) (silent.frames sent ?_)
      rw [List.filterMap_cons, isSent]
      exact .head _

end Silent

/-- Nothing happens but that discovery sends such frames. -/
def Burst (allowed : Option (Address n) × Bytes → Prop) (before after : World cfg) : Prop :=
  ∃ events, after.history = events ++ before.history ∧
    (∀ event ∈ events, event.kind = .background) ∧
    ∀ sent ∈ events.filterMap Event.sdFrame, allowed sent

namespace Burst

variable {allowed : Option (Address n) × Bytes → Prop}

theorem of_traffic {before after : World cfg} (observes : Observes .background before after)
    {frames : List (Option (Address n) × Bytes)}
    (traffic : after.traffic = frames ++ before.traffic)
    (each : ∀ sent ∈ frames, allowed sent) : Burst allowed before after := by
  obtain ⟨events, history, kinds⟩ := observes
  have same := List.append_cancel_right ((World.traffic_append history).symm.trans traffic)
  refine ⟨events, history, fun event member => (kinds event member).elim id id, ?_⟩
  rw [same]
  exact each

theorem broadcast {message : SdMessage n} {w : World cfg}
    (each : ∀ sequenceCounter, allowed (none, message.frame w.rt.sd.clientId sequenceCounter)) :
    Burst allowed w (w.sendSdBroadcast env message) := by
  have observes := (@World.sendSdBroadcast_core _ _ env message w).history
  by_cases room : message.Fits cfg w.rt.sd.clientId
  · have traffic : (w.sendSdBroadcast env message).traffic =
        [(none, message.frame w.rt.sd.clientId w.rt.sdSeq)] ++ w.traffic :=
      sendSdBroadcast_traffic room
    apply of_traffic observes traffic
    intro sent member
    cases List.mem_singleton.mp member
    exact each _
  · refine @of_traffic _ _ _ _ _ observes [] ?_ (by simp)
    rw [World.sendSdBroadcast, if_pos (Nat.not_le.mp room)]
    rfl

theorem unicast (dest : Address n) {message : SdMessage n} {w : World cfg}
    (each : ∀ sequenceCounter,
      allowed (some dest, message.frame w.rt.sd.clientId sequenceCounter)) :
    Burst allowed w (w.sendSdUnicast env dest message) := by
  have observes := (@World.sendSdUnicast_core _ _ env dest message w).history
  by_cases room : message.Fits cfg w.rt.sd.clientId
  · have traffic : (w.sendSdUnicast env dest message).traffic =
        [(some dest, message.frame w.rt.sd.clientId w.rt.sdSeq)] ++ w.traffic :=
      sendSdUnicast_traffic dest room
    apply of_traffic observes traffic
    intro sent member
    cases List.mem_singleton.mp member
    exact each _
  · refine @of_traffic _ _ _ _ _ observes [] ?_ (by simp)
    rw [World.sendSdUnicast, if_pos (Nat.not_le.mp room)]
    rfl

theorem trans {first second third : World cfg} (left : Burst allowed first second)
    (right : Burst allowed second third) : Burst allowed first third := by
  obtain ⟨older, olderEq, olderKinds, olderFrames⟩ := left
  obtain ⟨newer, newerEq, newerKinds, newerFrames⟩ := right
  refine ⟨newer ++ older, by rw [newerEq, olderEq, List.append_assoc], ?_, ?_⟩
  · intro event member
    exact (List.mem_append.mp member).elim (newerKinds event) (olderKinds event)
  · rw [List.filterMap_append]
    intro sent member
    exact (List.mem_append.mp member).elim (newerFrames sent) (olderFrames sent)

theorem foldl {α : Type} {body : World cfg → α → World cfg} (items : List α)
    (each : ∀ w, ∀ item ∈ items, Burst allowed w (body w item)) (w : World cfg) :
    Burst allowed w (items.foldl body w) := by
  induction items generalizing w with
  | nil => exact ⟨[], rfl, by simp, by simp⟩
  | cons item rest ih =>
      exact (each w item (.head _)).trans
        (ih (fun w other member => each w other (.tail _ member)) _)

end Burst

/-! ## What a step does about a subscription -/

/-- What giving an event up writes to its tracker. -/
def SubTracker.withdraw (tracker : SubTracker) : SubTracker :=
  { tracker with appRegistered := false, needsUnsubscribe := true }

/-- What a step does about an event, if it is neither an answer nor a renewal pass. -/
inductive Concerns (serviceId eventId : UInt16) (before after : World cfg) : Prop where
  | silent {events : History cfg} (history : after.history = events ++ before.history)
      (silent : Silent serviceId eventId events)
      (tracker : after.rt.sd.findSubTracker serviceId eventId =
          before.rt.sd.findSubTracker serviceId eventId ∨
        ∃ service nowMs, after.rt.sd.findSubTracker serviceId eventId =
          (before.rt.sd.findSubTracker serviceId eventId).map
            (SubTracker.flagged service nowMs))
  | subscribed (context : Nat) (ttlSeconds : UInt16) (nowMs : UInt32)
      (history : after.history =
        .returned (.subscribeEvent serviceId eventId context ttlSeconds nowMs) (.bool true) ::
          before.history)
      (tracker : after.rt.sd.findSubTracker serviceId eventId =
        some (SubTracker.subscribe serviceId eventId ttlSeconds nowMs
          ((before.rt.sd.findSubTracker serviceId eventId).getD {})))
  | refused (context : Nat) (ttlSeconds : UInt16) (nowMs : UInt32)
      (history : after.history =
        .returned (.subscribeEvent serviceId eventId context ttlSeconds nowMs) (.bool false) ::
          before.history)
      (tracker : after.rt.sd.findSubTracker serviceId eventId =
        before.rt.sd.findSubTracker serviceId eventId)
  | unsubscribed
      (history : after.history = .returned (.unsubscribeEvent serviceId eventId)
        (.bool (before.rt.sd.findSubTracker serviceId eventId).isSome) :: before.history)
      (tracker : after.rt.sd.findSubTracker serviceId eventId =
        (before.rt.sd.findSubTracker serviceId eventId).map SubTracker.withdraw)

section Steps

variable {serviceId eventId : UInt16}

/-- A step that sends no discovery frame, calls nothing about the event and leaves its
tracker. -/
theorem Concerns.of_same {before after : World cfg} {events : History cfg}
    (history : after.history = events ++ before.history)
    (traffic : after.traffic = before.traffic)
    (others : resubscribes serviceId eventId events = false)
    (passes : ∀ event ∈ events, event.kind ≠ .markRenewals)
    (same : after.rt.sd.findSubTracker serviceId eventId =
      before.rt.sd.findSubTracker serviceId eventId) :
    Concerns serviceId eventId before after := by
  have frames := List.append_cancel_right ((World.traffic_append history).symm.trans
    (traffic.trans (List.nil_append _).symm))
  refine .silent history ⟨others, passes, ?_⟩ (.inl same)
  rw [frames]
  simp

/-- What is not a call that writes subscriptions says nothing about them. -/
theorem resubscribes_of_kinds {events : History cfg}
    (noCalls : ∀ event ∈ events, event.kind ≠ .perform) :
    resubscribes serviceId eventId events = false := by
  rw [resubscribes, List.any_eq_false]
  intro event member
  have notCall := noCalls event member
  cases event with
  | returned call result =>
      cases call with
      | subscribeEvent | unsubscribeEvent => exact absurd rfl notCall
      | _ => exact Bool.false_ne_true
  | _ => exact Bool.false_ne_true

/-- Subscribing succeeds as far as discovery does. -/
theorem World.subscribeEvent_outcome (service event : UInt16) (context : Nat)
    (ttlSeconds : UInt16) (nowMs : UInt32) (w : World cfg) :
    let after := w.subscribeEvent service event context ttlSeconds nowMs
    after.1 = false ∧ after.2.rt.sd = w.rt.sd ∨
      after.1 = true ∧ (w.rt.sd.subscribeEvent service event ttlSeconds nowMs).1 = true ∧
        after.2.rt.sd = (w.rt.sd.subscribeEvent service event ttlSeconds nowMs).2 := by
  rw [subscribeEvent, registerEventHandler]
  cases Table.upsert (handlesEvent service event)
      (fun _ => { serviceId := service, eventId := event, context })
      { serviceId := service, eventId := event, context }
      (cfg.maxKnownServices * cfg.maxEvents) w.rt.eventHandlers with
  | none => exact .inl ⟨rfl, rfl⟩
  | some handlers =>
      cases accepted : (w.rt.sd.subscribeEvent service event ttlSeconds nowMs).1 with
      | false => exact .inl ⟨accepted, subscribeEvent_refused accepted⟩
      | true => exact .inr ⟨accepted, rfl, rfl⟩

theorem Burst.concerns {before after : World cfg}
    (burst : Burst (fun sent => asksFor serviceId eventId sent.2 = false) before after)
    (same : after.rt.sd.findSubTracker serviceId eventId =
      before.rt.sd.findSubTracker serviceId eventId) :
    Concerns serviceId eventId before after := by
  obtain ⟨events, history, kinds, frames⟩ := burst
  refine .silent history ⟨resubscribes_of_kinds ?_, ?_, frames⟩ (.inl same)
  · intro event member
    simp [kinds event member]
  · intro event member
    simp [kinds event member]

theorem World.perform_concerns {call : ApiCall cfg} (isLocal : call.isLocal = true)
    (w : World cfg) : Concerns serviceId eventId w (w.perform env id call) := by
  have traffic : (w.perform env id call).traffic = w.traffic :=
    World.apiCall_traffic id isLocal w
  obtain ⟨quiet, called, background⟩ := (@World.apiCall_same _ _ env id call isLocal w).history
  have performed : (w.perform env id call).history =
      (.returned call (w.apiCall env id call).1 :: quiet) ++ w.history :=
    congrArg (List.cons _) called
  have kinds : ∀ event ∈ .returned call (w.apiCall env id call).1 :: quiet,
      event.kind ≠ .markRenewals := by
    intro event member
    rcases List.mem_cons.mp member with rfl | inQuiet
    · simp [Event.kind, isLocal]
    · exact Event.kind_ne background (by simp) (by simp) event inQuiet
  have calls : resubscribes serviceId eventId
        [.returned call (w.apiCall env id call).1] = false →
      resubscribes serviceId eventId (.returned call (w.apiCall env id call).1 :: quiet) =
        false := by
    intro other
    rw [← List.singleton_append, resubscribes_append, other, Bool.false_or]
    exact resubscribes_of_kinds (Event.kind_ne background (by simp) (by simp))
  cases writes : call.writesTrackers with
  | false =>
      have trackers := @World.apiCall_subTrackers _ _ env id call isLocal writes w
      refine .of_same performed traffic (calls ?_) kinds ?_
      · cases call with
        | subscribeEvent | unsubscribeEvent => cases writes
        | _ => rfl
      · exact congrArg (Table.lookup SubTracker.key (serviceId, eventId)) trackers
  | true =>
      cases call with
      | subscribeEvent service event context ttl now =>
          have history :
              (w.perform env id (.subscribeEvent service event context ttl now)).history =
              .returned (.subscribeEvent service event context ttl now)
                (.bool (w.subscribeEvent service event context ttl now).1) :: w.history :=
            congrArg (List.cons _) (w.subscribeEvent_history service event context ttl now)
          have outcome := w.subscribeEvent_outcome service event context ttl now
          by_cases same : (service, event) = (serviceId, eventId)
          · cases same
            rcases outcome with ⟨no, sd⟩ | ⟨yes, accepted, sd⟩
            · rw [no] at history
              exact .refused context ttl now history
                (congrArg (ServiceDiscovery.findSubTracker · serviceId eventId) sd)
            · rw [yes] at history
              have looked := findSubTracker_subscribeEvent accepted serviceId eventId
              rw [if_pos rfl, ← sd] at looked
              exact .subscribed context ttl now history looked
          · refine .of_same performed traffic (calls ?_) kinds ?_
            · simpa [resubscribes] using same
            · change (w.subscribeEvent service event context ttl now).2.rt.sd.findSubTracker
                serviceId eventId = _
              rcases outcome with ⟨-, sd⟩ | ⟨-, accepted, sd⟩
              · rw [sd]
              · rw [sd, findSubTracker_subscribeEvent accepted, if_neg (Ne.symm same)]
      | unsubscribeEvent service event =>
          have looked := findSubTracker_updateSubTracker w.rt.sd service event
            SubTracker.unsubscribe_key serviceId eventId
          by_cases same : (service, event) = (serviceId, eventId)
          · cases same
            rw [if_pos rfl] at looked
            exact .unsubscribed rfl looked
          · rw [if_neg (Ne.symm same)] at looked
            refine .of_same performed traffic (calls ?_) kinds looked
            simpa [resubscribes] using same
      | _ => cases writes

theorem PlainStep.concerns {before after : World cfg} (step : PlainStep env before after) :
    Concerns serviceId eventId before after := by
  have traffic := step.traffic
  have quiet : ∀ {kind}, Observes kind before after → kind ≠ .perform → kind ≠ .markRenewals →
      after.rt.sd = before.rt.sd → Concerns serviceId eventId before after := by
    intro kind observes notCall notPass same
    obtain ⟨events, history, kinds⟩ := observes
    refine .of_same history traffic (resubscribes_of_kinds ?_) ?_ (by rw [same])
    · exact Event.kind_ne kinds notCall (by simp)
    · exact Event.kind_ne kinds notPass (by simp)
  cases step with
  | count counter header =>
      have core := World.increment_core counter header before
      exact quiet core.history (by simp) (by simp) core.sd
  | storeDtcs | fillResponse =>
      exact quiet (Observes.none .background rfl) (by simp) (by simp) rfl
  | @own kind _ _ isPlain step =>
      have same := step.frame.sd
      cases kind with
      | background | sdWrite | markRenewals => cases isPlain
      | perform =>
          cases step with
          | perform isLocal => exact World.perform_concerns isLocal before
      | _ => exact quiet step.observes (by simp) (by simp) (same (by simp))

variable {nowMs : UInt32} {asked : Option (SdRequest n)}

theorem DiscoveryStep.concerns {before after : World cfg}
    (step : DiscoveryStep env nowMs asked before after)
    (notAck : ∀ result granted, asked ≠ some (.ack result granted)) :
    Concerns serviceId eventId before after := by
  have silent : after.history = before.history →
      after.rt.sd.findSubTracker serviceId eventId =
        before.rt.sd.findSubTracker serviceId eventId →
      Concerns serviceId eventId before after :=
    fun history same => .of_same (history.trans (List.nil_append _).symm)
      (World.traffic_of_history history) rfl (by simp) same
  cases step with
  | plain step => exact step.concerns
  | startCycle | evictSubscribers | unsubscribeRequest | recordOffer | markFound |
      expireConsumer | giveUpFind | scheduleRetry => exact silent rfl rfl
  | sendFind wanted =>
      have same := (@World.sendSdBroadcast_core _ _ env (.find wanted) before).sd
      exact Burst.concerns (.broadcast fun _ => asksFor_find _ _ _) (by rw [same])
  | @answerFind source _ message _ _ offered =>
      have same := (@World.sendSdUnicast_core _ _ env source message before).sd
      obtain ⟨entry, -, rfl⟩ := List.mem_map.mp offered
      exact Burst.concerns (.unicast _ fun _ => asksFor_offer _ _ _ _) (by rw [same])
  | @subscribeRequest source hdr request =>
      have core := @World.handleSubscribeRequest_core _ _ env source hdr request nowMs before
      have traffic := @World.handleSubscribeRequest_traffic _ _ env source hdr request nowMs
        before
      refine Burst.concerns (.of_traffic core.history
        (traffic.trans List.singleton_append.symm) ?_) (by rw [core.sd])
      intro sent member
      cases List.mem_singleton.mp member
      exact asksFor_ackFrame _ _
  | @flagResubscribe offer offers =>
      exact .silent (List.nil_append _).symm .nil (.inr ⟨offer.serviceId, nowMs,
        before.rt.sd.findSubTracker_flagResubscribe offer.serviceId nowMs serviceId eventId⟩)
  | @recordAck result granted acks => exact absurd acks (notAck result granted)

theorem World.broadcastOffers_subTrackers (nowMs : UInt32) (w : World cfg) :
    (w.broadcastOffers env nowMs).rt.sd.subTrackers = w.rt.sd.subTrackers := by
  rw [World.broadcastOffers_sd]
  rfl

theorem World.broadcastOffers_concerns (nowMs : UInt32) (w : World cfg) :
    Concerns serviceId eventId w (w.broadcastOffers env nowMs) := by
  have written : Burst (fun sent => asksFor serviceId eventId sent.2 = false) w
      { w with rt := { w.rt with sd := (w.rt.sd.processOffers nowMs).2 } } :=
    ⟨[], rfl, by simp, by simp⟩
  have each : ∀ state : World cfg, ∀ message ∈ (w.rt.sd.processOffers nowMs).1,
      Burst (fun sent => asksFor serviceId eventId sent.2 = false) state
        (state.sendSdBroadcast env message) := by
    intro state message member
    obtain ⟨entry, -, rfl⟩ := List.mem_map.mp member
    exact .broadcast fun _ => asksFor_offer _ _ _ _
  apply Burst.concerns (written.trans (Burst.foldl _ each _))
  exact congrArg (Table.lookup SubTracker.key (serviceId, eventId))
    (w.broadcastOffers_subTrackers nowMs)

end Steps

/-- A step of discovery, an answer to a subscription, or one of the two passes that send
what they have decided. -/
inductive SubscriptionMove (env : Env cfg) : World cfg → World cfg → Prop where
  | step {nowMs : UInt32} {asked : Option (SdRequest n)} {before after : World cfg}
      (step : DiscoveryStep env nowMs asked before after)
      (notAck : ∀ result granted, asked ≠ some (.ack result granted)) :
      SubscriptionMove env before after
  | answer {source : Address n} {data : Bytes} {result : ReturnCode}
      {granted : SdPayload.Subscribe} {w : World cfg}
      (hears : heard cfg source data = some (.ack result granted))
      (current : w.history.head? = some (.dispatched source data)) :
      SubscriptionMove env w (World.sdLens.modify (fun sd =>
        sd.recordAck granted.serviceId granted.eventId result granted.ttlSeconds) w)
  | offers (nowMs : UInt32) (w : World cfg) :
      SubscriptionMove env w (w.broadcastOffers env nowMs)
  | renewals (nowMs : UInt32) (w : World cfg) :
      SubscriptionMove env w (w.renewSubscriptions env nowMs)

abbrev SubscriptionMoves (env : Env cfg) : World cfg → World cfg → Prop :=
  Relation.ReflTransGen (SubscriptionMove env)

theorem DiscoverySteps.moves {nowMs : UInt32} {asked : Option (SdRequest n)}
    {before after : World cfg} (steps : DiscoverySteps env nowMs asked before after)
    (notAck : ∀ result granted, asked ≠ some (.ack result granted)) :
    SubscriptionMoves env before after :=
  steps.lift id fun _ _ step => .step step notAck

namespace World

theorem receive_moves (source : Address n) (data : Bytes) (nowMs : UInt32) (w : World cfg) :
    SubscriptionMoves env w (w.validateAndDispatch env source data nowMs) := by
  by_cases isAck : ∃ result granted, heard cfg source data = some (.ack result granted)
  · obtain ⟨result, granted, hears⟩ := isAck
    have validated : DiscoverySteps env nowMs none w (w.validate source data).2 :=
      ((Atomic.validate source data w).plainSteps rfl).discoverySteps
    rw [validateAndDispatch]
    rcases outcome : w.validate source data with ⟨passed, after⟩
    rw [outcome] at validated
    refine (validated.moves (by simp)).trans ?_
    cases passed with
    | none => exact .refl
    | some hdr =>
        have accepted := validate_accepted outcome
        have decoded := hears
        rw [heard, accepted.checked] at decoded
        dsimp only at decoded
        split at decoded
        · next sd =>
            simp only [dispatchMessage, if_pos sd, handleSdMessage_eq, decoded]
            refine Relation.ReflTransGen.head (.answer hears accepted.current) ?_
            rw [SdRequest.handle, handleSubscribeAck]
            split
            · have told : ∀ w : World cfg, DiscoverySteps env nowMs none w
                  ((sdHooks env).onSubscriptionAck granted.serviceId granted.eventId result
                    granted.ttlSeconds w) :=
                fun w => (callback_steps (by simp) w).discoverySteps
              exact (told _).moves (by simp)
            · exact .refl
        · cases decoded
  · have received : DiscoverySteps env nowMs (heard cfg source data) w _ :=
      receive_discoverySteps source data w
    exact received.moves fun result granted isAnswer => isAck ⟨result, granted, isAnswer⟩

theorem housekeeping_moves (nowMs : UInt32) (w : World cfg) :
    SubscriptionMoves env w (w.housekeeping env nowMs) := by
  have timedOut : DiscoverySteps env nowMs none w (w.timeOut env nowMs) :=
    timeOut_discoverySteps w
  have rest : DiscoverySteps env nowMs none ((w.timeOut env nowMs).announce env nowMs)
      (w.housekeeping env nowMs) := housekeeping_discoverySteps w
  exact ((timedOut.moves (by simp)).tail (.offers nowMs _)).tail (.renewals nowMs _) |>.trans
    (rest.moves (by simp))

theorem step_moves (w : World cfg) (move : Move cfg) :
    SubscriptionMoves env w (w.step env move) := by
  cases move with
  | api call =>
      have steps : DiscoverySteps env 0 none w _ := perform_discoverySteps call w
      exact steps.moves (by simp)
  | start nowMs => exact .single (.step (.startCycle w) (by simp : ∀ _ _, none ≠ some _))
  | deliver source data nowMs => exact receive_moves source data nowMs w
  | housekeeping nowMs => exact housekeeping_moves nowMs w

theorem run_moves (moves : List (Move cfg)) (w : World cfg) :
    SubscriptionMoves env w (run env moves w) :=
  Runs.foldl step_moves moves w

end World

/-- The tracker of an event says what the application has last said about it. -/
structure Follows (serviceId eventId : UInt16) (w : World cfg) : Prop where
  distinct : w.rt.sd.DistinctTrackers
  pending : ∀ tracker, w.rt.sd.findSubTracker serviceId eventId = some tracker →
    tracker.needsUnsubscribe = true → unsubscribePending serviceId eventId w.history = true
  wanted : Orderly serviceId eventId w.history → wish serviceId eventId w.history ≠ .unwanted →
    ∃ tracker, w.rt.sd.findSubTracker serviceId eventId = some tracker ∧
      tracker.needsUnsubscribe = false ∧
      (wish serviceId eventId w.history = .waiting →
        tracker.active = true ∧ tracker.needsSend = true)
  wins : Orderly serviceId eventId w.history → LastCallWins serviceId eventId w.history

namespace Follows

variable {serviceId eventId : UInt16} {before after : World cfg}

theorem initial (clientId : UInt16) :
    Follows serviceId eventId (World.initial cfg clientId) where
  distinct := List.nodup_nil
  pending _ tracked := by cases tracked
  wanted _ isWanted := absurd rfl isWanted
  wins _ := by
    constructor
    · intro event past occurs
      cases List.suffix_nil.mp occurs
    · intro newer sends first last past occurs
      cases newer <;> cases occurs

/-- Flagging a tracker for another request keeps what the application wants of it. -/
theorem flagged_needsUnsubscribe (service : UInt16) (nowMs : UInt32) (tracker : SubTracker) :
    (SubTracker.flagged service nowMs tracker).needsUnsubscribe = tracker.needsUnsubscribe := by
  rw [SubTracker.flagged]
  split <;> rfl

theorem acknowledge_needsUnsubscribe (result : ReturnCode) (grantedTtl : UInt16)
    (tracker : SubTracker) :
    (SubTracker.acknowledge result grantedTtl tracker).needsUnsubscribe =
      tracker.needsUnsubscribe := by
  rw [SubTracker.acknowledge]
  repeat' split
  all_goals rfl

/-- A step that keeps what the application wants of the tracker. -/
theorem keep (follows : Follows serviceId eventId before)
    (distinct : after.rt.sd.DistinctTrackers) (grown : before.history <:+ after.history)
    (wishes : wish serviceId eventId after.history = wish serviceId eventId before.history)
    (pendings : unsubscribePending serviceId eventId after.history =
      unsubscribePending serviceId eventId before.history)
    (wins : LastCallWins serviceId eventId before.history →
      LastCallWins serviceId eventId after.history) {update : SubTracker → SubTracker}
    (tracker : after.rt.sd.findSubTracker serviceId eventId =
      (before.rt.sd.findSubTracker serviceId eventId).map update)
    (kept : ∀ tracker, (update tracker).needsUnsubscribe = tracker.needsUnsubscribe)
    (waits : ∀ tracker, Orderly serviceId eventId before.history →
      wish serviceId eventId before.history = .waiting →
      tracker.active = true ∧ tracker.needsSend = true →
      (update tracker).active = true ∧ (update tracker).needsSend = true) :
    Follows serviceId eventId after := by
  refine ⟨distinct, ?_, ?_, fun orderly => wins (follows.wins (orderly.of_suffix grown))⟩
  · intro last tracked needs
    rw [tracker] at tracked
    obtain ⟨old, wasTracked, rfl⟩ := Option.map_eq_some_iff.mp tracked
    rw [pendings]
    exact follows.pending old wasTracked (kept old ▸ needs)
  · intro orderly isWanted
    rw [wishes] at isWanted ⊢
    have earlier := orderly.of_suffix grown
    obtain ⟨old, wasTracked, needsNot, waiting⟩ := follows.wanted earlier isWanted
    rw [wasTracked] at tracker
    exact ⟨update old, tracker, (kept old).trans needsNot, fun isWaiting =>
      waits old earlier isWaiting (waiting isWaiting)⟩

/-- A call about the event. -/
theorem concerned (follows : Follows serviceId eventId before)
    (distinct : after.rt.sd.DistinctTrackers) (concerns : Concerns serviceId eventId before after) :
    Follows serviceId eventId after := by
  cases concerns with
  | silent history silent tracker =>
      obtain ⟨wishes, pendings⟩ := @wish_append _ _ _ _ _ before.history silent
      rw [← history] at wishes pendings
      have wins : LastCallWins serviceId eventId before.history →
          LastCallWins serviceId eventId after.history := by
        rw [history]
        exact fun wins => wins.append silent
      rcases tracker with same | ⟨service, nowMs, flagged⟩
      · exact follows.keep distinct ⟨_, history.symm⟩ wishes pendings wins
          (same.trans Option.map_id'.symm) (fun _ => rfl) fun _ _ _ waits => waits
      · apply follows.keep distinct ⟨_, history.symm⟩ wishes pendings wins flagged
          (flagged_needsUnsubscribe _ _)
        intro tracker _ _ waits
        rw [SubTracker.flagged]
        split
        · exact ⟨rfl, rfl⟩
        · exact waits
  | subscribed context ttlSeconds nowMs history tracker =>
      have wishes : wish serviceId eventId after.history = .waiting := by
        rw [history, wish, if_pos rfl]
      have pendings : unsubscribePending serviceId eventId after.history =
          unsubscribePending serviceId eventId before.history := by
        rw [history]
        rfl
      have stays : (SubTracker.subscribe serviceId eventId ttlSeconds nowMs
          ((before.rt.sd.findSubTracker serviceId eventId).getD {})).needsUnsubscribe = true →
          unsubscribePending serviceId eventId before.history = true := by
        intro needs
        cases known : before.rt.sd.findSubTracker serviceId eventId with
        | none =>
            rw [known] at needs
            cases needs
        | some old =>
            rw [known] at needs
            exact follows.pending old known needs
      refine ⟨distinct, ?_, ?_, ?_⟩
      · intro last tracked needs
        rw [tracker] at tracked
        cases tracked
        rw [pendings]
        exact stays needs
      · intro orderly _
        have settled := orderly.settled context ttlSeconds nowMs before.history
          (history ▸ List.suffix_refl _)
        refine ⟨_, tracker, ?_, fun _ => ⟨rfl, rfl⟩⟩
        rw [← Bool.not_eq_true]
        intro needs
        rw [stays needs] at settled
        cases settled
      · intro orderly
        have grown : before.history <:+ after.history := history ▸ List.suffix_cons _ _
        rw [history]
        exact (follows.wins (orderly.of_suffix grown)).cons
          (by simp [Event.kind, ApiCall.isLocal]) fun _ isSent => by cases isSent
  | refused context ttlSeconds nowMs history tracker =>
      refine follows.keep distinct (history ▸ List.suffix_cons _ _) ?_ ?_ ?_
        (tracker.trans Option.map_id'.symm) (fun _ => rfl) fun _ _ _ waits => waits
      · rw [history]
        rfl
      · rw [history]
        rfl
      · rw [history]
        exact fun wins => wins.cons (by simp [Event.kind, ApiCall.isLocal])
          fun _ isSent => by cases isSent
  | unsubscribed history tracker =>
      have grown : before.history <:+ after.history := history ▸ List.suffix_cons _ _
      refine ⟨distinct, ?_, ?_, ?_⟩
      · intro last tracked _
        rw [tracker] at tracked
        obtain ⟨old, known, -⟩ := Option.map_eq_some_iff.mp tracked
        rw [history, known]
        exact Bool.or_eq_true_iff.mpr (.inl (decide_eq_true rfl))
      · intro _ isWanted
        rw [history, wish, if_pos rfl] at isWanted
        exact absurd rfl isWanted
      · intro orderly
        rw [history]
        exact (follows.wins (orderly.of_suffix grown)).cons (by simp [Event.kind, ApiCall.isLocal])
          fun _ isSent => by cases isSent

/-- An answer. -/
theorem answer {source : Address n} {data : Bytes} {result : ReturnCode}
    {granted : SdPayload.Subscribe} (follows : Follows serviceId eventId before)
    (hears : heard cfg source data = some (.ack result granted))
    (current : before.history.head? = some (.dispatched source data)) :
    Follows serviceId eventId (World.sdLens.modify (fun sd =>
      sd.recordAck granted.serviceId granted.eventId result granted.ttlSeconds) before) := by
  have distinct := follows.distinct.updateSubTracker granted.serviceId granted.eventId
    (SubTracker.acknowledge_key result granted.ttlSeconds)
  have looked := findSubTracker_recordAck before.rt.sd granted.serviceId granted.eventId result
    granted.ttlSeconds serviceId eventId
  by_cases same : (serviceId, eventId) = (granted.serviceId, granted.eventId)
  · rw [if_pos same] at looked
    refine @keep _ _ _ _ before (World.sdLens.modify _ before) follows distinct
      (List.suffix_refl _) rfl rfl id _ looked
      (acknowledge_needsUnsubscribe result granted.ttlSeconds) ?_
    · rintro tracker orderly waiting ⟨active, needs⟩
      by_cases accepted : result = .eOk
      · rw [SubTracker.acknowledge, if_pos active, if_pos accepted]
        exact ⟨active, needs⟩
      · -- the condition: nothing has been asked for on the wire that this could answer
        obtain ⟨past, history⟩ := List.head?_eq_some_iff.mp current
        have rejects : (Event.dispatched source data : Event cfg).rejects serviceId eventId =
            true := by
          cases same
          simp [Event.rejects, hears, accepted]
        rw [history] at orderly waiting
        exact absurd waiting (orderly.answered _ past (List.suffix_refl _) rejects)
  · rw [if_neg same] at looked
    exact @keep _ _ _ _ before (World.sdLens.modify _ before) follows distinct
      (List.suffix_refl _) rfl rfl id _ (looked.trans Option.map_id'.symm) (fun _ => rfl)
      fun _ _ _ waits => waits

end Follows

/-! ## Renewal passes -/

section Pass

variable {serviceId eventId : UInt16} {burst past : History cfg}

theorem wish_background (kinds : ∀ event ∈ burst, event.kind = .background) :
    wish serviceId eventId (burst ++ past) = wish serviceId eventId past ∧
      unsubscribePending serviceId eventId (burst ++ past) =
        unsubscribePending serviceId eventId past := by
  induction burst with
  | nil => exact ⟨rfl, rfl⟩
  | cons event rest ih =>
      have tail := ih fun other member => kinds other (.tail _ member)
      have background := kinds event (.head _)
      cases event with
      | renewals => cases background
      | returned call result => cases call <;> cases background
      | _ => exact tail

/-- A pass that asks for what is waited for and gives up nothing that is wanted. -/
theorem LastCallWins.pass (wins : LastCallWins serviceId eventId past)
    {sends : List (Address n × SdMessage n)} {before after : ServiceDiscovery cfg}
    (kinds : ∀ event ∈ burst, event.kind = .background)
    (kept : wish serviceId eventId past ≠ .unwanted → ∀ sent ∈ burst.filterMap Event.sdFrame,
      mentions [.unsubscribe] serviceId eventId sent.2 = false)
    (asked : wish serviceId eventId past = .waiting →
      (before.getProviderAddress serviceId).isSome = true →
      (after.findSubTracker serviceId eventId).any SubTracker.active = true ∧
        ∃ sent ∈ burst.filterMap Event.sdFrame,
          mentions [.subscribeEvent] serviceId eventId sent.2 = true) :
    LastCallWins serviceId eventId (burst ++ .renewals sends before after :: past) := by
  constructor
  · rintro event earlier ⟨newer, occurs⟩ wanted sent isSent
    rcases List.append_eq_append_iff.mp occurs with ⟨middle, inBurst, rest⟩ | ⟨middle, -, rest⟩
    · cases middle with
      | nil =>
          obtain ⟨rfl, -⟩ := List.cons.inj rest
          cases isSent
      | cons head tail =>
          obtain ⟨rfl, rfl⟩ := List.cons.inj rest
          have older : ∀ event ∈ tail, event.kind = .background := by
            intro other member
            exact kinds other (by simp [inBurst, member])
          change wish serviceId eventId (tail ++ _ :: past) ≠ _ at wanted
          rw [(wish_background older).1] at wanted
          refine kept ?_ sent (List.mem_filterMap.mpr ⟨event, by simp [inBurst], isSent⟩)
          intro unwanted
          apply wanted
          rw [wish, unwanted]
          rfl
    · cases middle with
      | nil =>
          obtain ⟨rfl, -⟩ := List.cons.inj rest
          cases isSent
      | cons head tail =>
          obtain ⟨-, rest⟩ := List.cons.inj rest
          exact wins.kept event earlier ⟨tail, rest.symm⟩ wanted sent isSent
  · intro newer sent first last earlier occurs waiting found
    rcases List.append_eq_append_iff.mp occurs with ⟨middle, later, rest⟩ | ⟨middle, inBurst, rest⟩
    · cases middle with
      | nil =>
          obtain ⟨same, rfl⟩ := List.cons.inj rest
          cases same
          obtain ⟨active, frame⟩ := asked waiting found
          refine ⟨active, [], burst, ?_, kinds, frame⟩
          rw [later, List.append_nil, List.nil_append]
      | cons head tail =>
          obtain ⟨rfl, inPast⟩ := List.cons.inj rest
          obtain ⟨active, newest, answer, split, frame⟩ :=
            wins.asked tail sent first last earlier inPast waiting found
          refine ⟨active, burst ++ .renewals sends before after :: newest, answer, ?_, frame⟩
          rw [later, split, List.append_assoc, List.cons_append]
    · cases middle with
      | nil =>
          obtain ⟨same, rfl⟩ := List.cons.inj rest
          cases same
          obtain ⟨active, frame⟩ := asked waiting found
          refine ⟨active, [], burst, ?_, kinds, frame⟩
          rw [inBurst, List.append_nil, List.nil_append]
      | cons head tail =>
          obtain ⟨rfl, -⟩ := List.cons.inj rest
          cases kinds _ (by rw [inBurst]; exact List.mem_append_right _ (.head _))

end Pass

/-- Everything a renewal pass observes. -/
theorem World.renewSubscriptions_burst (nowMs : UInt32) (w : World cfg) :
    let sends := (w.rt.sd.processSubscriptionRenewals nowMs).1
    ∃ burst : History cfg,
      (w.renewSubscriptions env nowMs).history =
        burst ++ .renewals sends w.rt.sd (w.rt.sd.processSubscriptionRenewals nowMs).2 ::
          w.history ∧
      (∀ event ∈ burst, event.kind = .background) ∧
      (∀ sent ∈ burst.filterMap Event.sdFrame, ∃ send ∈ sends, ∃ sequenceCounter,
        sent = (some send.1, send.2.frame w.rt.sd.clientId sequenceCounter)) ∧
      ∀ send ∈ sends, send.2.Fits cfg w.rt.sd.clientId → ∃ sequenceCounter,
        (some send.1, send.2.frame w.rt.sd.clientId sequenceCounter) ∈
          burst.filterMap Event.sdFrame := by
  intro sends
  obtain ⟨events, history, fromSends, ofSends⟩ := @World.foldl_unicast_frames _ _ env sends
    (w.markRenewals nowMs)
  have quiet : Burst (fun _ => True) (w.markRenewals nowMs)
      (w.renewSubscriptions env nowMs) := by
    apply Burst.foldl
    intro w send _
    exact Burst.unicast send.1 fun _ => trivial
  obtain ⟨burst, same, kinds, -⟩ := quiet
  cases List.append_cancel_right (history.symm.trans same)
  exact ⟨events, history, kinds, fromSends, ofSends⟩

theorem renew_unfound {sd : ServiceDiscovery cfg} {nowMs : UInt32} {tracker : SubTracker}
    (unfound : ¬(sd.getProviderAddress tracker.serviceId).isSome = true) :
    sd.renew nowMs tracker = (none, tracker) := by
  rw [Bool.not_eq_true, Option.isSome_eq_false_iff, Option.isNone_iff_eq_none] at unfound
  rw [renew, unfound]
  cases tracker.active <;> rfl

section Renewals

variable {serviceId eventId : UInt16} {nowMs : UInt32} {sd : ServiceDiscovery cfg}
variable {tracker : SubTracker}

/-- What a pass leaves pending was pending before, and not attended to. -/
theorem renew_pending (tracked : sd.findSubTracker serviceId eventId = some tracker)
    (needs : (sd.renew nowMs tracker).2.needsUnsubscribe = true) :
    tracker.needsUnsubscribe = true ∧ attends serviceId eventId sd = false := by
  have service : tracker.serviceId = serviceId := congrArg Prod.fst (Table.lookup_key tracked)
  rw [attends, tracked, Option.any_some, ← service]
  by_cases found : (sd.getProviderAddress tracker.serviceId).isSome = true
  · obtain ⟨provider, address⟩ := Option.isSome_iff_exists.mp found
    rw [renew_found address, renewed] at needs
    cases active : tracker.active with
    | false =>
        rw [active] at needs
        exact ⟨needs, Bool.and_false _⟩
    | true =>
        rw [active, if_pos rfl] at needs
        have turn := @renewTracker_turn _ cfg nowMs tracker
        rcases result : renewTracker cfg nowMs tracker with ⟨sent, after⟩
        rw [result] at turn needs
        cases turn with
        | unsubscribe => cases needs
        | first kept | renewal kept | lives kept | retry kept | giveUp kept | waits kept =>
            rw [kept] at needs
            cases needs
  · rw [renew_unfound found] at needs
    rw [Bool.not_eq_true] at found
    rw [found]
    exact ⟨needs, rfl⟩

/-- A tracker that is not given up stays so. -/
theorem renew_kept (kept : tracker.needsUnsubscribe = false)
    (tracked : sd.findSubTracker serviceId eventId = some tracker) :
    (sd.renew nowMs tracker).2.needsUnsubscribe = false := by
  rw [← Bool.not_eq_true]
  intro needs
  rw [(renew_pending tracked needs).1] at kept
  cases kept

/-- The first pass that finds the provider asks for the event. -/
theorem renew_first {provider : Address n}
    (tracked : sd.findSubTracker serviceId eventId = some tracker)
    (found : sd.getProviderAddress serviceId = some provider)
    (kept : tracker.needsUnsubscribe = false) (active : tracker.active = true)
    (due : tracker.needsSend = true) :
    sd.renew nowMs tracker =
      (some (provider, .subscribeEvent serviceId eventId tracker.requestedTtl),
        { tracker with needsSend := false, lastSentMs := nowMs }) := by
  have key : SubTracker.key tracker = (serviceId, eventId) := Table.lookup_key tracked
  have service : tracker.serviceId = serviceId := congrArg Prod.fst key
  have event : tracker.eventId = eventId := congrArg Prod.snd key
  rw [renew_found (by rw [service]; exact found), renewed, if_pos active, renewTracker, kept,
    due, service, event]
  rfl

/-- A pass sends about an event what its tracker calls for. -/
theorem processSubscriptionRenewals_about (distinct : sd.DistinctTrackers) {dest : Address n}
    {message : SdMessage n}
    (sends : (dest, message) ∈ (sd.processSubscriptionRenewals nowMs).1)
    (about : message = .unsubscribe serviceId eventId) :
    ∃ tracker, sd.findSubTracker serviceId eventId = some tracker ∧
      tracker.needsUnsubscribe = true := by
  obtain ⟨tracker, member, -, -, sent⟩ := mem_processSubscriptionRenewals sends
  have looked := Table.Distinct.lookup_of_mem distinct member
  rw [about] at sent
  have turn := @renewTracker_turn _ cfg nowMs tracker
  rcases result : renewTracker cfg nowMs tracker with ⟨sending, after⟩
  rw [result] at turn sent
  cases turn with
  | unsubscribe wanted =>
      cases sent
      exact ⟨tracker, looked, wanted⟩
  | _ => cases sent

end Renewals

namespace Follows

variable {serviceId eventId : UInt16}

theorem renewals {w : World cfg} (follows : Follows serviceId eventId w) (nowMs : UInt32) :
    Follows serviceId eventId (w.renewSubscriptions env nowMs) := by
  obtain ⟨burst, history, kinds, fromSends, ofSends⟩ := @World.renewSubscriptions_burst _ _ env
    nowMs w
  have sd := @World.renewSubscriptions_sd _ _ env nowMs w
  have tracker := findSubTracker_processSubscriptionRenewals w.rt.sd nowMs serviceId eventId
  rw [← sd] at tracker
  have grown : w.history <:+ (w.renewSubscriptions env nowMs).history := by
    rw [history]
    exact (List.suffix_cons _ _).trans (List.suffix_append _ _)
  have wishes : wish serviceId eventId (w.renewSubscriptions env nowMs).history =
      if wish serviceId eventId w.history = .waiting ∧
        (w.rt.sd.getProviderAddress serviceId).isSome = true then .served
      else wish serviceId eventId w.history := by
    rw [history, (wish_background kinds).1, wish]
  have pendings : unsubscribePending serviceId eventId (w.renewSubscriptions env nowMs).history =
      (unsubscribePending serviceId eventId w.history &&
        !attends serviceId eventId w.rt.sd) := by
    rw [history, (wish_background kinds).2, unsubscribePending]
  refine ⟨?_, ?_, ?_, ?_⟩
  · rw [sd]
    exact follows.distinct.map (w.rt.sd.renew_key nowMs) rfl
  · intro last tracked needs
    rw [tracker] at tracked
    obtain ⟨old, known, rfl⟩ := Option.map_eq_some_iff.mp tracked
    obtain ⟨needed, unattended⟩ := renew_pending known needs
    rw [pendings, follows.pending old known needed, unattended]
    rfl
  · intro orderly isWanted
    have earlier := orderly.of_suffix grown
    have wasWanted : wish serviceId eventId w.history ≠ .unwanted := by
      intro unwanted
      rw [wishes, unwanted] at isWanted
      exact isWanted rfl
    obtain ⟨old, known, kept, waits⟩ := follows.wanted earlier wasWanted
    rw [known] at tracker
    refine ⟨_, tracker, renew_kept kept known, ?_⟩
    intro waiting
    rw [wishes] at waiting
    split at waiting
    · cases waiting
    · next unfound =>
        have service : old.serviceId = serviceId := congrArg Prod.fst (Table.lookup_key known)
        have same := @renew_unfound _ _ w.rt.sd nowMs old
          (by rw [service]; exact fun found => unfound ⟨waiting, found⟩)
        simp only [same]
        exact waits waiting
  · intro orderly
    have earlier := orderly.of_suffix grown
    rw [history]
    apply (follows.wins earlier).pass kinds
    · intro isWanted sent member
      obtain ⟨old, known, kept, -⟩ := follows.wanted earlier isWanted
      obtain ⟨⟨dest, message⟩, inSends, counter, rfl⟩ := fromSends sent member
      rw [← Bool.not_eq_true]
      intro named
      rcases asksFor_frame (asksFor_of_mentions (by simp) named) with ⟨ttl, rfl⟩ | about
      · rw [mentions_withdraws] at named
        cases named
      · obtain ⟨other, found, needs⟩ :=
          processSubscriptionRenewals_about follows.distinct inSends about
        cases known.symm.trans found
        rw [needs] at kept
        cases kept
    · intro waiting found
      have isWanted : wish serviceId eventId w.history ≠ .unwanted := by simp [waiting]
      obtain ⟨old, known, kept, waits⟩ := follows.wanted earlier isWanted
      obtain ⟨active, due⟩ := waits waiting
      obtain ⟨provider, address⟩ := Option.isSome_iff_exists.mp found
      have first := @renew_first _ _ _ _ nowMs _ _ provider known address kept active due
      rw [sd, known] at tracker
      refine ⟨?_, ?_⟩
      · rw [tracker, Option.map_some, first]
        exact active
      · have inSends : (provider, SdMessage.subscribeEvent serviceId eventId old.requestedTtl) ∈
            (w.rt.sd.processSubscriptionRenewals nowMs).1 :=
          List.mem_filterMap.mpr ⟨old, Table.lookup_mem known, congrArg Prod.fst first⟩
        obtain ⟨counter, sent⟩ := ofSends _ inSends (fits_subscribe _ _ _ _)
        refine ⟨_, sent, (mentions_asks _ _ _).trans ?_⟩
        simp [SdMessage.asks]

theorem move {before after : World cfg} (follows : Follows serviceId eventId before)
    (move : SubscriptionMove env before after) : Follows serviceId eventId after := by
  cases move with
  | step step notAck =>
      have distinct : after.rt.sd.DistinctTrackers :=
        step.steps.distinctTrackers follows.distinct
      exact follows.concerned distinct (step.concerns notAck)
  | answer hears current => exact follows.answer hears current
  | offers nowMs =>
      refine follows.concerned ?_ (before.broadcastOffers_concerns nowMs)
      rw [DistinctTrackers, World.broadcastOffers_subTrackers]
      exact follows.distinct
  | renewals nowMs => exact follows.renewals nowMs

end Follows

theorem World.Reachable.follows {w : World cfg} (reachable : World.Reachable env w)
    (serviceId eventId : UInt16) : Follows serviceId eventId w := by
  obtain ⟨clientId, moves, rfl⟩ := reachable
  exact Runs.invariant (fun _ _ follows move => follows.move move) (World.run_moves moves _)
    (.initial clientId)

/-- Has the application been told that the event is subscribed to? -/
def Event.subscribes (serviceId eventId : UInt16) : Event cfg → Bool
  | .returned (.subscribeEvent service event ..) (.bool true) =>
      service == serviceId && event == eventId
  | _ => false

/-- Is the history orderly? -/
def isOrderly (serviceId eventId : UInt16) : History cfg → Bool
  | [] => true
  | event :: past =>
      (!event.subscribes serviceId eventId || !unsubscribePending serviceId eventId past) &&
      (!event.rejects serviceId eventId || wish serviceId eventId past != .waiting) &&
      isOrderly serviceId eventId past

theorem orderly_of_isOrderly {serviceId eventId : UInt16} {history : History cfg}
    (checked : isOrderly serviceId eventId history = true) :
    Orderly serviceId eventId history := by
  induction history with
  | nil =>
      constructor
      · intro context ttlSeconds nowMs past occurs
        cases List.suffix_nil.mp occurs
      · intro event past occurs
        cases List.suffix_nil.mp occurs
  | cons newest older ih =>
      rw [isOrderly, Bool.and_eq_true, Bool.and_eq_true] at checked
      obtain ⟨⟨here, answer⟩, rest⟩ := checked
      obtain ⟨settled, answered⟩ := ih rest
      constructor
      · intro context ttlSeconds nowMs past occurs
        rcases List.suffix_cons_iff.mp occurs with same | earlier
        · obtain ⟨rfl, rfl⟩ := List.cons.inj same
          simpa [Event.subscribes] using here
        · exact settled context ttlSeconds nowMs past earlier
      · intro event past occurs rejects
        rcases List.suffix_cons_iff.mp occurs with same | earlier
        · obtain ⟨rfl, rfl⟩ := List.cons.inj same
          simpa [rejects] using answer
        · exact answered event past earlier rejects

/-- Does a frame give the event up? -/
def Event.withdraws (serviceId eventId : UInt16) (event : Event cfg) : Bool :=
  event.sdFrame.any fun sent => mentions [.unsubscribe] serviceId eventId sent.2

/-- Does a renewal pass find the provider and leave the event alone? -/
def Event.misses (serviceId eventId : UInt16) : Event cfg → Bool
  | .renewals _ before after =>
      (before.getProviderAddress serviceId).isSome &&
        !(after.findSubTracker serviceId eventId).any SubTracker.active
  | _ => false

/-- Has the device given up an event that is wanted, or left alone one that is waited for? -/
def undone (serviceId eventId : UInt16) : History cfg → Bool
  | [] => false
  | event :: past =>
      (wish serviceId eventId past != .unwanted && event.withdraws serviceId eventId) ||
      (wish serviceId eventId past == .waiting && event.misses serviceId eventId) ||
      undone serviceId eventId past

theorem LastCallWins.not_undone {serviceId eventId : UInt16} {history : History cfg}
    (wins : LastCallWins serviceId eventId history) :
    ∀ past, past <:+ history → undone serviceId eventId past = false := by
  intro past
  induction past with
  | nil => exact fun _ => rfl
  | cons event past ih =>
      intro grown
      rw [undone, ih ((List.suffix_cons _ _).trans grown), Bool.or_false, ← Bool.not_eq_true,
        Bool.or_eq_true, Bool.and_eq_true, Bool.and_eq_true]
      rintro (⟨wanted, withdraws⟩ | ⟨waiting, misses⟩)
      · rw [Event.withdraws, Option.any_eq_true] at withdraws
        obtain ⟨sent, isSent, named⟩ := withdraws
        rw [wins.kept event past grown (by simpa using wanted) sent isSent] at named
        cases named
      · cases event with
        | renewals sends before after =>
            obtain ⟨newer, occurs⟩ := grown
            rw [Event.misses, Bool.and_eq_true] at misses
            have active := (wins.asked newer sends before after past occurs.symm
              (by simpa using waiting) misses.1).1
            rw [active] at misses
            cases misses.2
        | _ => cases misses

/-- In every run whose subscriptions are orderly the last call wins. -/
theorem last_call_wins {w : World cfg} (reachable : World.Reachable env w)
    {serviceId eventId : UInt16} (orderly : Orderly serviceId eventId w.history) :
    LastCallWins serviceId eventId w.history :=
  (reachable.follows serviceId eventId).wins orderly

/-- A provider that has just broadcast its offer, and cannot be subscribed to. -/
def eventlessProvider : World embeddedConfig :=
  World.run (.benign _)
    [.api (.registerService 0x1000 0 1 0 false), .api (.offerService 0x1000 5 0),
      .housekeeping 0] (World.initial _ 1)

def eventlessOffer : Bytes := (eventlessProvider.traffic.map Prod.snd).headD []

/-- Its answer to a subscription. -/
def eventlessRefusal : Bytes :=
  let ack := World.ackFrame eventlessProvider.rt .eNotOk 0x1000 0x8001 0
  ack.1.bytes.take ack.2

/-- A consumer that has found the service. -/
def findingMoves : List (Move embeddedConfig) :=
  [.api (.findService 0x1000 1 0), .deliver (Address.filled 8 1) eventlessOffer 0]

def subscribeCall : Move embeddedConfig := .api (.subscribeEvent 0x1000 0x8001 0 10 0)

/-- A subscription that is given up after a pass and asked for again after another. -/
theorem last_call_wins_after_unsubscribe :
    LastCallWins 0x1000 0x8001 (World.run (.benign _) (findingMoves ++ [subscribeCall,
      .housekeeping 0, .api (.unsubscribeEvent 0x1000 0x8001), .housekeeping 1, subscribeCall,
      .housekeeping 2]) (World.initial _ 2)).history :=
  last_call_wins ⟨2, _, rfl⟩ (orderly_of_isOrderly (by decide +kernel))

/-- A subscription undone by the unsubscribe before it, and one undone by an answer to an
earlier request. -/
theorem last_call_is_undone :
    (∃ w : World embeddedConfig, World.Reachable (.benign _) w ∧ w = World.run (.benign _)
      (findingMoves ++ [subscribeCall, .api (.unsubscribeEvent 0x1000 0x8001), subscribeCall,
        .housekeeping 0]) (World.initial _ 2) ∧ ¬LastCallWins 0x1000 0x8001 w.history) ∧
    ∃ w : World embeddedConfig, World.Reachable (.benign _) w ∧ w = World.run (.benign _)
      (findingMoves ++ [subscribeCall, .deliver (Address.filled 8 1) eventlessRefusal 0,
        .housekeeping 0]) (World.initial _ 2) ∧ ¬LastCallWins 0x1000 0x8001 w.history := by
  constructor
  · refine ⟨_, ⟨2, _, rfl⟩, rfl, ?_⟩
    intro wins
    have done := wins.not_undone _ (List.suffix_refl _)
    revert done
    decide +kernel
  · refine ⟨_, ⟨2, _, rfl⟩, rfl, ?_⟩
    intro wins
    have done := wins.not_undone _ (List.suffix_refl _)
    revert done
    decide +kernel

end Sero
