import Sero.Core.Clock
import Sero.Properties.SubscriberLease
import Sero.Properties.SubscriptionTracker

/-!
# A subscription is kept alive

A consumer renews a subscription at half the lifetime the provider granted it.  The
grant is on the wire in the meantime, in an acknowledgement; until it arrives the consumer
waits for a lifetime of its own.  Half a lifetime is enough for a request, its answer and
the next cycle, whatever the two clocks show.
-/

namespace Sero

open Library ServiceDiscovery

variable {n : Nat} {provided consumed : Config n}

/-! ## Two devices in true time -/

/-- An event, the client that subscribes to it and the lifetime it asks for. -/
structure Subscription where
  serviceId : UInt16
  eventId : UInt16
  clientId : UInt16
  requestedTtl : UInt16

/-- A provider, a subscriber and what is between them: the frames of the subscriber about
the event and the provider's answers to them that have not been handled, with the time
they were sent.  Of the answers those handled are remembered too, newest first. -/
structure SubscriptionLink (provided consumed : Config n) where
  provider : World provided
  consumer : World consumed
  timeMs : Nat
  lastPass : Option Nat := none
  requests : List (Bytes × Nat) := []
  acks : List (Bytes × Nat) := []
  answers : List Bytes := []

namespace SubscriptionLink

/-- The consumer moves on, and what it says about the event is on its way. -/
def consume (subscription : Subscription) (after : World consumed) (timeMs : Nat)
    (link : SubscriptionLink provided consumed) : SubscriptionLink provided consumed :=
  let frames := ((after.since link.consumer).filterMap Event.sdFrame).filter fun sent =>
    asksFor subscription.serviceId subscription.eventId sent.2
  { link with
    consumer := after
    timeMs
    requests := frames.map (fun sent => (sent.2, timeMs)) ++ link.requests }

/-- The provider moves on. -/
def provide (after : World provided) (timeMs : Nat) (link : SubscriptionLink provided consumed) :
    SubscriptionLink provided consumed :=
  { link with provider := after, timeMs }

/-- The provider has handled a request, and its answer is on its way. -/
def answer (source : Address n) (request : Bytes × Nat) (after : World provided) (timeMs : Nat)
    (link : SubscriptionLink provided consumed) : SubscriptionLink provided consumed :=
  let frames := ((after.since link.provider).filterMap Event.sdFrame).filter fun sent =>
    sent.1 == some source
  { link.provide after timeMs with
    requests := link.requests.erase request
    acks := frames.map (fun sent => (sent.2, timeMs)) ++ link.acks
    answers := frames.map Prod.snd ++ link.answers }

/-- Until this time neither the consumer is late with its cycle nor a frame with its
arrival. -/
structure OnTime (timing : Timing) (timeMs : Nat) (link : SubscriptionLink provided consumed) :
    Prop where
  forward : link.timeMs ≤ timeMs
  cycle : ∀ last ∈ link.lastPass, timeMs ≤ last + timing.gapMs
  requests : ∀ sent ∈ link.requests, timeMs ≤ sent.2 + timing.delayMs
  acks : ∀ sent ∈ link.acks, timeMs ≤ sent.2 + timing.delayMs

/-- The provider has accepted the first request it has answered. -/
def Accepted (link : SubscriptionLink provided consumed) : Prop :=
  ∃ frame granted, link.answers.getLast? = some frame ∧ ackIn frame = some (.eOk, granted)

end SubscriptionLink

/-- The application leaves its subscription alone between two worlds. -/
def LeavesSubscription (subscription : Subscription) (before after : World consumed) : Prop :=
  resubscribes subscription.serviceId subscription.eventId (after.since before) = false

instance (subscription : Subscription) (before after : World consumed) :
    Decidable (LeavesSubscription subscription before after) :=
  inferInstanceAs (Decidable (_ = _))

/-- What can happen while the consumer keeps the service found.  Both devices' cycles are
taken apart into moves.  Of the datagrams about the subscription, each device gets only
what the other has sent. -/
inductive RenewalStep (providerEnv : Env provided) (consumerEnv : Env consumed)
    (timing : Timing) (subscription : Subscription) :
    SubscriptionLink provided consumed → SubscriptionLink provided consumed → Prop where
  | consumerCall (call : ApiCall consumed) (link : SubscriptionLink provided consumed)
      (leaves : LeavesSubscription subscription link.consumer
        (link.consumer.perform consumerEnv (World.react consumerEnv) call)) :
      RenewalStep providerEnv consumerEnv timing subscription link
        (link.consume subscription
          (link.consumer.perform consumerEnv (World.react consumerEnv) call) link.timeMs)
  | consumerStart (timeMs : Nat) {link : SubscriptionLink provided consumed}
      (onTime : link.OnTime timing timeMs) :
      RenewalStep providerEnv consumerEnv timing subscription link
        (link.consume subscription
          (link.consumer.startCycle (clock timing.senderOffset timeMs)) timeMs)
  | consumerReceive (source : Address n) (data : Bytes) (timeMs : Nat)
      {link : SubscriptionLink provided consumed} (onTime : link.OnTime timing timeMs)
      (other : ∀ result granted, heard consumed source data = some (.ack result granted) →
        (granted.serviceId, granted.eventId) ≠ (subscription.serviceId, subscription.eventId))
      (leaves : LeavesSubscription subscription link.consumer
        (link.consumer.validateAndDispatch consumerEnv source data
          (clock timing.senderOffset timeMs))) :
      RenewalStep providerEnv consumerEnv timing subscription link
        (link.consume subscription (link.consumer.validateAndDispatch consumerEnv source data
          (clock timing.senderOffset timeMs)) timeMs)
  | consumerAck (source : Address n) {ack : Bytes × Nat} (timeMs : Nat)
      {link : SubscriptionLink provided consumed} (onTime : link.OnTime timing timeMs)
      (arrives : ack ∈ link.acks) (handled : (heard consumed source ack.1).isSome)
      (leaves : LeavesSubscription subscription link.consumer
        (link.consumer.validateAndDispatch consumerEnv source ack.1
          (clock timing.senderOffset timeMs))) :
      RenewalStep providerEnv consumerEnv timing subscription link
        { link.consume subscription (link.consumer.validateAndDispatch consumerEnv source ack.1
            (clock timing.senderOffset timeMs)) timeMs with
          acks := link.acks.erase ack }
  | consumerHousekeeping (timeMs : Nat) {link : SubscriptionLink provided consumed}
      (onTime : link.OnTime timing timeMs)
      (leaves : LeavesSubscription subscription link.consumer
        (link.consumer.housekeeping consumerEnv (clock timing.senderOffset timeMs)))
      (found : HasFound subscription.serviceId
        (link.consumer.housekeeping consumerEnv (clock timing.senderOffset timeMs))) :
      RenewalStep providerEnv consumerEnv timing subscription link
        { link.consume subscription (link.consumer.housekeeping consumerEnv
            (clock timing.senderOffset timeMs)) timeMs with
          lastPass := some timeMs }
  | providerCall (call : ApiCall provided) (link : SubscriptionLink provided consumed) :
      RenewalStep providerEnv consumerEnv timing subscription link
        (link.provide (link.provider.perform providerEnv (World.react providerEnv) call)
          link.timeMs)
  | providerStart (timeMs : Nat) {link : SubscriptionLink provided consumed}
      (onTime : link.OnTime timing timeMs) :
      RenewalStep providerEnv consumerEnv timing subscription link
        (link.provide (link.provider.startCycle (clock timing.receiverOffset timeMs)) timeMs)
  | providerReceive (source : Address n) (data : Bytes) (timeMs : Nat)
      {link : SubscriptionLink provided consumed} (onTime : link.OnTime timing timeMs)
      (other : ∀ request, heard provided source data = some request →
        request.concerns subscription.serviceId subscription.eventId subscription.clientId =
          false) :
      RenewalStep providerEnv consumerEnv timing subscription link
        (link.provide (link.provider.validateAndDispatch providerEnv source data
          (clock timing.receiverOffset timeMs)) timeMs)
  | providerRequest (source : Address n) {request : Bytes × Nat} (timeMs : Nat)
      {link : SubscriptionLink provided consumed} (onTime : link.OnTime timing timeMs)
      (arrives : request ∈ link.requests) (handled : (heard provided source request.1).isSome) :
      RenewalStep providerEnv consumerEnv timing subscription link
        (link.answer source request (link.provider.validateAndDispatch providerEnv source
          request.1 (clock timing.receiverOffset timeMs)) timeMs)
  | providerHousekeeping (timeMs : Nat) {link : SubscriptionLink provided consumed}
      (onTime : link.OnTime timing timeMs) :
      RenewalStep providerEnv consumerEnv timing subscription link
        (link.provide (link.provider.housekeeping providerEnv
          (clock timing.receiverOffset timeMs)) timeMs)

/-- Any number of them. -/
abbrev RenewalRun (providerEnv : Env provided) (consumerEnv : Env consumed) (timing : Timing)
    (subscription : Subscription) :
    SubscriptionLink provided consumed → SubscriptionLink provided consumed → Prop :=
  Relation.ReflTransGen (RenewalStep providerEnv consumerEnv timing subscription)

/-- A tracker whose first request is still to be sent. -/
structure SubTracker.IsDue (requestedTtl : UInt16) (tracker : SubTracker) : Prop where
  requestedTtl : tracker.requestedTtl = requestedTtl
  kept : tracker.needsUnsubscribe = false
  active : tracker.active = true
  needsSend : tracker.needsSend = true
  granted : tracker.grantedTtl = 0

/-- The consumer has subscribed to the event, and nothing has been said about it yet. -/
structure JustSubscribed (providerEnv : Env provided) (consumerEnv : Env consumed)
    (subscription : Subscription) (link : SubscriptionLink provided consumed) : Prop where
  provider : World.Reachable providerEnv link.provider
  consumer : World.Reachable consumerEnv link.consumer
  clientId : link.consumer.rt.sd.clientId = subscription.clientId
  due : ∃ tracker, link.consumer.rt.sd.findSubTracker subscription.serviceId
    subscription.eventId = some tracker ∧ tracker.IsDue subscription.requestedTtl
  requests : link.requests = []
  acks : link.acks = []
  answers : link.answers = []

/-- A tracker while the device goes on renewing, the last request having been sent at
`lastSent`; `pending` says that its answer is still to come.  Without a moment between two
cycles the device may have given up, as no time passes any more. -/
structure SubTracker.Renews (timing : Timing) (requestedTtl grantedTtl : UInt16)
    (lastSent : Nat) (pending : Prop) (tracker : SubTracker) : Prop where
  requestedTtl : tracker.requestedTtl = requestedTtl
  kept : tracker.needsUnsubscribe = false
  goes : timing.gapMs = 0 ∨ tracker.active = true ∧
    (tracker.grantedTtl = grantedTtl ∨
      tracker.grantedTtl = 0 ∧ (tracker.needsSend = true ∨ pending)) ∧
    (tracker.needsSend = true ∨ tracker.lastSentMs = clock timing.senderOffset lastSent)

namespace SubTracker.Renews

variable {timing : Timing} {requestedTtl grantedTtl : UInt16} {lastSent : Nat}
variable {pending : Prop} {tracker : SubTracker}

/-- An offer may make the device ask at once. -/
theorem flagged (renews : tracker.Renews timing requestedTtl grantedTtl lastSent pending)
    (serviceId : UInt16) (nowMs : UInt32) :
    (SubTracker.flagged serviceId nowMs tracker).Renews timing requestedTtl grantedTtl lastSent
      pending := by
  rw [SubTracker.flagged]
  split
  · exact ⟨renews.requestedTtl, renews.kept, .inr ⟨rfl, .inr ⟨rfl, .inl rfl⟩, .inl rfl⟩⟩
  · exact renews

/-- The answer has arrived. -/
theorem acknowledged (renews : tracker.Renews timing requestedTtl grantedTtl lastSent pending)
    (still : Prop) :
    (SubTracker.acknowledge .eOk grantedTtl tracker).Renews timing requestedTtl grantedTtl
      lastSent still := by
  rcases renews.goes with frozen | ⟨active, -, sent⟩
  · rw [SubTracker.acknowledge]
    split <;> exact ⟨renews.requestedTtl, renews.kept, .inl frozen⟩
  · rw [SubTracker.acknowledge, if_pos active, if_pos rfl]
    exact ⟨renews.requestedTtl, renews.kept, .inr ⟨active, .inl rfl, sent⟩⟩

theorem mono (renews : tracker.Renews timing requestedTtl grantedTtl lastSent pending)
    {still : Prop} (keeps : pending → still) :
    tracker.Renews timing requestedTtl grantedTtl lastSent still where
  requestedTtl := renews.requestedTtl
  kept := renews.kept
  goes := renews.goes.imp id fun ⟨active, granted, sent⟩ =>
    ⟨active, granted.imp id fun ⟨zero, waits⟩ => ⟨zero, waits.imp id keeps⟩, sent⟩

/-- One turn of the renewal loop, at a time of the device's clock. -/
theorem turn {cfg : Config n} {timeMs : Nat}
    (renews : tracker.Renews timing requestedTtl grantedTtl lastSent pending)
    (fits : 2 * timing.delayMs + timing.gapMs ≤ grantedTtl.toNat * 500)
    (patient : 2 * timing.delayMs + timing.gapMs ≤ cfg.subscriptionTtlSeconds.toNat * 500)
    (order : lastSent ≤ timeMs)
    (cycle : timeMs ≤ lastSent + grantedTtl.toNat * 500 + timing.gapMs)
    (inTime : pending → timeMs ≤ lastSent + 2 * timing.delayMs) :
    ((renewed cfg (clock timing.senderOffset timeMs) tracker).1 =
        some (.subscribeEvent tracker.serviceId tracker.eventId requestedTtl) ∧
      ∀ still : Prop, still →
        (renewed cfg (clock timing.senderOffset timeMs) tracker).2.Renews timing requestedTtl
          grantedTtl timeMs still) ∨
    ((renewed cfg (clock timing.senderOffset timeMs) tracker).1 = none ∧
      timeMs ≤ lastSent + grantedTtl.toNat * 500 ∧
      (renewed cfg (clock timing.senderOffset timeMs) tracker).2.Renews timing requestedTtl
        grantedTtl lastSent pending) := by
  have requested := renews.requestedTtl
  have kept := renews.kept
  have whole := grantedTtl.toNat_lt
  have patience := cfg.subscriptionTtlSeconds.toNat_lt
  rw [renewed]
  by_cases active : tracker.active = true
  · rw [if_pos active]
    have turn := @renewTracker_turn _ cfg (clock timing.senderOffset timeMs) tracker
    rcases result : renewTracker cfg (clock timing.senderOffset timeMs) tracker with ⟨sent, after⟩
    rw [result] at turn
    by_cases frozen : timing.gapMs = 0
    · have early : timeMs ≤ lastSent + grantedTtl.toNat * 500 := by omega
      cases turn with
      | unsubscribe wanted =>
          rw [wanted] at kept
          cases kept
      | first | renewal | retry =>
          exact .inl ⟨by rw [requested], fun _ _ => ⟨requested, kept, .inl frozen⟩⟩
      | lives | giveUp | waits => exact .inr ⟨rfl, early, ⟨requested, kept, .inl frozen⟩⟩
    · obtain ⟨-, granted, sent⟩ := renews.goes.resolve_left frozen
      have grants : tracker.grantedTtl > 0 → tracker.grantedTtl = grantedTtl := by
        intro positive
        rcases granted with same | ⟨zero, -⟩
        · exact same
        · rw [zero] at positive
          exact absurd positive (UInt16.lt_irrefl 0)
      have answers : tracker.needsSend = false → ¬tracker.grantedTtl > 0 → pending := by
        intro quiet none
        rcases granted with same | ⟨-, due | awaits⟩
        · rw [same, gt_iff_lt, UInt16.lt_iff_toNat_lt] at none
          change ¬0 < grantedTtl.toNat at none
          omega
        · rw [quiet] at due
          cases due
        · exact awaits
      have shows : tracker.needsSend = false →
          tracker.lastSentMs = clock timing.senderOffset lastSent := by
        intro quiet
        rcases sent with due | shows
        · rw [quiet] at due
          cases due
        · exact shows
      have notRetried : tracker.needsSend = false → ¬tracker.grantedTtl > 0 →
          ¬timeAfterOrEq (clock timing.senderOffset timeMs)
            (tracker.lastSentMs + cfg.subscriptionTtlSeconds.toUInt32 * 1000) = true := by
        intro quiet none
        have soon := inTime (answers quiet none)
        rw [shows quiet, clock_add, toNat_lifetime,
          timeAfterOrEq_clock timing.senderOffset (by omega) (by omega)]
        omega
      cases turn with
      | unsubscribe wanted =>
          rw [wanted] at kept
          cases kept
      | first =>
          refine .inl ⟨by rw [requested], fun still holds => ⟨requested, kept, .inr ?_⟩⟩
          exact ⟨active, granted.imp id fun waits => ⟨waits.1, .inr holds⟩, .inr rfl⟩
      | renewal _ _ positive =>
          refine .inl ⟨by rw [requested], fun still holds => ⟨requested, kept, .inr ?_⟩⟩
          exact ⟨active, .inl (grants positive), .inr rfl⟩
      | lives _ quiet positive early =>
          refine .inr ⟨rfl, ?_, renews⟩
          rw [shows quiet, grants positive, clock_add, toNat_halfLifetime,
            timeAfterOrEq_clock timing.senderOffset (by omega) (by omega)] at early
          omega
      | retry _ quiet unanswered due | giveUp _ quiet unanswered due =>
          exact absurd due (notRetried quiet unanswered)
      | waits _ quiet unanswered =>
          have soon := inTime (answers quiet unanswered)
          exact .inr ⟨rfl, by omega, renews⟩
  · rw [if_neg active]
    have frozen : timing.gapMs = 0 := renews.goes.resolve_right fun goes => active goes.1
    exact .inr ⟨rfl, by omega, renews⟩

end SubTracker.Renews

/-- The lifetime a provider with this configuration grants. -/
def Subscription.grantedTtl (provided : Config n) (subscription : Subscription) : UInt16 :=
  EventManager.grantedTtl provided subscription.requestedTtl

/-- An answer that accepts the subscription. -/
def Accepts (subscription : Subscription) (grantedTtl : UInt16) (provided : Config n)
    (frame : Bytes) : Prop :=
  ∃ rt : Runtime provided, frame = (World.ackFrame rt .eOk subscription.serviceId
    subscription.eventId grantedTtl).1.bytes.take
      (World.ackFrame rt .eOk subscription.serviceId subscription.eventId grantedTtl).2

/-- The message that asks for a subscription. -/
def Subscription.message (n : Nat) (subscription : Subscription) : SdMessage n :=
  .subscribeEvent subscription.serviceId subscription.eventId subscription.requestedTtl

theorem Subscription.message_of_key {subscription : Subscription} {tracker : SubTracker}
    (key : SubTracker.key tracker = (subscription.serviceId, subscription.eventId)) :
    SdMessage.subscribeEvent tracker.serviceId tracker.eventId subscription.requestedTtl =
      subscription.message n := by
  have service : tracker.serviceId = subscription.serviceId := congrArg Prod.fst key
  have event : tracker.eventId = subscription.eventId := congrArg Prod.snd key
  rw [Subscription.message, service, event]

/-- The answer to the last request is still to come. -/
def Awaits (timing : Timing) (lastSent : Nat) (link : SubscriptionLink provided consumed) :
    Prop :=
  (∃ sent ∈ link.requests, sent.2 ≤ lastSent) ∨
    ∃ sent ∈ link.acks, sent.2 ≤ lastSent + timing.delayMs

/-- The provider keeps the subscriber until `endMs`; by then a request that is on its way,
or else the next one, will have arrived. -/
structure CoveredSubscriber (timing : Timing) (subscription : Subscription)
    (lastSent endMs : Nat) (subscriber : Subscriber n)
    (link : SubscriptionLink provided consumed) : Prop where
  subscribed : link.provider.rt.eventManager.subscriber subscription.serviceId
    subscription.eventId subscription.clientId = some subscriber
  expiry : subscriber.expiryMs = clock timing.receiverOffset endMs
  short : endMs ≤ link.timeMs + (subscription.grantedTtl provided).toNat * 1000
  covered : (∃ sent ∈ link.requests, sent.2 + timing.delayMs ≤ endMs) ∨
    lastSent + (subscription.grantedTtl provided).toNat * 1000 ≤ endMs

/-- Nothing has been said yet. -/
structure Unasked (subscription : Subscription) (link : SubscriptionLink provided consumed) :
    Prop where
  tracking : Tracking subscription.serviceId subscription.eventId subscription.clientId
    (SubTracker.IsDue subscription.requestedTtl) link.consumer
  requests : link.requests = []
  acks : link.acks = []
  answers : link.answers = []

/-- The last request was sent at `lastSent`; since then a cycle has come before half the
lifetime was over, or there would have been another. -/
structure Renewing (timing : Timing) (subscription : Subscription)
    (link : SubscriptionLink provided consumed) (lastSent lastPass : Nat) : Prop where
  tracking : Tracking subscription.serviceId subscription.eventId subscription.clientId
    (SubTracker.Renews timing subscription.requestedTtl (subscription.grantedTtl provided)
      lastSent (Awaits timing lastSent link)) link.consumer
  last : link.lastPass = some lastPass
  past : lastPass ≤ link.timeMs
  order : lastSent ≤ lastPass
  early : lastPass ≤ lastSent + (subscription.grantedTtl provided).toNat * 500
  lease : link.acks = [] ∧ link.answers = [] ∨ link.Accepted ∧
    ∃ endMs subscriber, CoveredSubscriber timing subscription lastSent endMs subscriber link

/-- The provider has turned down the first request it has answered. -/
def SubscriptionLink.Refused (link : SubscriptionLink provided consumed) : Prop :=
  ∃ frame result granted, link.answers.getLast? = some frame ∧
    ackIn frame = some (result, granted) ∧ result ≠ .eOk

/-- What holds unless the first request has been turned down. -/
structure RenewalInvariant (timing : Timing) (subscription : Subscription)
    (link : SubscriptionLink provided consumed) : Prop where
  distinct : link.provider.rt.eventManager.DistinctSubscribers
  requests : ∀ sent ∈ link.requests, ∃ sequenceCounter,
    sent.1 = (subscription.message n).frame subscription.clientId sequenceCounter
  acks : ∀ sent ∈ link.acks,
    Accepts subscription (subscription.grantedTtl provided) provided sent.1
  phase : Unasked subscription link ∨
    ∃ lastSent lastPass, Renewing timing subscription link lastSent lastPass

section Invariant

variable {providerEnv : Env provided} {consumerEnv : Env consumed} {timing : Timing}
variable {subscription : Subscription} {link : SubscriptionLink provided consumed}

/-- An answer that was the first remains so. -/
theorem getLast?_append_of_some {newer older : List Bytes} {frame : Bytes}
    (last : older.getLast? = some frame) : (newer ++ older).getLast? = some frame := by
  rw [List.getLast?_append, last, Option.some_or]

theorem Awaits.inTime {lastSent timeMs : Nat} (awaits : Awaits timing lastSent link)
    (onTime : link.OnTime timing timeMs) : timeMs ≤ lastSent + 2 * timing.delayMs := by
  rcases awaits with ⟨sent, member, before⟩ | ⟨sent, member, before⟩
  · have arrives := onTime.requests sent member
    omega
  · have arrives := onTime.acks sent member
    omega

/-- The lease does not end before the next thing happens. -/
theorem CoveredSubscriber.inTime {lastSent lastPass endMs timeMs : Nat}
    {subscriber : Subscriber n}
    (lease : CoveredSubscriber timing subscription lastSent endMs subscriber link)
    (fits : 2 * timing.delayMs + timing.gapMs ≤ (subscription.grantedTtl provided).toNat * 500)
    (onTime : link.OnTime timing timeMs) (last : link.lastPass = some lastPass)
    (early : lastPass ≤ lastSent + (subscription.grantedTtl provided).toNat * 500) :
    timeMs ≤ endMs := by
  rcases lease.covered with ⟨sent, flying, arrives⟩ | later
  · exact (onTime.requests sent flying).trans arrives
  · have cycle := onTime.cycle lastPass last
    omega

theorem CoveredSubscriber.unexpired {lastSent lastPass endMs timeMs : Nat}
    {subscriber : Subscriber n}
    (lease : CoveredSubscriber timing subscription lastSent endMs subscriber link)
    (fits : 2 * timing.delayMs + timing.gapMs ≤ (subscription.grantedTtl provided).toNat * 500)
    (onTime : link.OnTime timing timeMs) (last : link.lastPass = some lastPass)
    (early : lastPass ≤ lastSent + (subscription.grantedTtl provided).toNat * 500) :
    timeAfter (clock timing.receiverOffset timeMs) subscriber.expiryMs = false := by
  have ahead := lease.inTime fits onTime last early
  have short := lease.short
  have forward := onTime.forward
  have seconds := (subscription.grantedTtl provided).toNat_lt
  rw [lease.expiry, ← Bool.not_eq_true,
    timeAfter_clock timing.receiverOffset (by omega) (by omega)]
  exact Nat.not_lt.mpr ahead

/-! ## Steps of the two devices -/

/-- The client is silent about the event. -/
theorem RenewalInvariant.providerKeeps (invariant : RenewalInvariant timing subscription link)
    {after : World provided} {timeMs : Nat} (forward : link.timeMs ≤ timeMs)
    {nowMs : Subscriber n → UInt32}
    (keeps : ∀ subscriber, KeepsSubscriber subscription.serviceId subscription.eventId
      subscription.clientId (nowMs subscriber) link.provider.rt.eventManager
        after.rt.eventManager)
    (unexpired : ∀ {lastSent lastPass endMs subscriber}, link.lastPass = some lastPass →
      lastPass ≤ lastSent + (subscription.grantedTtl provided).toNat * 500 →
      CoveredSubscriber timing subscription lastSent endMs subscriber link →
      timeAfter (nowMs subscriber) subscriber.expiryMs = false) :
    RenewalInvariant timing subscription (link.provide after timeMs) := by
  let someone : Subscriber n := ⟨0, Address.zero n, 0⟩
  refine ⟨(keeps someone).distinct invariant.distinct, invariant.requests, invariant.acks, ?_⟩
  rcases invariant.phase with unasked | ⟨lastSent, lastPass, renewing⟩
  · exact .inl ⟨unasked.tracking, unasked.requests, unasked.acks, unasked.answers⟩
  · refine .inr ⟨lastSent, lastPass, ?_⟩
    exact {
      tracking := renewing.tracking
      last := renewing.last
      past := renewing.past.trans forward
      order := renewing.order
      early := renewing.early
      lease := by
        refine renewing.lease.imp id fun ⟨accepted, endMs, subscriber, lease⟩ => ?_
        refine ⟨accepted, endMs, subscriber, { lease with subscribed := ?_, short := ?_ }⟩
        · exact (keeps subscriber).kept invariant.distinct subscriber lease.subscribed
            (unexpired renewing.last renewing.early lease)
        · have short := lease.short
          change endMs ≤ timeMs + _
          omega }

/-- A request reaches the provider. -/
theorem RenewalInvariant.providerRequest (invariant : RenewalInvariant timing subscription link)
    (source : Address n) {request : Bytes × Nat} {timeMs : Nat}
    (onTime : link.OnTime timing timeMs) (arrives : request ∈ link.requests)
    (handled : (heard provided source request.1).isSome) :
    let next := link.answer source request (link.provider.validateAndDispatch providerEnv source
      request.1 (clock timing.receiverOffset timeMs)) timeMs
    RenewalInvariant timing subscription next ∨ next.Refused := by
  intro next
  let nowMs := clock timing.receiverOffset timeMs
  let granted := subscription.grantedTtl provided
  obtain ⟨sequenceCounter, isRequest⟩ := invariant.requests request arrives
  have hears : heard provided source request.1 = some (.subscribe source
      ((subscription.message n).header subscription.clientId sequenceCounter)
      ⟨subscription.serviceId, subscription.eventId, subscription.requestedTtl⟩) := by
    rw [isRequest] at handled ⊢
    exact heard_subscribe rfl handled
  have unsigned : (MessageHeader.deserialize request.1).hasAuth = false := by
    rw [isRequest, SdMessage.frame, deserialize_messageFrame]
    exact (by decide : ((0 : UInt8) &&& flagAuth != 0) = false)
  obtain ⟨installed, answered⟩ := @World.receive_subscribe _ _ providerEnv _ _ _ _ nowMs hears
    unsigned link.provider
  let answer := link.provider.rt.eventManager.subscribe subscription.serviceId
    subscription.eventId subscription.clientId source subscription.requestedTtl nowMs
  let lifetime := if answer.1 = .eOk then granted else 0
  let reply := World.ackFrame link.provider.rt answer.1 subscription.serviceId
    subscription.eventId lifetime
  let frame := reply.1.bytes.take reply.2
  have replies : ((next.provider.since link.provider).filterMap Event.sdFrame).filter
      (fun sent => sent.1 == some source) = [(some source, frame)] := by
    have all : (next.provider.since link.provider).filterMap Event.sdFrame =
        [(some source, frame)] := answered
    rw [all]
    simp
  have acksEq : next.acks = (frame, timeMs) :: link.acks :=
    congrArg (fun frames => List.map (fun sent => (sent.2, timeMs)) frames ++ link.acks) replies
  have answersEq : next.answers = frame :: link.answers :=
    congrArg (fun frames => List.map Prod.snd frames ++ link.answers) replies
  have requestsEq : next.requests = link.requests.erase request := rfl
  have table : next.provider.rt.eventManager = answer.2 := installed
  have carried : ackIn frame =
      some (answer.1, ⟨subscription.serviceId, subscription.eventId, lifetime⟩) := ackIn_ackFrame
  obtain ⟨lastSent, lastPass, renewing⟩ : ∃ lastSent lastPass,
      Renewing timing subscription link lastSent lastPass := by
    rcases invariant.phase with unasked | renewing
    · rw [unasked.requests] at arrives
      cases arrives
    · exact renewing
  have before := renewing.past
  have order := renewing.order
  have forward := onTime.forward
  by_cases isOk : answer.1 = .eOk
  · left
    refine ⟨?_, ?_, ?_, .inr ⟨lastSent, lastPass, ?_⟩⟩
    · rw [table]
      exact invariant.distinct.subscribe _ _ _ _ _ _
    · rw [requestsEq]
      exact fun sent member => invariant.requests sent (List.mem_of_mem_erase member)
    · rw [acksEq]
      intro sent member
      rcases List.mem_cons.mp member with rfl | member
      · refine ⟨link.provider.rt, ?_⟩
        simp only [frame, reply, lifetime, isOk, if_true]
        rfl
      · exact invariant.acks sent member
    · have awaits : Awaits timing lastSent link → Awaits timing lastSent next := by
        rintro (⟨sent, member, early⟩ | ⟨sent, member, early⟩)
        · by_cases same : sent = request
          · subst same
            have arrival := onTime.requests sent member
            refine .inr ⟨(frame, timeMs), ?_, ?_⟩
            · rw [acksEq]
              exact .head _
            · change timeMs ≤ lastSent + timing.delayMs
              omega
          · exact .inl ⟨sent, (List.mem_erase_of_ne same).mpr member, early⟩
        · refine .inr ⟨sent, ?_, early⟩
          rw [acksEq]
          exact .tail _ member
      have accepted : next.Accepted := by
        rcases renewing.lease with ⟨-, none⟩ | ⟨⟨first, granted, last, isFirst⟩, -⟩
        · refine ⟨frame, _, ?_, by rw [carried, isOk]⟩
          rw [answersEq, none]
          rfl
        · refine ⟨first, granted, ?_, isFirst⟩
          rw [answersEq, ← List.singleton_append]
          exact getLast?_append_of_some last
      obtain ⟨tracker, tracked, renews⟩ := renewing.tracking.tracks
      exact {
        tracking := ⟨renewing.tracking.distinct, ⟨tracker, tracked, renews.mono awaits⟩,
          renewing.tracking.clientId⟩
        last := renewing.last
        past := before.trans forward
        order := order
        early := renewing.early
        lease := by
          refine .inr ⟨accepted, timeMs + granted.toNat * 1000, EventManager.accepted provided
            subscription.clientId source subscription.requestedTtl nowMs, ?_⟩
          exact {
            subscribed := by
              rw [table]
              exact EventManager.subscribe_accepted isOk
            expiry := by
              change nowMs + granted.toUInt32 * 1000 = _
              rw [clock_add, toNat_lifetime]
            short := Nat.le_refl _
            covered := .inr (by
              change lastSent + granted.toNat * 1000 ≤ timeMs + granted.toNat * 1000
              omega) } }
  · right
    rcases renewing.lease with ⟨-, none⟩ | ⟨-, endMs, subscriber, lease⟩
    · refine ⟨frame, _, _, ?_, carried, isOk⟩
      rw [answersEq, none]
      rfl
    · exact absurd (EventManager.subscribe_renews lease.subscribed source
        subscription.requestedTtl) isOk

theorem SubTracker.IsDue.flagged {requestedTtl : UInt16} {tracker : SubTracker}
    (due : tracker.IsDue requestedTtl) (serviceId : UInt16) (nowMs : UInt32) :
    (SubTracker.flagged serviceId nowMs tracker).IsDue requestedTtl := by
  rw [SubTracker.flagged]
  split
  · exact ⟨due.requestedTtl, due.kept, rfl, rfl, rfl⟩
  · exact due

/-- A consumer that says nothing about the event adds no request. -/
theorem consume_requests {after : World consumed} {timeMs : Nat}
    (silent : ∀ sent ∈ (after.since link.consumer).filterMap Event.sdFrame,
      asksFor subscription.serviceId subscription.eventId sent.2 = false) :
    (link.consume subscription after timeMs).requests = link.requests := by
  have none : ((after.since link.consumer).filterMap Event.sdFrame).filter (fun sent =>
      asksFor subscription.serviceId subscription.eventId sent.2) = [] := by
    rw [List.filter_eq_nil_iff]
    intro sent member
    rw [silent sent member]
    exact Bool.false_ne_true
  exact congrArg (fun frames => List.map (fun sent => (sent.2, timeMs)) frames ++ link.requests)
    none

/-- The lease does not depend on the consumer. -/
theorem CoveredSubscriber.consume {lastSent endMs : Nat} {subscriber : Subscriber n}
    {next : SubscriptionLink provided consumed}
    (lease : CoveredSubscriber timing subscription lastSent endMs subscriber link)
    (provider : next.provider = link.provider) (forward : link.timeMs ≤ next.timeMs)
    (requests : ∀ sent ∈ link.requests, sent ∈ next.requests) :
    CoveredSubscriber timing subscription lastSent endMs subscriber next where
  subscribed := by
    rw [provider]
    exact lease.subscribed
  expiry := lease.expiry
  short := by
    have short := lease.short
    omega
  covered := lease.covered.imp (fun ⟨sent, member, early⟩ => ⟨sent, requests sent member, early⟩) id

/-- The consumer moves on between two passes. -/
theorem RenewalInvariant.consumerKeeps (invariant : RenewalInvariant timing subscription link)
    {after : World consumed} {timeMs : Nat} (nowMs : UInt32) (forward : link.timeMs ≤ timeMs)
    (keeps : ∀ describes : SubTracker → Prop, (∀ service tracker, describes tracker →
      describes (SubTracker.flagged service nowMs tracker)) →
      KeepsTracker subscription.serviceId subscription.eventId subscription.clientId describes
        link.consumer after)
    (leaves : LeavesSubscription subscription link.consumer after) :
    RenewalInvariant timing subscription (link.consume subscription after timeMs) := by
  have moves : ∀ describes : SubTracker → Prop, (∀ service tracker, describes tracker →
      describes (SubTracker.flagged service nowMs tracker)) →
      Tracking subscription.serviceId subscription.eventId subscription.clientId describes
        link.consumer →
      Tracking subscription.serviceId subscription.eventId subscription.clientId describes after ∧
        (link.consume subscription after timeMs).requests = link.requests := by
    intro describes closed tracking
    obtain ⟨events, history, holds⟩ := keeps describes closed
    have quiet := leaves
    rw [LeavesSubscription, World.since_eq history] at quiet
    obtain ⟨moved, frames⟩ := holds quiet tracking
    refine ⟨moved, consume_requests ?_⟩
    rw [World.since_eq history]
    exact frames
  rcases invariant.phase with unasked | ⟨lastSent, lastPass, renewing⟩
  · obtain ⟨moved, same⟩ := moves _ (fun service _ due => due.flagged service nowMs)
      unasked.tracking
    refine ⟨invariant.distinct, ?_, invariant.acks,
      .inl ⟨moved, same.trans unasked.requests, unasked.acks, unasked.answers⟩⟩
    rw [same]
    exact invariant.requests
  · obtain ⟨moved, same⟩ := moves _ (fun service _ renews => renews.flagged service nowMs)
      renewing.tracking
    refine ⟨invariant.distinct, ?_, invariant.acks, .inr ⟨lastSent, lastPass, ?_⟩⟩
    · rw [same]
      exact invariant.requests
    · have awaits : Awaits timing lastSent (link.consume subscription after timeMs) =
          Awaits timing lastSent link := by
        rw [Awaits, same]
        rfl
      exact {
        tracking := by
          rw [awaits]
          exact moved
        last := renewing.last
        past := renewing.past.trans forward
        order := renewing.order
        early := renewing.early
        lease := renewing.lease.imp id fun ⟨accepted, endMs, subscriber, lease⟩ =>
          ⟨accepted, endMs, subscriber, lease.consume rfl forward fun sent member => by
            rw [same]
            exact member⟩ }

/-- An answer reaches the consumer. -/
theorem RenewalInvariant.consumerAck (invariant : RenewalInvariant timing subscription link)
    (source : Address n) {ack : Bytes × Nat} {timeMs : Nat} (onTime : link.OnTime timing timeMs)
    (arrives : ack ∈ link.acks) (handled : (heard consumed source ack.1).isSome)
    (leaves : LeavesSubscription subscription link.consumer
      (link.consumer.validateAndDispatch consumerEnv source ack.1
        (clock timing.senderOffset timeMs))) :
    RenewalInvariant timing subscription
      { link.consume subscription (link.consumer.validateAndDispatch consumerEnv source ack.1
          (clock timing.senderOffset timeMs)) timeMs with
        acks := link.acks.erase ack } := by
  let after := link.consumer.validateAndDispatch consumerEnv source ack.1
    (clock timing.senderOffset timeMs)
  obtain ⟨rt, accepts⟩ := invariant.acks ack arrives
  have hears := heard_ack accepts handled
  have unsigned : (MessageHeader.deserialize ack.1).hasAuth = false := by
    rw [accepts, World.ackFrame_eq, deserialize_messageFrame]
    exact (by decide : ((0 : UInt8) &&& flagAuth != 0) = false)
  obtain ⟨lastSent, lastPass, renewing⟩ : ∃ lastSent lastPass,
      Renewing timing subscription link lastSent lastPass := by
    rcases invariant.phase with unasked | renewing
    · rw [unasked.acks] at arrives
      cases arrives
    · exact renewing
  have lease := renewing.lease.resolve_left fun ⟨empty, _⟩ => by
    rw [empty] at arrives
    cases arrives
  obtain ⟨accepted, endMs, subscriber, covered⟩ := lease
  let next : SubscriptionLink provided consumed :=
    { link.consume subscription after timeMs with acks := link.acks.erase ack }
  obtain ⟨moved, silent⟩ := World.receive_ack hears unsigned leaves renewing.tracking
    (fun _ renews => renews.acknowledged (Awaits timing lastSent next))
  have same : next.requests = link.requests := consume_requests silent
  refine ⟨invariant.distinct, ?_, ?_, .inr ⟨lastSent, lastPass, ?_⟩⟩
  · change ∀ sent ∈ next.requests, _
    rw [same]
    exact invariant.requests
  · exact fun sent member => invariant.acks sent (List.mem_of_mem_erase member)
  · exact {
      tracking := moved
      last := renewing.last
      past := renewing.past.trans onTime.forward
      order := renewing.order
      early := renewing.early
      lease := .inr ⟨accepted, endMs, subscriber, covered.consume rfl onTime.forward
        fun sent member => by
          rw [same]
          exact member⟩ }

/-- The first request of a subscription. -/
theorem SubTracker.IsDue.turn {requestedTtl : UInt16} {tracker : SubTracker}
    (due : tracker.IsDue requestedTtl) (cfg : Config n) (nowMs : UInt32) :
    renewed cfg nowMs tracker =
      (some (.subscribeEvent tracker.serviceId tracker.eventId requestedTtl),
        { tracker with needsSend := false, lastSentMs := nowMs }) := by
  rw [renewed, if_pos due.active, renewTracker, due.kept, due.needsSend, due.requestedTtl]
  rfl

section Turn

variable {nowMs : UInt32} {tracker : SubTracker} {after : World consumed} {timeMs : Nat}

/-- A turn that sends adds requests for the subscription, and at least one. -/
theorem Renews.asks (turn : Renews subscription.serviceId subscription.eventId
      subscription.clientId nowMs tracker link.consumer after)
    (sends : (renewed consumed nowMs tracker).1 = some (subscription.message n)) :
    (∀ sent ∈ (link.consume subscription after timeMs).requests, sent ∈ link.requests ∨
      ∃ sequenceCounter,
        sent.1 = (subscription.message n).frame subscription.clientId sequenceCounter) ∧
      ∃ sent ∈ (link.consume subscription after timeMs).requests, sent.2 = timeMs := by
  obtain ⟨events, history, each, some⟩ := turn.frames
  have since := World.since_eq history
  constructor
  · intro sent member
    rcases List.mem_append.mp member with new | earlier
    · obtain ⟨frame, selected, rfl⟩ := List.mem_map.mp new
      obtain ⟨among, asks⟩ := List.mem_filter.mp selected
      rw [since] at among
      obtain ⟨message, sequenceCounter, sent, equal⟩ := each frame among asks
      rw [sends] at sent
      cases sent
      exact .inr ⟨sequenceCounter, equal⟩
    · exact .inl earlier
  · obtain ⟨frame, among, asks⟩ := some subscription.requestedTtl sends
    rw [← since] at among
    refine ⟨(frame.2, timeMs), List.mem_append_left _ (List.mem_map.mpr ⟨frame, ?_, rfl⟩), rfl⟩
    exact List.mem_filter.mpr ⟨among, asks⟩

theorem Renews.silent (turn : Renews subscription.serviceId subscription.eventId
      subscription.clientId nowMs tracker link.consumer after)
    (none : (renewed consumed nowMs tracker).1 = none) :
    (link.consume subscription after timeMs).requests = link.requests := by
  obtain ⟨events, history, each, -⟩ := turn.frames
  apply consume_requests
  rw [World.since_eq history]
  intro sent member
  rw [← Bool.not_eq_true]
  intro asks
  obtain ⟨message, _, sent, -⟩ := each sent member asks
  rw [none] at sent
  cases sent

end Turn

/-- A cycle of the consumer, at the end of which the service is found. -/
theorem RenewalInvariant.consumerHousekeeping
    (fits : 2 * timing.delayMs + timing.gapMs ≤ (subscription.grantedTtl provided).toNat * 500)
    (patient : 2 * timing.delayMs + timing.gapMs ≤ consumed.subscriptionTtlSeconds.toNat * 500)
    (invariant : RenewalInvariant timing subscription link) {timeMs : Nat}
    (onTime : link.OnTime timing timeMs)
    (leaves : LeavesSubscription subscription link.consumer
      (link.consumer.housekeeping consumerEnv (clock timing.senderOffset timeMs)))
    (found : HasFound subscription.serviceId
      (link.consumer.housekeeping consumerEnv (clock timing.senderOffset timeMs))) :
    RenewalInvariant timing subscription
      { link.consume subscription (link.consumer.housekeeping consumerEnv
          (clock timing.senderOffset timeMs)) timeMs with
        lastPass := some timeMs } := by
  let nowMs := clock timing.senderOffset timeMs
  let after := link.consumer.housekeeping consumerEnv nowMs
  let next : SubscriptionLink provided consumed :=
    { link.consume subscription after timeMs with lastPass := some timeMs }
  have turns : ∀ tracker, Tracking subscription.serviceId subscription.eventId
      subscription.clientId (· = tracker) link.consumer →
      Renews subscription.serviceId subscription.eventId subscription.clientId nowMs tracker
        link.consumer after :=
    fun tracker tracking => World.housekeeping_renews tracking leaves found
  have asked : ∀ {tracker}, Renews subscription.serviceId subscription.eventId
      subscription.clientId nowMs tracker link.consumer after →
      (renewed consumed nowMs tracker).1 = some (subscription.message n) →
      (∀ sent ∈ next.requests, ∃ sequenceCounter,
        sent.1 = (subscription.message n).frame subscription.clientId sequenceCounter) ∧
      ∃ sent ∈ next.requests, sent.2 = timeMs := by
    intro tracker turn sends
    obtain ⟨each, some⟩ := @Renews.asks _ _ _ _ link _ _ _ timeMs turn sends
    exact ⟨fun sent member => (each sent member).elim (invariant.requests sent) id, some⟩
  rcases invariant.phase with unasked | ⟨lastSent, lastPass, renewing⟩
  · obtain ⟨tracker, tracked, due⟩ := unasked.tracking.tracks
    have turn := turns tracker
      ⟨unasked.tracking.distinct, ⟨tracker, tracked, rfl⟩, unasked.tracking.clientId⟩
    have key : SubTracker.key tracker = (subscription.serviceId, subscription.eventId) :=
      Table.lookup_key tracked
    have first := due.turn consumed nowMs
    rw [Subscription.message_of_key key] at first
    obtain ⟨each, sent, member, sentNow⟩ := asked turn (congrArg Prod.fst first)
    have becomes : (renewed consumed nowMs tracker).2.Renews timing subscription.requestedTtl
        (subscription.grantedTtl provided) timeMs (Awaits timing timeMs next) := by
      rw [first]
      exact ⟨due.requestedTtl, due.kept, .inr ⟨due.active,
        .inr ⟨due.granted, .inr (.inl ⟨sent, member, sentNow.le⟩)⟩, .inr rfl⟩⟩
    refine ⟨invariant.distinct, each, invariant.acks, .inr ⟨timeMs, timeMs, ?_⟩⟩
    exact {
      tracking := turn.tracking.imp fun _ same => same ▸ becomes
      last := rfl
      past := Nat.le_refl _
      order := Nat.le_refl _
      early := Nat.le_add_right _ _
      lease := .inl ⟨unasked.acks, unasked.answers⟩ }
  · obtain ⟨tracker, tracked, renews⟩ := renewing.tracking.tracks
    have turn := turns tracker
      ⟨renewing.tracking.distinct, ⟨tracker, tracked, rfl⟩, renewing.tracking.clientId⟩
    have key : SubTracker.key tracker = (subscription.serviceId, subscription.eventId) :=
      Table.lookup_key tracked
    have past := renewing.past
    have order := renewing.order
    have early := renewing.early
    have forward := onTime.forward
    have cycle := onTime.cycle lastPass renewing.last
    rcases renews.turn fits patient (by omega) (by omega) (fun awaits => awaits.inTime onTime) with
      ⟨sends, becomes⟩ | ⟨none, stillEarly, becomes⟩
    · rw [Subscription.message_of_key key] at sends
      obtain ⟨each, sent, member, sentNow⟩ := asked turn sends
      have awaits : Awaits timing timeMs next := .inl ⟨sent, member, sentNow.le⟩
      refine ⟨invariant.distinct, each, invariant.acks, .inr ⟨timeMs, timeMs, ?_⟩⟩
      exact {
        tracking := turn.tracking.imp fun _ same => same ▸ becomes _ awaits
        last := rfl
        past := Nat.le_refl _
        order := Nat.le_refl _
        early := Nat.le_add_right _ _
        lease := renewing.lease.imp id fun ⟨accepted, endMs, subscriber, lease⟩ => by
          refine ⟨accepted, endMs, subscriber, lease.subscribed, lease.expiry, ?_, .inl ?_⟩
          · have short := lease.short
            change endMs ≤ timeMs + _
            omega
          · rcases lease.covered with ⟨earlier, flying, arrives⟩ | later
            · exact ⟨earlier, List.mem_append_right _ flying, arrives⟩
            · exact ⟨sent, member, by omega⟩ }
    · have same : next.requests = link.requests := turn.silent none
      have awaits : Awaits timing lastSent next = Awaits timing lastSent link := by
        rw [Awaits, same]
        rfl
      refine ⟨invariant.distinct, ?_, invariant.acks, .inr ⟨lastSent, timeMs, ?_⟩⟩
      · change ∀ sent ∈ next.requests, _
        rw [same]
        exact invariant.requests
      · exact {
          tracking := turn.tracking.imp fun _ equal => by
            rw [equal, awaits]
            exact becomes
          last := rfl
          past := Nat.le_refl _
          order := by omega
          early := stillEarly
          lease := renewing.lease.imp id fun ⟨accepted, endMs, subscriber, lease⟩ =>
            ⟨accepted, endMs, subscriber, lease.consume rfl forward fun sent member => by
              rw [same]
              exact member⟩ }

/-! ## Runs -/

/-- Answers are added to, never forgotten. -/
theorem RenewalStep.answers {next : SubscriptionLink provided consumed}
    (step : RenewalStep providerEnv consumerEnv timing subscription link next) :
    ∃ newer, next.answers = newer ++ link.answers := by
  cases step with
  | providerRequest => exact ⟨_, rfl⟩
  | _ => exact ⟨[], rfl⟩

theorem SubscriptionLink.Accepted.step {next : SubscriptionLink provided consumed}
    (accepted : link.Accepted)
    (step : RenewalStep providerEnv consumerEnv timing subscription link next) :
    next.Accepted := by
  obtain ⟨frame, granted, last, isFirst⟩ := accepted
  obtain ⟨newer, answers⟩ := step.answers
  refine ⟨frame, granted, ?_, isFirst⟩
  rw [answers]
  exact getLast?_append_of_some last

theorem SubscriptionLink.Refused.step {next : SubscriptionLink provided consumed}
    (refused : link.Refused)
    (step : RenewalStep providerEnv consumerEnv timing subscription link next) :
    next.Refused := by
  obtain ⟨frame, result, granted, last, isFirst⟩ := refused
  obtain ⟨newer, answers⟩ := step.answers
  refine ⟨frame, result, granted, ?_, isFirst⟩
  rw [answers]
  exact getLast?_append_of_some last

/-- The provider cannot have done both. -/
theorem SubscriptionLink.Accepted.not_refused (accepted : link.Accepted) : ¬link.Refused := by
  obtain ⟨frame, granted, last, isOk⟩ := accepted
  rintro ⟨other, result, refusal, first, carried, notOk⟩
  cases last.symm.trans first
  cases isOk.symm.trans carried
  exact notOk rfl

theorem RenewalStep.invariant
    (fits : 2 * timing.delayMs + timing.gapMs ≤ (subscription.grantedTtl provided).toNat * 500)
    (patient : 2 * timing.delayMs + timing.gapMs ≤ consumed.subscriptionTtlSeconds.toNat * 500)
    {next : SubscriptionLink provided consumed}
    (step : RenewalStep providerEnv consumerEnv timing subscription link next)
    (invariant : RenewalInvariant timing subscription link) :
    RenewalInvariant timing subscription next ∨ next.Refused := by
  cases step with
  | consumerCall call _ leaves =>
      have steps : DiscoverySteps consumerEnv 0 none link.consumer _ :=
        World.perform_discoverySteps call link.consumer
      exact .inl (invariant.consumerKeeps 0 (Nat.le_refl _)
        (fun _ _ => steps.keepsTracker (by simp) (by simp)) leaves)
  | consumerStart timeMs onTime =>
      have steps : DiscoverySteps consumerEnv (clock timing.senderOffset timeMs) none
          link.consumer _ := .single (.startCycle link.consumer)
      have quiet : LeavesSubscription subscription link.consumer
          (link.consumer.startCycle (clock timing.senderOffset timeMs)) := by
        have history : (link.consumer.startCycle
            (clock timing.senderOffset timeMs)).history = [] ++ link.consumer.history := rfl
        rw [LeavesSubscription, World.since_eq history]
        rfl
      exact .inl (invariant.consumerKeeps (clock timing.senderOffset timeMs) onTime.forward
        (fun _ _ => steps.keepsTracker (by simp) (by simp)) quiet)
  | consumerReceive source data timeMs onTime other leaves =>
      have steps : DiscoverySteps consumerEnv (clock timing.senderOffset timeMs)
          (heard consumed source data) link.consumer _ :=
        World.receive_discoverySteps source data link.consumer
      exact .inl (invariant.consumerKeeps (clock timing.senderOffset timeMs) onTime.forward
        (fun _ closed => steps.keepsTracker (fun _ _ => closed _) other) leaves)
  | consumerAck source timeMs onTime arrives handled leaves =>
      exact .inl (invariant.consumerAck source onTime arrives handled leaves)
  | consumerHousekeeping timeMs onTime leaves found =>
      exact .inl (invariant.consumerHousekeeping fits patient onTime leaves found)
  | providerCall call =>
      have steps : ∀ subscriber : Subscriber n, DiscoverySteps providerEnv subscriber.expiryMs
          none link.provider _ := fun _ => World.perform_discoverySteps call link.provider
      refine .inl (invariant.providerKeeps (Nat.le_refl _)
        (fun subscriber => (steps subscriber).keepsSubscriber (by simp)) ?_)
      intro _ _ _ subscriber _ _ _
      rw [← Bool.not_eq_true, timeAfter_iff, UInt32.sub_self]
      exact fun passed => absurd passed.1 (Nat.lt_irrefl 0)
  | providerStart timeMs onTime =>
      have steps : DiscoverySteps providerEnv (clock timing.receiverOffset timeMs) none
          link.provider _ := .single (.startCycle link.provider)
      exact .inl (invariant.providerKeeps onTime.forward
        (fun _ => steps.keepsSubscriber (by simp))
        fun last early lease => lease.unexpired fits onTime last early)
  | providerReceive source data timeMs onTime other =>
      have steps : DiscoverySteps providerEnv (clock timing.receiverOffset timeMs)
          (heard provided source data) link.provider _ :=
        World.receive_discoverySteps source data link.provider
      exact .inl (invariant.providerKeeps onTime.forward
        (fun _ => steps.keepsSubscriber other)
        fun last early lease => lease.unexpired fits onTime last early)
  | providerRequest source timeMs onTime arrives handled =>
      exact invariant.providerRequest source onTime arrives handled
  | providerHousekeeping timeMs onTime =>
      exact .inl (invariant.providerKeeps onTime.forward
        (fun _ => World.housekeeping_keepsSubscriber link.provider)
        fun last early lease => lease.unexpired fits onTime last early)

theorem RenewalRun.invariant
    (fits : 2 * timing.delayMs + timing.gapMs ≤ (subscription.grantedTtl provided).toNat * 500)
    (patient : 2 * timing.delayMs + timing.gapMs ≤ consumed.subscriptionTtlSeconds.toNat * 500)
    {later : SubscriptionLink provided consumed}
    (run : RenewalRun providerEnv consumerEnv timing subscription link later)
    (invariant : RenewalInvariant timing subscription link) :
    RenewalInvariant timing subscription later ∨ later.Refused := by
  induction run with
  | refl => exact .inl invariant
  | tail _ step ih =>
      rcases ih with holds | refused
      · exact step.invariant fits patient holds
      · exact .inr (refused.step step)

theorem SubscriptionLink.Accepted.run {later : SubscriptionLink provided consumed}
    (accepted : link.Accepted)
    (run : RenewalRun providerEnv consumerEnv timing subscription link later) :
    later.Accepted :=
  Runs.invariant (fun _ _ holds step => holds.step step) run accepted

theorem JustSubscribed.invariant
    (begins : JustSubscribed providerEnv consumerEnv subscription link) :
    RenewalInvariant timing subscription link := by
  refine ⟨begins.provider.distinctSubscribers, ?_, ?_, .inl ⟨?_, begins.requests, begins.acks,
    begins.answers⟩⟩
  · simp [begins.requests]
  · simp [begins.acks]
  · exact ⟨begins.consumer.distinctTrackers, begins.due, begins.clientId⟩

end Invariant

/-- An acknowledgement grants the lease that is installed.  While requests, answers and the
consumer's cycles come within half the lifetime, a subscription whose first request was
accepted is kept. -/
theorem subscription_kept_alive :
    (∀ {n : Nat} {cfg : Config n} (env : Env cfg) (source : Address n) (hdr : MessageHeader)
      (request : SdPayload.Subscribe) (nowMs : UInt32) (w : World cfg),
      AnswersSubscription cfg source hdr.clientId request nowMs w
        (w.handleSubscribeRequest env source hdr request nowMs)) ∧
    ∀ {n : Nat} {provided consumed : Config n} {providerEnv : Env provided}
      {consumerEnv : Env consumed} {timing : Timing} {subscription : Subscription}
      {start link later : SubscriptionLink provided consumed},
      2 * timing.delayMs + timing.gapMs ≤ (subscription.grantedTtl provided).toNat * 500 →
      2 * timing.delayMs + timing.gapMs ≤ consumed.subscriptionTtlSeconds.toNat * 500 →
      JustSubscribed providerEnv consumerEnv subscription start →
      RenewalRun providerEnv consumerEnv timing subscription start link → link.Accepted →
      RenewalRun providerEnv consumerEnv timing subscription link later →
      ∃ subscriber, later.provider.rt.eventManager.subscriber subscription.serviceId
        subscription.eventId subscription.clientId = some subscriber := by
  constructor
  · intro n cfg env source hdr request nowMs w
    exact World.handleSubscribeRequest_answers
  · intro n provided consumed providerEnv consumerEnv timing subscription start link later fits
      patient begins before accepted onward
    have stillAccepted : later.Accepted := accepted.run onward
    rcases RenewalRun.invariant fits patient (before.trans onward) begins.invariant with
      invariant | refused
    · rcases invariant.phase with unasked | ⟨lastSent, lastPass, renewing⟩
      · obtain ⟨frame, granted, last, -⟩ := stillAccepted
        rw [unasked.answers] at last
        cases last
      · rcases renewing.lease with ⟨-, none⟩ | ⟨-, endMs, subscriber, lease⟩
        · obtain ⟨frame, granted, last, -⟩ := stillAccepted
          rw [none] at last
          cases last
        · exact ⟨subscriber, lease.subscribed⟩
    · exact absurd refused stillAccepted.not_refused

/-- The gap and two delays together are half the lifetime, and both clocks start one
millisecond before their wrap. -/
def wrappingRenewals : Timing where
  gapMs := 3000
  delayMs := 1000
  senderOffset := 0xffffffff
  receiverOffset := 0xffffffff

def freshSubscription : Subscription where
  serviceId := 0x1000
  eventId := 0x8001
  clientId := 2
  requestedTtl := 10

/-- A provider that has just broadcast its offer. -/
def eventProvider : World embeddedConfig :=
  World.run (.benign _)
    [.api (.registerService 0x1000 0 1 0 false), .api (.registerEvent 0x1000 0x8001),
      .api (.offerService 0x1000 5 0xffffffff), .housekeeping 0xffffffff]
    (World.initial _ 1)

/-- What it broadcast. -/
def eventOffer : Bytes := (eventProvider.traffic.map Prod.snd).headD []

/-- The consumer has heard the offer and subscribes. -/
def subscribedLink : SubscriptionLink embeddedConfig embeddedConfig where
  provider := eventProvider
  consumer := World.run (.benign _)
    [.api (.findService 0x1000 1 0xffffffff),
      .deliver (Address.filled 8 1) eventOffer 0xffffffff,
      .api (.subscribeEvent 0x1000 0x8001 0 10 0xffffffff)]
    (World.initial _ 2)
  timeMs := 0

/-- The consumer's first request is on its way. -/
def requestedLink : SubscriptionLink embeddedConfig embeddedConfig :=
  { subscribedLink.consume freshSubscription (subscribedLink.consumer.housekeeping (.benign _)
      (clock wrappingRenewals.senderOffset 10)) 10 with lastPass := some 10 }

def firstRequest : Bytes × Nat := requestedLink.requests.headD ([], 0)

/-- The provider has accepted it. -/
def acceptedLink : SubscriptionLink embeddedConfig embeddedConfig :=
  requestedLink.answer (Address.filled 8 2) firstRequest
    (requestedLink.provider.validateAndDispatch (.benign _) (Address.filled 8 2)
      firstRequest.1 (clock wrappingRenewals.receiverOffset 1010)) 1010

def firstAnswer : Bytes × Nat := acceptedLink.acks.headD ([], 0)

/-- The consumer knows. -/
def acknowledgedLink : SubscriptionLink embeddedConfig embeddedConfig :=
  { acceptedLink.consume freshSubscription (acceptedLink.consumer.validateAndDispatch
      (.benign _) (Address.filled 8 1) firstAnswer.1
      (clock wrappingRenewals.senderOffset 2010)) 2010 with
    acks := acceptedLink.acks.erase firstAnswer }

/-- When the consumer's next cycle is due the provider comes round. -/
def renewableLink : SubscriptionLink embeddedConfig embeddedConfig :=
  acknowledgedLink.provide (acknowledgedLink.provider.housekeeping (.benign _)
    (clock wrappingRenewals.receiverOffset 3010)) 3010

def freshTracker : SubTracker where
  serviceId := 0x1000
  eventId := 0x8001
  requestedTtl := 10
  active := true
  appRegistered := true
  needsSend := true
  lastSentMs := 0xffffffff

theorem fresh_justSubscribed :
    JustSubscribed (.benign _) (.benign _) freshSubscription subscribedLink := by
  refine ⟨⟨1, _, rfl⟩, ⟨2, _, rfl⟩, by decide +kernel, ⟨freshTracker, by decide +kernel, ?_⟩,
    rfl, rfl, rfl⟩
  exact ⟨rfl, rfl, rfl, rfl, rfl⟩

/-- The last pass comes when the next cycle of the consumer is due. -/
theorem subscription_kept_alive_until_due :
    ∃ subscriber, renewableLink.provider.rt.eventManager.subscriber 0x1000 0x8001 2 =
      some subscriber := by
  have asks : RenewalStep (.benign _) (.benign _) wrappingRenewals freshSubscription
      subscribedLink requestedLink := by
    refine .consumerHousekeeping 10 ⟨by decide, by decide, by decide, by decide⟩
      (by decide +kernel) ?_
    rw [hasFound_iff]
    decide +kernel
  have accepts : RenewalStep (.benign _) (.benign _) wrappingRenewals freshSubscription
      requestedLink acceptedLink :=
    .providerRequest (Address.filled 8 2) 1010
      ⟨by decide, by decide +kernel, by decide +kernel, by decide +kernel⟩
      (by decide +kernel) (by decide +kernel)
  have knows : RenewalStep (.benign _) (.benign _) wrappingRenewals freshSubscription
      acceptedLink acknowledgedLink :=
    .consumerAck (Address.filled 8 1) 2010
      ⟨by decide, by decide +kernel, by decide +kernel, by decide +kernel⟩
      (by decide +kernel) (by decide +kernel) (by decide +kernel)
  have comes : RenewalStep (.benign _) (.benign _) wrappingRenewals freshSubscription
      acknowledgedLink renewableLink :=
    .providerHousekeeping 3010
      ⟨by decide, by decide +kernel, by decide +kernel, by decide +kernel⟩
  have accepted : acceptedLink.Accepted :=
    ⟨firstAnswer.1, ⟨0x1000, 0x8001, 10⟩, by decide +kernel, by decide +kernel⟩
  have before : RenewalRun (.benign _) (.benign _) wrappingRenewals freshSubscription
      subscribedLink acceptedLink := .tail (.single asks) accepts
  have onward : RenewalRun (.benign _) (.benign _) wrappingRenewals freshSubscription
      acceptedLink renewableLink := .tail (.single knows) comes
  have fits : 2 * wrappingRenewals.delayMs + wrappingRenewals.gapMs ≤
      (freshSubscription.grantedTtl embeddedConfig).toNat * 500 := by decide +kernel
  have patient : 2 * wrappingRenewals.delayMs + wrappingRenewals.gapMs ≤
      embeddedConfig.subscriptionTtlSeconds.toNat * 500 := by decide +kernel
  have kept : ∃ subscriber, renewableLink.provider.rt.eventManager.subscriber
      freshSubscription.serviceId freshSubscription.eventId freshSubscription.clientId =
        some subscriber :=
    subscription_kept_alive.2 fits patient fresh_justSubscribed before accepted onward
  exact kept

end Sero
