import Sero.Properties.ConsumerLease
import Sero.Properties.OfferFrames

/-!
# An offer is kept alive

A provider broadcasts its offers again at half their lifetime.  A consumer loses a
service one millisecond after its lifetime has passed.  Between the two lies half a
lifetime for the provider to come round and for the broadcast to arrive, whatever the
two clocks show.
-/

namespace Sero

open Library ServiceDiscovery

variable {n : Nat} {provided consumed : Config n}

/-! ## Two devices in true time -/

/-- A provider, a consumer and what is between them: the frames the provider has sent
since it offered the service, and the broadcast offers of it that have not been handled,
with the time they were sent. -/
structure OfferLink (provided consumed : Config n) where
  provider : World provided
  consumer : World consumed
  timeMs : Nat
  lastCycle : Option Nat := none
  published : List Bytes := []
  inFlight : List (Bytes × Nat) := []

/-- Does a datagram offer a service to a receiver? -/
def offersService (receiver : Config n) (serviceId : UInt16) (data : Bytes) : Bool :=
  (offerIn receiver data).any fun offer => offer.serviceId == serviceId

namespace OfferLink

/-- The provider moves on, and what it sends is on its way. -/
def provide (serviceId : UInt16) (after : World provided) (timeMs : Nat)
    (link : OfferLink provided consumed) : OfferLink provided consumed :=
  let frames := (after.since link.provider).filterMap Event.sdFrame
  let broadcast := frames.filter fun sent =>
    sent.1.isNone && offersService consumed serviceId sent.2
  { link with
    provider := after
    timeMs
    published := frames.map Prod.snd ++ link.published
    inFlight := broadcast.map (fun sent => (sent.2, timeMs)) ++ link.inFlight }

/-- The consumer moves on. -/
def consume (after : World consumed) (timeMs : Nat) (link : OfferLink provided consumed) :
    OfferLink provided consumed :=
  { link with consumer := after, timeMs }

/-- Until this time neither the provider is late with its cycle nor a broadcast with its
arrival. -/
structure OnTime (timing : Timing) (timeMs : Nat) (link : OfferLink provided consumed) :
    Prop where
  forward : link.timeMs ≤ timeMs
  cycle : ∀ last ∈ link.lastCycle, timeMs ≤ last + timing.gapMs
  arrival : ∀ sent ∈ link.inFlight, timeMs ≤ sent.2 + timing.delayMs

end OfferLink

/-- Between two worlds the application has looked for the service only while it was not
found. -/
def FindsUnfound (serviceId : UInt16) (before after : World consumed) : Prop :=
  finds serviceId (after.since before) = true →
    ¬HasFound serviceId before ∧ ¬HasFound serviceId after

/-- What can happen while the provider keeps its offer.  The provider's cycles are whole,
the consumer's are taken apart into moves.  Of the datagrams that offer the service, the
consumer gets only what this provider has sent. -/
inductive LinkStep (providerEnv : Env provided) (consumerEnv : Env consumed)
    (timing : Timing) (serviceId : UInt16) :
    OfferLink provided consumed → OfferLink provided consumed → Prop where
  | providerCall (call : ApiCall provided) (link : OfferLink provided consumed)
      (keeps : reoffers serviceId ((link.provider.perform providerEnv
        (World.react providerEnv) call).since link.provider) = false) :
      LinkStep providerEnv consumerEnv timing serviceId link
        (link.provide serviceId
          (link.provider.perform providerEnv (World.react providerEnv) call) link.timeMs)
  | providerCycle (inbox : List (Address n × Bytes)) (timeMs : Nat)
      {link : OfferLink provided consumed} (onTime : link.OnTime timing timeMs)
      (keeps : reoffers serviceId ((link.provider.process providerEnv inbox
        (clock timing.senderOffset timeMs)).since link.provider) = false) :
      LinkStep providerEnv consumerEnv timing serviceId link
        { link.provide serviceId (link.provider.process providerEnv inbox
            (clock timing.senderOffset timeMs)) timeMs with
          lastCycle := some timeMs }
  | consumerCall (call : ApiCall consumed) (link : OfferLink provided consumed)
      (looks : FindsUnfound serviceId link.consumer
        (link.consumer.perform consumerEnv (World.react consumerEnv) call)) :
      LinkStep providerEnv consumerEnv timing serviceId link
        (link.consume (link.consumer.perform consumerEnv (World.react consumerEnv) call)
          link.timeMs)
  | consumerStart (timeMs : Nat) {link : OfferLink provided consumed}
      (onTime : link.OnTime timing timeMs) :
      LinkStep providerEnv consumerEnv timing serviceId link
        (link.consume (link.consumer.startCycle (clock timing.receiverOffset timeMs)) timeMs)
  | consumerReceive (source : Address n) (data : Bytes) (timeMs : Nat)
      {link : OfferLink provided consumed} (onTime : link.OnTime timing timeMs)
      (origin : data ∈ link.published ∨ offersService consumed serviceId data = false)
      (looks : FindsUnfound serviceId link.consumer (link.consumer.validateAndDispatch
        consumerEnv source data (clock timing.receiverOffset timeMs))) :
      LinkStep providerEnv consumerEnv timing serviceId link
        { link.consume (link.consumer.validateAndDispatch consumerEnv source data
            (clock timing.receiverOffset timeMs)) timeMs with
          inFlight := link.inFlight.filter fun sent => sent.1 != data }
  | consumerHousekeeping (timeMs : Nat) {link : OfferLink provided consumed}
      (onTime : link.OnTime timing timeMs)
      (looks : FindsUnfound serviceId link.consumer (link.consumer.housekeeping consumerEnv
        (clock timing.receiverOffset timeMs))) :
      LinkStep providerEnv consumerEnv timing serviceId link
        (link.consume (link.consumer.housekeeping consumerEnv
          (clock timing.receiverOffset timeMs)) timeMs)

/-- Any number of them. -/
abbrev LinkRun (providerEnv : Env provided) (consumerEnv : Env consumed) (timing : Timing)
    (serviceId : UInt16) : OfferLink provided consumed → OfferLink provided consumed → Prop :=
  Relation.ReflTransGen (LinkStep providerEnv consumerEnv timing serviceId)

/-- The offer has not been broadcast yet. -/
structure Unsent (offer : ProviderEntry) (link : OfferLink provided consumed) : Prop where
  first : offer.needsBroadcast = true
  lastCycle : link.lastCycle = none
  published : link.published = []
  inFlight : link.inFlight = []

/-- The offer was made in a callback of the cycle that has just ended, and this cycle has
broadcast it. -/
structure SentAtOnce (timing : Timing) (offer : ProviderEntry)
    (link : OfferLink provided consumed) : Prop where
  broadcast : offer.needsBroadcast = false
  lastCycle : link.lastCycle = some link.timeMs
  lastOffer : offer.lastOfferMs = clock timing.senderOffset link.timeMs
  published : ∀ frame ∈ link.published,
    Announces provided consumed link.provider.rt.sd.clientId offer frame
  inFlight : ∀ sent ∈ link.inFlight, offersService consumed offer.serviceId sent.1 = true

/-- The provider has just offered the service, and the consumer has not found it. -/
structure JustOffered (providerEnv : Env provided) (consumerEnv : Env consumed)
    (timing : Timing) (offer : ProviderEntry) (link : OfferLink provided consumed) :
    Prop where
  provider : World.Reachable providerEnv link.provider
  consumer : World.Reachable consumerEnv link.consumer
  entry : link.provider.rt.sd.findProvider offer.serviceId = some offer
  offered : offer.state = .offered
  recent : Unsent offer link ∨ SentAtOnce timing offer link
  unfound : ¬HasFound offer.serviceId link.consumer

/-- The entry of an offer that was last broadcast at this time. -/
def sentAt (timing : Timing) (offer : ProviderEntry) (lastOffer : Nat) : ProviderEntry :=
  { offer with
    lastOfferMs := clock timing.senderOffset lastOffer
    needsBroadcast := false }

/-- The consumer holds the service until `endMs`; by then an offer that is on its way, or
else the next one, will have arrived. -/
structure CoveredLease (timing : Timing) (offer : ProviderEntry) (clientId : UInt16)
    (lastOffer endMs : Nat) (held : ConsumerEntry n) (link : OfferLink provided consumed) :
    Prop where
  tracked : link.consumer.rt.sd.findConsumer offer.serviceId = some held
  found : held.state = .found
  session : held.sessionId = offer.sessionId
  major : offer.majorVersion = held.expectedMajor
  expiry : held.ttlExpiryMs = clock timing.receiverOffset endMs
  short : endMs ≤ link.timeMs + offer.ttlSeconds.toNat * 1000
  covered : (∃ sent ∈ link.inFlight, sent.2 + timing.delayMs ≤ endMs) ∨
    lastOffer + offer.ttlSeconds.toNat * 500 + timing.gapMs + timing.delayMs ≤ endMs
  heard : clientId ≠ 0 ∧ 8 + n ≤ consumed.maxPayloadSize ∧
    ∀ addr : Address n, (ProviderEntry.offerMessage offer addr).Fits provided clientId

/-- The last broadcast was at `lastOffer`, and the last cycle came before the next is
due. -/
structure Broadcasting (timing : Timing) (offer : ProviderEntry) (clientId : UInt16)
    (link : OfferLink provided consumed) (lastCycle lastOffer : Nat) : Prop where
  entry : Offering clientId (sentAt timing offer lastOffer) link.provider
  last : link.lastCycle = some lastCycle
  past : lastCycle ≤ link.timeMs
  order : lastOffer ≤ lastCycle
  early : lastCycle < lastOffer + offer.ttlSeconds.toNat * 500
  lease : HasFound offer.serviceId link.consumer →
    ∃ endMs held, CoveredLease timing offer clientId lastOffer endMs held link

/-- Nothing has offered the service yet. -/
structure Waiting (offer : ProviderEntry) (clientId : UInt16)
    (link : OfferLink provided consumed) : Prop where
  entry : Offering clientId offer link.provider
  first : offer.needsBroadcast = true
  last : link.lastCycle = none
  silent : ∀ frame ∈ link.published, offersService consumed offer.serviceId frame = false
  unfound : ¬HasFound offer.serviceId link.consumer

structure LinkInvariant (timing : Timing) (offer : ProviderEntry) (clientId : UInt16)
    (link : OfferLink provided consumed) : Prop where
  phase : Waiting offer clientId link ∨
    ∃ lastCycle lastOffer, Broadcasting timing offer clientId link lastCycle lastOffer
  announced : ∀ frame ∈ link.published, Announces provided consumed clientId offer frame
  flying : ∀ sent ∈ link.inFlight, offersService consumed offer.serviceId sent.1 = true
  distinct : link.consumer.rt.sd.DistinctConsumers

section Invariant

variable {providerEnv : Env provided} {consumerEnv : Env consumed} {timing : Timing}
variable {offer : ProviderEntry} {clientId : UInt16} {link : OfferLink provided consumed}

theorem JustOffered.invariant
    (begins : JustOffered providerEnv consumerEnv timing offer link)
    (hasTtl : offer.ttlSeconds ≠ 0) :
    LinkInvariant timing offer link.provider.rt.sd.clientId link := by
  have tracked : OffersTracked link.provider := begins.provider.invariant .initial
    fun _ _ _ tracked step => tracked.step step
  have offering : Offering link.provider.rt.sd.clientId offer link.provider :=
    ⟨tracked.distinct, begins.entry, rfl⟩
  have positive : 0 < offer.ttlSeconds.toNat := by
    rw [Nat.pos_iff_ne_zero]
    exact fun zero => hasTtl (UInt16.toNat_inj.mp zero)
  rcases begins.recent with unsent | sent
  · refine ⟨.inl ⟨offering, unsent.first, unsent.lastCycle, ?_, begins.unfound⟩, ?_, ?_,
      begins.consumer.distinctConsumers⟩
    · simp [unsent.published]
    · simp [unsent.published]
    · simp [unsent.inFlight]
  · have same : sentAt timing offer link.timeMs = offer := by
      rw [sentAt, ← sent.lastOffer, ← sent.broadcast]
    refine ⟨.inr ⟨link.timeMs, link.timeMs, ?_⟩, sent.published, sent.inFlight,
      begins.consumer.distinctConsumers⟩
    exact {
      entry := by rw [same]; exact offering
      last := sent.lastCycle
      past := Nat.le_refl _
      order := Nat.le_refl _
      early := by omega
      lease := fun found => absurd found begins.unfound }

/-! ## Steps of the two devices -/

namespace CoveredLease

variable {lastOffer endMs : Nat} {held : ConsumerEntry n}

/-- The lease does not end before the next thing happens. -/
theorem inTime {timeMs lastCycle : Nat}
    (lease : CoveredLease timing offer clientId lastOffer endMs held link)
    (onTime : link.OnTime timing timeMs) (last : link.lastCycle = some lastCycle)
    (early : lastCycle < lastOffer + offer.ttlSeconds.toNat * 500) : timeMs ≤ endMs := by
  rcases lease.covered with ⟨sent, flying, arrives⟩ | later
  · exact (onTime.arrival sent flying).trans arrives
  · have cycle := onTime.cycle lastCycle last
    omega

theorem unexpired {timeMs lastCycle : Nat}
    (lease : CoveredLease timing offer clientId lastOffer endMs held link)
    (onTime : link.OnTime timing timeMs) (last : link.lastCycle = some lastCycle)
    (early : lastCycle < lastOffer + offer.ttlSeconds.toNat * 500) :
    timeAfter (clock timing.receiverOffset timeMs) held.ttlExpiryMs = false := by
  have ahead := lease.inTime onTime last early
  have short := lease.short
  have forward := onTime.forward
  have seconds := offer.ttlSeconds.toNat_lt
  rw [lease.expiry, ← Bool.not_eq_true,
    timeAfter_clock timing.receiverOffset (by omega) (by omega)]
  exact Nat.not_lt.mpr ahead

end CoveredLease

/-- A call of the provider's application. -/
theorem LinkInvariant.providerCall (invariant : LinkInvariant timing offer clientId link)
    (call : ApiCall provided)
    (keeps : reoffers offer.serviceId ((link.provider.perform providerEnv
      (World.react providerEnv) call).since link.provider) = false) :
    LinkInvariant timing offer clientId (link.provide offer.serviceId
      (link.provider.perform providerEnv (World.react providerEnv) call) link.timeMs) := by
  let after := link.provider.perform providerEnv (World.react providerEnv) call
  have steps : PlainSteps providerEnv link.provider after :=
    (World.perform_steps World.react_steps call link.provider).plainSteps
  obtain ⟨events, history⟩ := steps.steps.suffix
  have since : after.since link.provider = events := World.since_eq history.symm
  have silent : events.filterMap Event.sdFrame = [] :=
    List.append_cancel_right ((World.traffic_append history.symm).symm.trans
      (steps.traffic.trans (List.nil_append _).symm))
  have stays : link.provide offer.serviceId after link.timeMs =
      { link with provider := after } := by
    simp [OfferLink.provide, since, silent]
  have offering : ∀ entry, entry.serviceId = offer.serviceId →
      Offering clientId entry link.provider → Offering clientId entry after := by
    intro entry same offering
    have stepsOf : DiscoverySteps providerEnv 0 none link.provider after := steps.discoverySteps
    obtain ⟨again, againEq, holds⟩ := @DiscoverySteps.keepsOffering _ _ providerEnv clientId
      entry 0 none consumed _ _ stepsOf
    cases List.append_cancel_right (history.trans againEq)
    rw [same] at holds
    exact (holds (since ▸ keeps) offering).1
  rw [stays]
  refine ⟨?_, invariant.announced, invariant.flying, invariant.distinct⟩
  rcases invariant.phase with waiting | ⟨lastCycle, lastOffer, broadcasting⟩
  · exact .inl ⟨offering _ rfl waiting.entry, waiting.first, waiting.last, waiting.silent,
      waiting.unfound⟩
  · refine .inr ⟨lastCycle, lastOffer, ?_⟩
    exact {
      entry := offering _ rfl broadcasting.entry
      last := broadcasting.last
      past := broadcasting.past
      order := broadcasting.order
      early := broadcasting.early
      lease := fun found => by
        obtain ⟨endMs, held, lease⟩ := broadcasting.lease found
        exact ⟨endMs, held, { lease with }⟩ }

/-- Is the offer due in a cycle at this time? -/
theorem shouldSend_sentAt {lastOffer timeMs : Nat} (offered : offer.state = .offered)
    (order : lastOffer ≤ timeMs) (near : timeMs < lastOffer + 0x80000000) :
    ProviderEntry.shouldSend (sentAt timing offer lastOffer) (clock timing.senderOffset timeMs) =
      true ↔ lastOffer + offer.ttlSeconds.toNat * 500 ≤ timeMs := by
  have half := toNat_halfLifetime offer.ttlSeconds
  have seconds := offer.ttlSeconds.toNat_lt
  rw [ProviderEntry.shouldSend, sentAt]
  simp only [offered, decide_true, Bool.false_or, Bool.true_and]
  rw [clock_add, half, timeAfterOrEq_clock timing.senderOffset (by omega) (by omega)]

/-- What the offer's entry becomes in a cycle that broadcasts it. -/
theorem broadcastAt_of_due {entry : ProviderEntry} {timeMs : Nat}
    (due : ProviderEntry.shouldSend entry (clock timing.senderOffset timeMs) = true)
    (same : sentAt timing entry timeMs = sentAt timing offer timeMs) :
    ProviderEntry.broadcastAt (clock timing.senderOffset timeMs) entry =
      sentAt timing offer timeMs := by
  rw [ProviderEntry.broadcastAt, if_pos due, ← same, sentAt]

/-- What a frame of the offer is decoded to. -/
def offeredAs (offer : ProviderEntry) (addr : Address n) : SdPayload.Offer n where
  serviceId := offer.serviceId
  majorVersion := offer.majorVersion
  minorVersion := offer.minorVersion
  ttlSeconds := offer.ttlSeconds
  sessionId := offer.sessionId
  providerAddr := addr

theorem eq_offeredAs {addr : Address n} {content : SdPayload.Offer n}
    (message : ProviderEntry.offerMessage offer addr = content.message) :
    content = offeredAs offer addr := by
  obtain ⟨service, major, minor, ttl, session, provider⟩ := SdMessage.offer.inj message
  rw [offeredAs, service, major, minor, ttl, session, provider]

/-- A broadcast offer is on its way to every receiver that can hear it. -/
theorem broadcast_flies {frames : List (Option (Address n) × Bytes)} {addr : Address n}
    {sequenceCounter : UInt8}
    (heard : clientId ≠ 0 ∧ 8 + n ≤ consumed.maxPayloadSize ∧
      ∀ addr : Address n, (ProviderEntry.offerMessage offer addr).Fits provided clientId)
    (sent : (none, (ProviderEntry.offerMessage offer addr).frame clientId sequenceCounter) ∈
      frames) (timeMs : Nat) :
    ((ProviderEntry.offerMessage offer addr).frame clientId sequenceCounter, timeMs) ∈
      (frames.filter fun sent =>
        sent.1.isNone && offersService consumed offer.serviceId sent.2).map
          fun sent => (sent.2, timeMs) := by
  obtain ⟨own, roomy, fits⟩ := heard
  apply List.mem_map.mpr
  refine ⟨_, List.mem_filter.mpr ⟨sent, ?_⟩, rfl⟩
  have carried : offerIn consumed
      ((ProviderEntry.offerMessage offer addr).frame clientId sequenceCounter) =
        some (offeredAs offer addr) := (offerIn_frame (fits addr)).mpr ⟨rfl, own, roomy⟩
  simp [offersService, carried, offeredAs]

/-- A cycle of the provider. -/
theorem LinkInvariant.providerCycle (fits : timing.gapMs + timing.delayMs ≤
      offer.ttlSeconds.toNat * 500) (hasTtl : offer.ttlSeconds ≠ 0)
    (offered : offer.state = .offered) (invariant : LinkInvariant timing offer clientId link)
    (inbox : List (Address n × Bytes)) {timeMs : Nat} (onTime : link.OnTime timing timeMs)
    (keeps : reoffers offer.serviceId ((link.provider.process providerEnv inbox
      (clock timing.senderOffset timeMs)).since link.provider) = false) :
    LinkInvariant timing offer clientId
      { link.provide offer.serviceId (link.provider.process providerEnv inbox
          (clock timing.senderOffset timeMs)) timeMs with
        lastCycle := some timeMs } := by
  let after := link.provider.process providerEnv inbox (clock timing.senderOffset timeMs)
  have steps : Steps providerEnv link.provider after := by
    have run := World.process_run providerEnv inbox (clock timing.senderOffset timeMs)
      link.provider
    rw [show after = _ from run]
    exact World.run_steps _ _
  obtain ⟨events, history⟩ := steps.suffix
  have since : after.since link.provider = events := World.since_eq history.symm
  rw [since] at keeps
  have positive : 0 < offer.ttlSeconds.toNat := by
    rw [Nat.pos_iff_ne_zero]
    exact fun zero => hasTtl (UInt16.toNat_inj.mp zero)
  have seconds := offer.ttlSeconds.toNat_lt
  -- what the cycle sends, whichever of the two entries it starts from
  have cycle := fun entry (offering : Offering clientId entry link.provider)
      (same : entry.serviceId = offer.serviceId) =>
    World.process_offering consumed offering history.symm (by rw [same]; exact keeps)
  have flying : ∀ sent ∈ (link.provide offer.serviceId after timeMs).inFlight,
      offersService consumed offer.serviceId sent.1 = true := by
    intro sent member
    rcases List.mem_append.mp member with new | old
    · obtain ⟨frame, selected, rfl⟩ := List.mem_map.mp new
      have offers := (List.mem_filter.mp selected).2
      rw [Bool.and_eq_true] at offers
      exact offers.2
    · exact invariant.flying sent old
  have announced : (∀ sent ∈ events.filterMap Event.sdFrame,
      Announces provided consumed clientId offer sent.2) →
      ∀ frame ∈ (link.provide offer.serviceId after timeMs).published,
        Announces provided consumed clientId offer frame := by
    intro news frame member
    rcases List.mem_append.mp member with new | old
    · rw [since] at new
      obtain ⟨sent, here, rfl⟩ := List.mem_map.mp new
      exact news sent here
    · exact invariant.announced frame old
  rcases invariant.phase with waiting | ⟨lastCycle, lastOffer, broadcasting⟩
  · have due : ProviderEntry.shouldSend offer (clock timing.senderOffset timeMs) = true := by
      simp [ProviderEntry.shouldSend, offered, waiting.first]
    obtain ⟨offering, news, -⟩ := cycle offer waiting.entry rfl
    rw [@broadcastAt_of_due timing offer _ _ due rfl] at offering
    refine ⟨.inr ⟨timeMs, timeMs, ?_⟩, announced news, flying, invariant.distinct⟩
    exact {
      entry := offering
      last := rfl
      past := Nat.le_refl _
      order := Nat.le_refl _
      early := by omega
      lease := fun found => absurd found waiting.unfound }
  · have order := broadcasting.order
    have early := broadcasting.early
    have past := broadcasting.past
    have forward := onTime.forward
    have inGap := onTime.cycle lastCycle broadcasting.last
    have dueIff := @shouldSend_sentAt timing offer lastOffer timeMs offered (by omega) (by omega)
    obtain ⟨offering, news, sends⟩ := cycle _ broadcasting.entry rfl
    by_cases due : lastOffer + offer.ttlSeconds.toNat * 500 ≤ timeMs
    · rw [@broadcastAt_of_due timing offer _ _ (dueIff.mpr due) rfl] at offering
      refine ⟨.inr ⟨timeMs, timeMs, ?_⟩, announced news, flying, invariant.distinct⟩
      exact {
        entry := offering
        last := rfl
        past := Nat.le_refl _
        order := Nat.le_refl _
        early := by omega
        lease := fun found => by
          obtain ⟨endMs, held, lease⟩ := broadcasting.lease found
          have short := lease.short
          refine ⟨endMs, held, { lease with short := ?_, covered := .inl ?_ }⟩
          · change endMs ≤ timeMs + _
            omega
          · rcases lease.covered with ⟨sent, onWay, arrives⟩ | later
            · exact ⟨sent, List.mem_append_right _ onWay, arrives⟩
            · -- the offer sent in this cycle is the one that will arrive
              obtain ⟨addr, sequenceCounter, sent⟩ := sends (dueIff.mpr due) lease.heard.2.2
              have goesOut : (none, (ProviderEntry.offerMessage offer addr).frame clientId
                  sequenceCounter) ∈ (after.since link.provider).filterMap Event.sdFrame := by
                rw [since]
                exact sent
              refine ⟨_, List.mem_append_left _ (broadcast_flies lease.heard goesOut timeMs), ?_⟩
              change timeMs + _ ≤ endMs
              omega }
    · have notDue : ProviderEntry.shouldSend (sentAt timing offer lastOffer)
          (clock timing.senderOffset timeMs) ≠ true := mt dueIff.mp due
      rw [ProviderEntry.broadcastAt, if_neg notDue] at offering
      refine ⟨.inr ⟨timeMs, lastOffer, ?_⟩, announced news, flying, invariant.distinct⟩
      exact {
        entry := offering
        last := rfl
        past := Nat.le_refl _
        order := by omega
        early := Nat.not_le.mp due
        lease := fun found => by
          obtain ⟨endMs, held, lease⟩ := broadcasting.lease found
          have short := lease.short
          refine ⟨endMs, held, { lease with short := ?_, covered := ?_ }⟩
          · change endMs ≤ timeMs + _
            omega
          · rcases lease.covered with ⟨sent, onWay, arrives⟩ | later
            · exact .inl ⟨sent, List.mem_append_right _ onWay, arrives⟩
            · exact .inr later }

theorem KeepsConsumer.held {serviceId : UInt16} {nowMs : UInt32} {before after : World consumed}
    (keeps : KeepsConsumer serviceId nowMs before after)
    (looks : FindsUnfound serviceId before after) {entry : ConsumerEntry n}
    (distinct : before.rt.sd.DistinctConsumers)
    (tracked : before.rt.sd.findConsumer serviceId = some entry)
    (found : entry.state = .found) (unexpired : timeAfter nowMs entry.ttlExpiryMs = false) :
    after.rt.sd.findConsumer serviceId = some entry := by
  obtain ⟨events, history, holds⟩ := keeps.found
  have noFind : finds serviceId events = false := by
    rw [← World.since_eq history, ← Bool.not_eq_true]
    exact fun finds => (looks finds).1 ⟨entry, tracked, found⟩
  exact holds noFind distinct entry tracked found unexpired

/-- Nothing has offered the service to the consumer, which holds on to what it has. -/
theorem LinkInvariant.consumerKeeps (invariant : LinkInvariant timing offer clientId link)
    {after : World consumed} {timeMs : Nat} (forward : link.timeMs ≤ timeMs)
    {nowMs : ConsumerEntry n → UInt32}
    (keeps : ∀ held, KeepsConsumer offer.serviceId (nowMs held) link.consumer after)
    (looks : FindsUnfound offer.serviceId link.consumer after)
    (unexpired : ∀ {lastCycle lastOffer endMs held}, link.lastCycle = some lastCycle →
      lastCycle < lastOffer + offer.ttlSeconds.toNat * 500 →
      CoveredLease timing offer clientId lastOffer endMs held link →
      timeAfter (nowMs held) held.ttlExpiryMs = false) :
    LinkInvariant timing offer clientId (link.consume after timeMs) ∧
      (HasFound offer.serviceId link.consumer → HasFound offer.serviceId after) := by
  have someEntry : ConsumerEntry n := {}
  have unfound := (keeps someEntry).unfound
  have distinct := (keeps someEntry).distinct invariant.distinct
  rcases invariant.phase with waiting | ⟨lastCycle, lastOffer, broadcasting⟩
  · refine ⟨⟨.inl ?_, invariant.announced, invariant.flying, distinct⟩,
      fun found => absurd found waiting.unfound⟩
    exact ⟨waiting.entry, waiting.first, waiting.last, waiting.silent,
      unfound waiting.unfound⟩
  · have stays : ∀ endMs held, CoveredLease timing offer clientId lastOffer endMs held link →
        after.rt.sd.findConsumer offer.serviceId = some held :=
      fun endMs held lease => (keeps held).held looks invariant.distinct lease.tracked
        lease.found (unexpired broadcasting.last broadcasting.early lease)
    refine ⟨⟨.inr ⟨lastCycle, lastOffer, ?_⟩, invariant.announced, invariant.flying,
      distinct⟩, ?_⟩
    · exact {
        entry := broadcasting.entry
        last := broadcasting.last
        past := broadcasting.past.trans forward
        order := broadcasting.order
        early := broadcasting.early
        lease := fun found => by
          have wasFound : HasFound offer.serviceId link.consumer :=
            not_not.mp fun not => unfound not found
          obtain ⟨endMs, held, lease⟩ := broadcasting.lease wasFound
          have short := lease.short
          refine ⟨endMs, held, { lease with tracked := stays endMs held lease, short := ?_ }⟩
          change endMs ≤ timeMs + _
          omega }
    · intro found
      obtain ⟨endMs, held, lease⟩ := broadcasting.lease found
      exact ⟨held, stays endMs held lease, lease.found⟩

/-- What is on its way and does not arrive stays on its way. -/
theorem LinkInvariant.arrive (invariant : LinkInvariant timing offer clientId link)
    {data : Bytes} (other : offersService consumed offer.serviceId data = false) :
    { link with inFlight := link.inFlight.filter fun sent => sent.1 != data } = link := by
  have stays : link.inFlight.filter (fun sent => sent.1 != data) = link.inFlight := by
    rw [List.filter_eq_self]
    intro sent member
    have offers := invariant.flying sent member
    have different : sent.1 ≠ data := by
      rintro rfl
      rw [other] at offers
      cases offers
    simpa using different
  rw [stays]

section Offered

variable {lastCycle lastOffer : Nat} {arrived : World consumed} {addr : Address n}
variable {nowMs : UInt32}

/-- A service that is found is the one this provider offers. -/
theorem Broadcasting.known
    (broadcasting : Broadcasting timing offer clientId link lastCycle lastOffer)
    (hasTtl : offer.ttlSeconds ≠ 0) (sameSd : arrived.rt.sd = link.consumer.rt.sd)
    {entry : ConsumerEntry n}
    (tracked : arrived.rt.sd.findConsumer offer.serviceId = some entry)
    (found : entry.state = .found) : entry.sessionId = offer.sessionId ∧
      World.AcceptedOffer (offeredAs offer addr) entry arrived := by
  have before := tracked
  rw [sameSd] at before
  obtain ⟨endMs, held, lease⟩ := broadcasting.lease ⟨entry, before, found⟩
  cases before.symm.trans lease.tracked
  exact ⟨lease.session, hasTtl, tracked, lease.major⟩

/-- Handling an offer leaves a found consumer with a whole lease. -/
theorem Broadcasting.offerHandled
    (broadcasting : Broadcasting timing offer clientId link lastCycle lastOffer)
    (hasTtl : offer.ttlSeconds ≠ 0) (sameSd : arrived.rt.sd = link.consumer.rt.sd)
    {events : History consumed}
    (history : (arrived.handleOffer consumerEnv (offeredAs offer addr) nowMs).history =
      events ++ arrived.history)
    (looks : finds offer.serviceId events = true →
      ¬HasFound offer.serviceId link.consumer ∧ ¬HasFound offer.serviceId
        (arrived.handleOffer consumerEnv (offeredAs offer addr) nowMs))
    (found : HasFound offer.serviceId link.consumer ∨ HasFound offer.serviceId
      (arrived.handleOffer consumerEnv (offeredAs offer addr) nowMs)) :
    ∃ entry, World.AcceptedOffer (offeredAs offer addr) entry arrived ∧
      (arrived.handleOffer consumerEnv (offeredAs offer addr) nowMs).rt.sd.findConsumer
        offer.serviceId = some (World.acceptOffer (offeredAs offer addr) nowMs entry) := by
  have noFind : finds offer.serviceId events = false := by
    rw [← Bool.not_eq_true]
    exact fun finds => found.elim (looks finds).1 (looks finds).2
  have accepted : ∃ entry, World.AcceptedOffer (offeredAs offer addr) entry arrived := by
    rcases found with ⟨entry, tracked, isFound⟩ | ⟨entry, tracked, isFound⟩
    · rw [← sameSd] at tracked
      exact ⟨entry, (broadcasting.known hasTtl sameSd tracked isFound).2⟩
    · by_contra refused
      have same := @World.handleOffer_refuses _ _ consumerEnv nowMs (offeredAs offer addr)
        arrived hasTtl (not_exists.mp refused)
      rw [findConsumer, same] at tracked
      exact refused ⟨entry, (broadcasting.known hasTtl sameSd tracked isFound).2⟩
  obtain ⟨entry, accepted⟩ := accepted
  have session : entry.state = .found → entry.sessionId = offer.sessionId := fun isFound =>
    (@Broadcasting.known _ _ _ _ _ _ _ _ _ _ addr broadcasting hasTtl sameSd _ accepted.tracked
      isFound).1
  exact ⟨entry, accepted, World.handleOffer_accepts accepted session history noFind⟩

end Offered

/-- An offer of the service reaches the consumer. -/
theorem LinkInvariant.consumerOffer (fits : timing.gapMs + timing.delayMs ≤
      offer.ttlSeconds.toNat * 500) (hasTtl : offer.ttlSeconds ≠ 0)
    (invariant : LinkInvariant timing offer clientId link) (source : Address n) {data : Bytes}
    {timeMs : Nat} (onTime : link.OnTime timing timeMs) (published : data ∈ link.published)
    (offers : offersService consumed offer.serviceId data = true)
    (looks : FindsUnfound offer.serviceId link.consumer (link.consumer.validateAndDispatch
      consumerEnv source data (clock timing.receiverOffset timeMs))) :
    LinkInvariant timing offer clientId
        { link.consume (link.consumer.validateAndDispatch consumerEnv source data
            (clock timing.receiverOffset timeMs)) timeMs with
          inFlight := link.inFlight.filter fun sent => sent.1 != data } ∧
      (HasFound offer.serviceId link.consumer →
        HasFound offer.serviceId (link.consumer.validateAndDispatch consumerEnv source data
          (clock timing.receiverOffset timeMs))) := by
  let nowMs := clock timing.receiverOffset timeMs
  obtain ⟨content, carried, same⟩ : ∃ content, offerIn consumed data = some content ∧
      content.serviceId = offer.serviceId := by
    rw [offersService, Option.any_eq_true] at offers
    simpa using offers
  obtain ⟨addr, sequenceCounter, room, frame⟩ := invariant.announced data published content
    carried same
  have decoded := carried
  rw [frame] at decoded
  obtain ⟨message, own, roomy⟩ := (offerIn_frame room).mp decoded
  cases eq_offeredAs message
  let arrived := link.consumer.arrived source data
  let after := arrived.handleOffer consumerEnv (offeredAs offer addr) nowMs
  have handled : link.consumer.validateAndDispatch consumerEnv source data nowMs = after := by
    have meant := SdMessage.frame_handledAs roomy own sequenceCounter
      (ProviderEntry.offerMessage offer addr) consumerEnv link.consumer source nowMs
    rw [← frame] at meant
    exact meant
  change FindsUnfound _ _ (link.consumer.validateAndDispatch consumerEnv source data nowMs) at looks
  change LinkInvariant timing offer clientId
      { link.consume (link.consumer.validateAndDispatch consumerEnv source data nowMs) timeMs with
        inFlight := link.inFlight.filter fun sent => sent.1 != data } ∧
    (HasFound offer.serviceId link.consumer → HasFound offer.serviceId
      (link.consumer.validateAndDispatch consumerEnv source data nowMs))
  rw [handled] at looks ⊢
  have steps : Steps consumerEnv arrived after := World.handleOffer_steps _ nowMs arrived
  obtain ⟨events, history⟩ := steps.suffix
  rcases invariant.phase with waiting | ⟨lastCycle, lastOffer, broadcasting⟩
  · rw [waiting.silent data published] at offers
    cases offers
  have finding : finds offer.serviceId events = true →
      ¬HasFound offer.serviceId link.consumer ∧ ¬HasFound offer.serviceId after := by
    intro inEvents
    refine looks ?_
    have whole : after.history = (events ++ [.dispatched source data,
        .received source data]) ++ link.consumer.history := by
      rw [← history, List.append_assoc]
      rfl
    rw [World.since_eq whole, finds_append, inEvents, Bool.true_or]
  have sameSd : arrived.rt.sd = link.consumer.rt.sd := rfl
  refine ⟨⟨.inr ⟨lastCycle, lastOffer, ?_⟩, invariant.announced, ?_,
    steps.distinctConsumers invariant.distinct⟩, ?_⟩
  · exact {
      entry := broadcasting.entry
      last := broadcasting.last
      past := broadcasting.past.trans onTime.forward
      order := broadcasting.order
      early := broadcasting.early
      lease := fun found => by
        obtain ⟨entry, accepted, tracked⟩ :=
          broadcasting.offerHandled hasTtl sameSd history.symm finding (.inr found)
        have order := broadcasting.order
        have past := broadcasting.past
        have forward := onTime.forward
        refine ⟨timeMs + offer.ttlSeconds.toNat * 1000,
          World.acceptOffer (offeredAs offer addr) nowMs entry, ?_⟩
        exact {
          tracked := tracked
          found := rfl
          session := rfl
          major := accepted.major
          expiry := by
            change nowMs + offer.ttlSeconds.toUInt32 * 1000 = _
            rw [clock_add, toNat_lifetime]
          short := Nat.le_refl _
          covered := .inr (by omega)
          heard := ⟨own, roomy, fits_offerMessage offer offer room⟩ } }
  · exact fun sent member => invariant.flying sent (List.mem_filter.mp member).1
  · intro found
    obtain ⟨entry, _, tracked⟩ :=
      broadcasting.offerHandled hasTtl sameSd history.symm finding (.inl found)
    exact ⟨World.acceptOffer (offeredAs offer addr) nowMs entry, tracked, rfl⟩

/-! ## Runs -/

/-- One step keeps the invariant, and the service found if it was. -/
theorem LinkStep.invariant (fits : timing.gapMs + timing.delayMs ≤
      offer.ttlSeconds.toNat * 500) (hasTtl : offer.ttlSeconds ≠ 0)
    (offered : offer.state = .offered) {next : OfferLink provided consumed}
    (step : LinkStep providerEnv consumerEnv timing offer.serviceId link next)
    (invariant : LinkInvariant timing offer clientId link) :
    LinkInvariant timing offer clientId next ∧
      (HasFound offer.serviceId link.consumer → HasFound offer.serviceId next.consumer) := by
  cases step with
  | providerCall call _ keeps => exact ⟨invariant.providerCall call keeps, id⟩
  | providerCycle inbox timeMs onTime keeps =>
      exact ⟨invariant.providerCycle fits hasTtl offered inbox onTime keeps, id⟩
  | consumerCall call _ looks =>
      have steps : ∀ held : ConsumerEntry n, DiscoverySteps consumerEnv held.ttlExpiryMs none
          link.consumer _ := fun held => World.perform_discoverySteps call link.consumer
      refine invariant.consumerKeeps (Nat.le_refl _)
        (fun held => (steps held).keepsConsumer (by simp)) looks ?_
      intro _ _ _ held _ _ _
      rw [← Bool.not_eq_true, timeAfter_iff, UInt32.sub_self]
      exact fun passed => absurd passed.1 (Nat.lt_irrefl 0)
  | consumerStart timeMs onTime =>
      have same : KeepsConsumer offer.serviceId (clock timing.receiverOffset timeMs)
          link.consumer (link.consumer.startCycle (clock timing.receiverOffset timeMs)) :=
        .of_consumers (List.nil_append _).symm rfl
      have quiet : FindsUnfound offer.serviceId link.consumer
          (link.consumer.startCycle (clock timing.receiverOffset timeMs)) := by
        intro finding
        have history : (link.consumer.startCycle
            (clock timing.receiverOffset timeMs)).history = [] ++ link.consumer.history := rfl
        rw [World.since_eq history] at finding
        cases finding
      exact invariant.consumerKeeps onTime.forward (fun _ => same) quiet
        fun last early lease => lease.unexpired onTime last early
  | consumerReceive source data timeMs onTime origin looks =>
      cases offers : offersService consumed offer.serviceId data with
      | true =>
          have published : data ∈ link.published := by
            rcases origin with published | other
            · exact published
            · rw [offers] at other
              cases other
          exact invariant.consumerOffer fits hasTtl source onTime published offers looks
      | false =>
          have other : ∀ content, heard consumed source data = some (.offer content) →
              content.serviceId ≠ offer.serviceId := by
            intro content heard same
            rw [offersService, heard_eq_offer_iff.mp heard, Option.any_some, same] at offers
            simp at offers
          obtain ⟨kept, stays⟩ := invariant.consumerKeeps onTime.forward
            (fun _ => World.receive_keepsConsumer link.consumer other) looks
            fun last early lease => lease.unexpired onTime last early
          refine ⟨?_, stays⟩
          have arrives := kept.arrive offers
          rw [← arrives] at kept
          exact kept
  | consumerHousekeeping timeMs onTime looks =>
      exact invariant.consumerKeeps onTime.forward
        (fun _ => World.housekeeping_keepsConsumer link.consumer) looks
        fun last early lease => lease.unexpired onTime last early

theorem LinkRun.invariant (fits : timing.gapMs + timing.delayMs ≤
      offer.ttlSeconds.toNat * 500) (hasTtl : offer.ttlSeconds ≠ 0)
    (offered : offer.state = .offered) {later : OfferLink provided consumed}
    (run : LinkRun providerEnv consumerEnv timing offer.serviceId link later)
    (invariant : LinkInvariant timing offer clientId link) :
    LinkInvariant timing offer clientId later :=
  Runs.invariant (fun _ _ holds step => (step.invariant fits hasTtl offered holds).1) run
    invariant

end Invariant

/-- While the provider comes round and its broadcasts arrive within half the lifetime, a
service that was found stays found. -/
theorem offer_kept_alive {providerEnv : Env provided} {consumerEnv : Env consumed}
    {timing : Timing} {offer : ProviderEntry} {start link later : OfferLink provided consumed}
    (fits : timing.gapMs + timing.delayMs ≤ offer.ttlSeconds.toNat * 500)
    (hasTtl : offer.ttlSeconds ≠ 0)
    (begins : JustOffered providerEnv consumerEnv timing offer start)
    (before : LinkRun providerEnv consumerEnv timing offer.serviceId start link)
    (found : HasFound offer.serviceId link.consumer)
    (onward : LinkRun providerEnv consumerEnv timing offer.serviceId link later) :
    HasFound offer.serviceId later.consumer := by
  have atStart := begins.invariant hasTtl
  have atLink := before.invariant fits hasTtl begins.offered atStart
  induction onward with
  | refl => exact found
  | tail run step found =>
      have invariant := LinkRun.invariant fits hasTtl begins.offered run atLink
      exact (step.invariant fits hasTtl begins.offered invariant).2 found

/-- A provider that has just offered a service and a consumer that looks for it, both
clocks one millisecond before their wrap. -/
def freshLink : OfferLink embeddedConfig embeddedConfig where
  provider := World.run (.benign _)
    [.api (.registerService 0x1000 0 1 0 false), .api (.offerService 0x1000 5 0xffffffff)]
    (World.initial _ 1)
  consumer := World.run (.benign _) [.api (.findService 0x1000 1 0xffffffff)]
    (World.initial _ 2)
  timeMs := 0

/-- The gap and the delay together are half the lifetime. -/
def wrappingClocks : Timing where
  gapMs := 2000
  delayMs := 500
  senderOffset := 0xffffffff
  receiverOffset := 0xffffffff

/-- The provider has broadcast its offer. -/
def broadcastLink : OfferLink embeddedConfig embeddedConfig :=
  { freshLink.provide 0x1000 (freshLink.provider.process (.benign _) []
      (clock wrappingClocks.senderOffset 10)) 10 with lastCycle := some 10 }

/-- The offer as it was broadcast. -/
def broadcastOffer : Bytes := broadcastLink.published.headD []

/-- The consumer has found the service. -/
def foundLink : OfferLink embeddedConfig embeddedConfig :=
  { broadcastLink.consume (broadcastLink.consumer.validateAndDispatch (.benign _)
      (Address.filled 8 1) broadcastOffer (clock wrappingClocks.receiverOffset 300)) 300 with
    inFlight := broadcastLink.inFlight.filter fun sent => sent.1 != broadcastOffer }

/-- When the provider's next cycle is due the consumer comes round. -/
def laterLink : OfferLink embeddedConfig embeddedConfig :=
  foundLink.consume (foundLink.consumer.housekeeping (.benign _)
    (clock wrappingClocks.receiverOffset 2010)) 2010

def freshOffer : ProviderEntry where
  serviceId := 0x1000
  majorVersion := 1
  ttlSeconds := 5
  sessionId := 30287
  state := .offered
  lastOfferMs := 0xffffffff
  active := true
  needsBroadcast := true

theorem fresh_justOffered :
    JustOffered (.benign _) (.benign _) wrappingClocks freshOffer freshLink := by
  refine ⟨⟨1, _, rfl⟩, ⟨2, _, rfl⟩, by decide +kernel, by decide +kernel, .inl ?_, ?_⟩
  · exact ⟨by decide +kernel, rfl, rfl, rfl⟩
  · rw [hasFound_iff]
    decide +kernel

/-- The pass comes when the next cycle of the provider is due. -/
theorem offer_kept_alive_until_due : HasFound 0x1000 laterLink.consumer := by
  have sent : LinkStep (.benign _) (.benign _) wrappingClocks 0x1000 freshLink
      broadcastLink :=
    .providerCycle [] 10 ⟨by decide, by decide, by decide⟩ (by decide +kernel)
  have arrives : LinkStep (.benign _) (.benign _) wrappingClocks 0x1000 broadcastLink
      foundLink := by
    refine .consumerReceive _ _ 300 ⟨by decide, by decide, by decide +kernel⟩ (.inl ?_) ?_
    · decide +kernel
    · exact fun finding => absurd finding (by decide +kernel)
  have comes : LinkStep (.benign _) (.benign _) wrappingClocks 0x1000 foundLink
      laterLink := by
    refine .consumerHousekeeping 2010 ⟨by decide, by decide, by decide +kernel⟩ ?_
    exact fun finding => absurd finding (by decide +kernel)
  have found : HasFound 0x1000 foundLink.consumer := by
    rw [hasFound_iff]
    decide +kernel
  have before : LinkRun (.benign _) (.benign _) wrappingClocks 0x1000 freshLink foundLink :=
    .tail (.single sent) arrives
  have onward : LinkRun (.benign _) (.benign _) wrappingClocks 0x1000 foundLink laterLink :=
    .single comes
  have kept : HasFound freshOffer.serviceId laterLink.consumer :=
    @offer_kept_alive _ _ _ _ _ wrappingClocks freshOffer freshLink foundLink laterLink
      (by decide) (by decide) fresh_justOffered before found onward
  exact kept

end Sero
