import Sero.Library.TableRelation
import Sero.Properties.RetrySchedule

/-!
# Service discovery on a shifted clock

Discovery keeps four kinds of moments and draws the session ids of its offers from the
clock.  On a clock that differs by a constant it keeps the moments that differ by the same
constant.  The lease of a service that is not found is left over from earlier and means
nothing, so nothing is asked of it.
-/

namespace Sero

open Library

variable {n : Nat} {cfg : Config n} {offset : UInt32}

namespace ServiceDiscovery

theorem offer_eq (sd : ServiceDiscovery cfg) (serviceId : UInt16) (major minor : UInt8)
    (ttlSeconds : UInt16) (nowMs : UInt32) :
    sd.offer serviceId major minor ttlSeconds nowMs =
      match Table.upsert (fun entry => entry.serviceId == serviceId)
          (fun _ => sd.offeredEntry serviceId major minor ttlSeconds nowMs) {}
          cfg.maxServices sd.providers with
      | none => (false, sd)
      | some providers => (true, { sd with providers }) := rfl

def ProviderEntry.Later (offset : UInt32) (entry later : ProviderEntry) : Prop :=
  ∃ sessionId, later =
    { entry with lastOfferMs := entry.lastOfferMs + offset, sessionId }

def ConsumerEntry.Later (offset : UInt32) (entry later : ConsumerEntry n) : Prop :=
  ∃ ttlExpiryMs, later =
      { entry with nextRetryMs := entry.nextRetryMs + offset, ttlExpiryMs } ∧
    (entry.state = .found → ttlExpiryMs = entry.ttlExpiryMs + offset)

def SubTracker.shift (offset : UInt32) (tracker : SubTracker) : SubTracker :=
  { tracker with lastSentMs := tracker.lastSentMs + offset }

/-- Two messages that are the same but for the session id of an offer. -/
inductive SameButSession : SdMessage n → SdMessage n → Prop where
  | same (message : SdMessage n) : SameButSession message message
  | offer (serviceId : UInt16) (majorVersion minorVersion : UInt8)
      (ttlSeconds sessionId otherSessionId : UInt16) (providerAddr : Address n) :
      SameButSession
        (.offer serviceId majorVersion minorVersion ttlSeconds sessionId providerAddr)
        (.offer serviceId majorVersion minorVersion ttlSeconds otherSessionId providerAddr)

/-- Discovery on two clocks. -/
structure Later (offset : UInt32) (sd later : ServiceDiscovery cfg) : Prop where
  providers : List.Forall₂ (ProviderEntry.Later offset) sd.providers later.providers
  consumers : List.Forall₂ (ConsumerEntry.Later offset) sd.consumers later.consumers
  subTrackers : later.subTrackers = sd.subTrackers.map (SubTracker.shift offset)
  localAddr : later.localAddr = sd.localAddr
  clientId : later.clientId = sd.clientId
  callbacks : later.callbacks = sd.callbacks

theorem ProviderEntry.later_serviceId (serviceId : UInt16) (entry later : ProviderEntry)
    (shifted : ProviderEntry.Later offset entry later) :
    (entry.serviceId == serviceId) = (later.serviceId == serviceId) := by
  obtain ⟨sessionId, rfl⟩ := shifted
  rfl

theorem ConsumerEntry.later_serviceId (serviceId : UInt16) (entry later : ConsumerEntry n)
    (shifted : ConsumerEntry.Later offset entry later) :
    (entry.serviceId == serviceId) = (later.serviceId == serviceId) := by
  obtain ⟨ttlExpiryMs, rfl, _⟩ := shifted
  rfl

namespace Later

variable {sd later : ServiceDiscovery cfg} (shifted : sd.Later offset later)
include shifted

theorem findConsumer (serviceId : UInt16) : Option.Rel (ConsumerEntry.Later offset)
    (sd.findConsumer serviceId) (later.findConsumer serviceId) :=
  Table.find?_related shifted.consumers (ConsumerEntry.later_serviceId serviceId)

theorem getProviderAddress (serviceId : UInt16) :
    later.getProviderAddress serviceId = sd.getProviderAddress serviceId := by
  have consumers := shifted.findConsumer serviceId
  rw [ServiceDiscovery.getProviderAddress, ServiceDiscovery.getProviderAddress]
  revert consumers
  generalize sd.findConsumer serviceId = before
  generalize later.findConsumer serviceId = after
  intro consumers
  cases consumers with
  | none => rfl
  | some entries =>
      obtain ⟨ttlExpiryMs, rfl, _⟩ := entries
      rfl

theorem detectReboot (serviceId sessionId : UInt16) :
    later.detectReboot serviceId sessionId = sd.detectReboot serviceId sessionId := by
  have consumers := shifted.findConsumer serviceId
  rw [ServiceDiscovery.detectReboot, ServiceDiscovery.detectReboot]
  revert consumers
  generalize sd.findConsumer serviceId = before
  generalize later.findConsumer serviceId = after
  intro consumers
  cases consumers with
  | none => rfl
  | some entries =>
      obtain ⟨ttlExpiryMs, rfl, _⟩ := entries
      rfl

/-! ## Calls -/

theorem offer (serviceId : UInt16) (major minor : UInt8) (ttlSeconds : UInt16)
    (nowMs : UInt32) :
    (later.offer serviceId major minor ttlSeconds (nowMs + offset)).1 =
        (sd.offer serviceId major minor ttlSeconds nowMs).1 ∧
      (sd.offer serviceId major minor ttlSeconds nowMs).2.Later offset
        (later.offer serviceId major minor ttlSeconds (nowMs + offset)).2 := by
  have written : ProviderEntry.Later offset
      (sd.offeredEntry serviceId major minor ttlSeconds nowMs)
      (later.offeredEntry serviceId major minor ttlSeconds (nowMs + offset)) := ⟨_, rfl⟩
  have tables : Option.Rel _
      (Table.upsert (fun entry => entry.serviceId == serviceId)
        (fun _ => sd.offeredEntry serviceId major minor ttlSeconds nowMs) {} cfg.maxServices
        sd.providers)
      (Table.upsert (fun entry => entry.serviceId == serviceId)
        (fun _ => later.offeredEntry serviceId major minor ttlSeconds (nowMs + offset)) {}
        cfg.maxServices later.providers) :=
    Table.upsert_related shifted.providers (ProviderEntry.later_serviceId serviceId)
      (fun _ _ _ => written) written cfg.maxServices
  rw [offer_eq, offer_eq]
  revert tables
  generalize Table.upsert _ _ _ _ sd.providers = before
  generalize Table.upsert _ _ _ _ later.providers = after
  intro tables
  cases tables with
  | none => exact ⟨rfl, shifted⟩
  | some providers => exact ⟨rfl, { shifted with providers }⟩

theorem stopOffer (serviceId : UInt16) :
    (sd.stopOffer serviceId).Later offset (later.stopOffer serviceId) := by
  have withdrawn : ∀ entry other, ProviderEntry.Later offset entry other →
      ProviderEntry.Later offset { entry with state := .notOffered, active := false }
        { other with state := .notOffered, active := false } := by
    intro entry other entries
    obtain ⟨sessionId, rfl⟩ := entries
    exact ⟨sessionId, rfl⟩
  have providers := Table.updateFirst_related shifted.providers
    (ProviderEntry.later_serviceId serviceId) withdrawn
  exact { shifted with providers }

theorem find (serviceId : UInt16) (expectedMajor : UInt8) (nowMs : UInt32) :
    (later.find serviceId expectedMajor (nowMs + offset)).1 =
        (sd.find serviceId expectedMajor nowMs).1 ∧
      (sd.find serviceId expectedMajor nowMs).2.Later offset
        (later.find serviceId expectedMajor (nowMs + offset)).2 := by
  have searches : ∀ entry other : ConsumerEntry n, ConsumerEntry.Later offset entry other →
      ConsumerEntry.Later offset (ConsumerEntry.search serviceId expectedMajor nowMs entry)
        (ConsumerEntry.search serviceId expectedMajor (nowMs + offset) other) := by
    intro entry other entries
    obtain ⟨ttlExpiryMs, rfl, _⟩ := entries
    exact ⟨0, rfl, nofun⟩
  have fresh : ConsumerEntry.Later offset
      (ConsumerEntry.search serviceId expectedMajor nowMs ({} : ConsumerEntry n))
      (ConsumerEntry.search serviceId expectedMajor (nowMs + offset) {}) := ⟨0, rfl, nofun⟩
  have tables := Table.upsert_related shifted.consumers
    (ConsumerEntry.later_serviceId serviceId) searches fresh cfg.maxKnownServices
  rw [ServiceDiscovery.find, ServiceDiscovery.find]
  revert tables
  generalize Table.upsert _ _ _ _ sd.consumers = before
  generalize Table.upsert _ _ _ _ later.consumers = after
  intro tables
  cases tables with
  | none => exact ⟨rfl, shifted⟩
  | some consumers => exact ⟨rfl, { shifted with consumers }⟩

theorem subscribeEvent (serviceId eventId ttlSeconds : UInt16) (nowMs : UInt32) :
    (later.subscribeEvent serviceId eventId ttlSeconds (nowMs + offset)).1 =
        (sd.subscribeEvent serviceId eventId ttlSeconds nowMs).1 ∧
      (sd.subscribeEvent serviceId eventId ttlSeconds nowMs).2.Later offset
        (later.subscribeEvent serviceId eventId ttlSeconds (nowMs + offset)).2 := by
  have tables : Table.upsert (fun tracker => SubTracker.key tracker == (serviceId, eventId))
      (SubTracker.subscribe serviceId eventId ttlSeconds (nowMs + offset)) {}
      (cfg.maxKnownServices * cfg.maxEvents) (sd.subTrackers.map (SubTracker.shift offset)) =
      (Table.upsert (fun tracker => SubTracker.key tracker == (serviceId, eventId))
        (SubTracker.subscribe serviceId eventId ttlSeconds nowMs) {}
        (cfg.maxKnownServices * cfg.maxEvents) sd.subTrackers).map
          (List.map (SubTracker.shift offset)) := by
    apply Table.upsert_map
    · intro tracker
      rfl
    · intro tracker
      rfl
    · rfl
  rw [ServiceDiscovery.subscribeEvent, ServiceDiscovery.subscribeEvent, shifted.subTrackers,
    tables]
  cases Table.upsert _ _ _ _ sd.subTrackers with
  | none => exact ⟨rfl, shifted⟩
  | some subTrackers => exact ⟨rfl, { shifted with subTrackers := rfl }⟩

/-- Writing one subscription on both clocks. -/
theorem updateSubTracker {update : SubTracker → SubTracker}
    (updates : ∀ tracker, update (SubTracker.shift offset tracker) =
      SubTracker.shift offset (update tracker)) (serviceId eventId : UInt16) :
    (sd.updateSubTracker serviceId eventId update).Later offset
      (later.updateSubTracker serviceId eventId update) := by
  have written : Table.updateFirst
      (fun tracker => SubTracker.key tracker == (serviceId, eventId)) update
      (sd.subTrackers.map (SubTracker.shift offset)) =
      (Table.updateFirst (fun tracker => SubTracker.key tracker == (serviceId, eventId)) update
        sd.subTrackers).map (SubTracker.shift offset) := by
    apply Table.updateFirst_map
    · intro tracker
      rfl
    · exact updates
  rw [← shifted.subTrackers] at written
  exact { shifted with subTrackers := written }

theorem unsubscribeEvent (serviceId eventId : UInt16) :
    (later.unsubscribeEvent serviceId eventId).1 = (sd.unsubscribeEvent serviceId eventId).1 ∧
      (sd.unsubscribeEvent serviceId eventId).2.Later offset
        (later.unsubscribeEvent serviceId eventId).2 := by
  have looked : later.findSubTracker serviceId eventId =
      (sd.findSubTracker serviceId eventId).map (SubTracker.shift offset) := by
    rw [findSubTracker, shifted.subTrackers]
    apply Table.find?_map
    intro tracker
    rfl
  constructor
  · rw [ServiceDiscovery.unsubscribeEvent, ServiceDiscovery.unsubscribeEvent, looked,
      Option.isSome_map]
  · apply shifted.updateSubTracker
    intro tracker
    rfl

theorem recordAck (serviceId eventId : UInt16) (result : ReturnCode) (grantedTtl : UInt16) :
    (sd.recordAck serviceId eventId result grantedTtl).Later offset
      (later.recordAck serviceId eventId result grantedTtl) := by
  apply shifted.updateSubTracker
  intro tracker
  have same : (SubTracker.shift offset tracker).active = tracker.active := rfl
  rw [same]
  repeat' split
  all_goals rfl

theorem flagResubscribe (serviceId : UInt16) (nowMs : UInt32) :
    (sd.flagResubscribe serviceId nowMs).Later offset
      (later.flagResubscribe serviceId (nowMs + offset)) := by
  have flags : ∀ tracker, SubTracker.flagged serviceId (nowMs + offset)
      (SubTracker.shift offset tracker) =
        SubTracker.shift offset (SubTracker.flagged serviceId nowMs tracker) := by
    intro tracker
    have same : (SubTracker.shift offset tracker).appRegistered = tracker.appRegistered ∧
      (SubTracker.shift offset tracker).serviceId = tracker.serviceId := ⟨rfl, rfl⟩
    rw [SubTracker.flagged, SubTracker.flagged, same.1, same.2]
    split <;> rfl
  have flagged : later.subTrackers.map (SubTracker.flagged serviceId (nowMs + offset)) =
      (sd.subTrackers.map (SubTracker.flagged serviceId nowMs)).map
        (SubTracker.shift offset) := by
    rw [shifted.subTrackers, List.map_map, List.map_map]
    apply List.map_congr_left
    intro tracker _
    exact flags tracker
  exact { shifted with subTrackers := flagged }

/-! ## Periodic work and leases -/

omit shifted in
theorem offerMessage {entry other : ProviderEntry}
    (entries : ProviderEntry.Later offset entry other) (localAddr : Address n) :
    SameButSession (ProviderEntry.offerMessage entry localAddr)
      (ProviderEntry.offerMessage other localAddr) := by
  obtain ⟨sessionId, rfl⟩ := entries
  exact .offer ..

omit shifted in
theorem shouldSend {entry other : ProviderEntry}
    (entries : ProviderEntry.Later offset entry other) (nowMs : UInt32) :
    ProviderEntry.shouldSend other (nowMs + offset) =
      ProviderEntry.shouldSend entry nowMs := by
  obtain ⟨sessionId, rfl⟩ := entries
  rw [ProviderEntry.shouldSend, ProviderEntry.shouldSend, add_shift, timeAfterOrEq_shift]

/-- The offers of the providers that pass a test. -/
theorem offers {test laterTest : ProviderEntry → Bool}
    (tests : ∀ entry other, ProviderEntry.Later offset entry other →
      test entry = laterTest other) :
    List.Forall₂ SameButSession
      ((sd.providers.filter test).map
        fun entry => ProviderEntry.offerMessage entry sd.localAddr)
      ((later.providers.filter laterTest).map
        fun entry => ProviderEntry.offerMessage entry later.localAddr) := by
  have kept : List.Forall₂ (ProviderEntry.Later offset) (sd.providers.filter test)
      (later.providers.filter laterTest) := by
    apply List.rel_filter _ shifted.providers
    intro entry other entries
    exact iff_of_eq (congrArg (· = true) (tests entry other entries))
  rw [shifted.localAddr]
  apply List.rel_map _ kept
  intro entry other entries
  exact offerMessage entries sd.localAddr

/-- Offers fall due at the same time. -/
theorem processOffers (nowMs : UInt32) :
    List.Forall₂ SameButSession (sd.processOffers nowMs).1
        (later.processOffers (nowMs + offset)).1 ∧
      (sd.processOffers nowMs).2.Later offset (later.processOffers (nowMs + offset)).2 := by
  constructor
  · exact shifted.offers fun entry other entries => (shouldSend entries nowMs).symm
  · have providers : List.Forall₂ (ProviderEntry.Later offset)
        (sd.processOffers nowMs).2.providers
        (later.processOffers (nowMs + offset)).2.providers := by
      apply List.rel_map _ shifted.providers
      intro entry other entries
      dsimp only
      rw [shouldSend entries]
      split
      · obtain ⟨sessionId, rfl⟩ := entries
        exact ⟨sessionId, rfl⟩
      · exact entries
    exact { shifted with providers }

theorem handleFind (requestedServiceId : UInt16) :
    List.Forall₂ SameButSession (sd.handleFind requestedServiceId)
      (later.handleFind requestedServiceId) := by
  apply shifted.offers
  intro entry other entries
  obtain ⟨sessionId, rfl⟩ := entries
  rfl

omit shifted in
theorem renewTracker_shift (nowMs : UInt32) (tracker : SubTracker) :
    (renewTracker cfg (nowMs + offset) (SubTracker.shift offset tracker) :
        Option (SdMessage n) × SubTracker) =
      (renewTracker cfg nowMs tracker).map id (SubTracker.shift offset) := by
  have same : (SubTracker.shift offset tracker).ackRetryCount = tracker.ackRetryCount := rfl
  rw [renewTracker, renewTracker, same]
  simp only [SubTracker.shift, add_shift _ offset, timeAfterOrEq_shift]
  repeat' split
  all_goals rfl

theorem renew (nowMs : UInt32) (tracker : SubTracker) :
    later.renew (nowMs + offset) (SubTracker.shift offset tracker) =
      (sd.renew nowMs tracker).map id (SubTracker.shift offset) := by
  have same : (SubTracker.shift offset tracker).active = tracker.active ∧
    (SubTracker.shift offset tracker).serviceId = tracker.serviceId := ⟨rfl, rfl⟩
  rw [ServiceDiscovery.renew, ServiceDiscovery.renew, same.1, same.2,
    shifted.getProviderAddress, renewTracker_shift]
  split <;> rfl

/-- Renewals fall due at the same time. -/
theorem processSubscriptionRenewals (nowMs : UInt32) :
    (later.processSubscriptionRenewals (nowMs + offset)).1 =
        (sd.processSubscriptionRenewals nowMs).1 ∧
      (sd.processSubscriptionRenewals nowMs).2.Later offset
        (later.processSubscriptionRenewals (nowMs + offset)).2 := by
  constructor
  · rw [ServiceDiscovery.processSubscriptionRenewals,
      ServiceDiscovery.processSubscriptionRenewals, shifted.subTrackers]
    rw [List.filterMap_map]
    apply List.filterMap_congr
    intro tracker _
    rw [Function.comp_apply, shifted.renew]
    rfl
  · have renewed : (later.processSubscriptionRenewals (nowMs + offset)).2.subTrackers =
        (sd.processSubscriptionRenewals nowMs).2.subTrackers.map
          (SubTracker.shift offset) := by
      rw [ServiceDiscovery.processSubscriptionRenewals,
        ServiceDiscovery.processSubscriptionRenewals, shifted.subTrackers, List.map_map,
        List.map_map]
      apply List.map_congr_left
      intro tracker _
      rw [Function.comp_apply, shifted.renew]
      rfl
    exact { shifted with subTrackers := renewed }

theorem updateConsumer {update laterUpdate : ConsumerEntry n → ConsumerEntry n}
    (updates : ∀ entry other, ConsumerEntry.Later offset entry other →
      ConsumerEntry.Later offset (update entry) (laterUpdate other)) (serviceId : UInt16) :
    (sd.updateConsumer serviceId update).Later offset
      (later.updateConsumer serviceId laterUpdate) := by
  have consumers := Table.updateFirst_related shifted.consumers
    (ConsumerEntry.later_serviceId serviceId) updates
  exact { shifted with consumers }

theorem updateConsumerAt {update laterUpdate : ConsumerEntry n → ConsumerEntry n}
    (updates : ∀ entry other, ConsumerEntry.Later offset entry other →
      ConsumerEntry.Later offset (update entry) (laterUpdate other)) (index : Nat) :
    (sd.updateConsumerAt index update).Later offset
      (later.updateConsumerAt index laterUpdate) := by
  have consumers := Table.modify_related shifted.consumers index updates
  exact { shifted with consumers }

omit shifted in
/-- Two writes through the pointer to one consumer. -/
theorem updateConsumer_updateConsumer (sd : ServiceDiscovery cfg) (serviceId : UInt16)
    {first : ConsumerEntry n → ConsumerEntry n}
    (keeps : ∀ entry, (first entry).serviceId = entry.serviceId)
    (second : ConsumerEntry n → ConsumerEntry n) :
    (sd.updateConsumer serviceId first).updateConsumer serviceId second =
      sd.updateConsumer serviceId (second ∘ first) := by
  have tests : ∀ entry : ConsumerEntry n,
      ((first entry).serviceId == serviceId) = (entry.serviceId == serviceId) := by
    intro entry
    rw [keeps]
  have written : Table.updateFirst (fun entry => entry.serviceId == serviceId) second
      (Table.updateFirst (fun entry => entry.serviceId == serviceId) first sd.consumers) =
      Table.updateFirst (fun entry => entry.serviceId == serviceId) (second ∘ first)
        sd.consumers := Table.updateFirst_updateFirst tests second sd.consumers
  exact congrArg (fun consumers => { sd with consumers }) written

theorem recordOffer (serviceId ttlSeconds sessionId : UInt16) (providerAddr : Address n)
    (nowMs : UInt32) :
    (sd.recordOffer serviceId ttlSeconds sessionId providerAddr nowMs).Later offset
      (later.recordOffer serviceId ttlSeconds sessionId providerAddr (nowMs + offset)) := by
  apply shifted.updateConsumer
  intro entry other entries
  obtain ⟨ttlExpiryMs, rfl, _⟩ := entries
  exact ⟨_, rfl, fun _ => add_shift ..⟩

/-- Marking a service as found counts with the lease that has just been recorded. -/
theorem recordFound (serviceId ttlSeconds sessionId : UInt16) (providerAddr : Address n)
    (nowMs : UInt32) :
    ((sd.recordOffer serviceId ttlSeconds sessionId providerAddr nowMs).markFound
        serviceId).Later offset
      ((later.recordOffer serviceId ttlSeconds sessionId providerAddr
        (nowMs + offset)).markFound serviceId) := by
  rw [ServiceDiscovery.recordOffer, ServiceDiscovery.recordOffer, markFound, markFound,
    updateConsumer_updateConsumer, updateConsumer_updateConsumer]
  · apply shifted.updateConsumer
    intro entry other entries
    obtain ⟨ttlExpiryMs, rfl, _⟩ := entries
    exact ⟨_, rfl, fun _ => add_shift ..⟩
  · intro entry
    rfl
  · intro entry
    rfl

theorem expireConsumer (index : Nat) :
    (sd.expireConsumer index).Later offset (later.expireConsumer index) := by
  apply shifted.updateConsumerAt
  intro entry other entries
  obtain ⟨ttlExpiryMs, rfl, _⟩ := entries
  exact ⟨ttlExpiryMs, rfl, nofun⟩

theorem giveUpFind (index : Nat) (retryCount : UInt8) :
    (sd.giveUpFind index retryCount).Later offset (later.giveUpFind index retryCount) := by
  apply shifted.updateConsumerAt
  intro entry other entries
  obtain ⟨ttlExpiryMs, rfl, _⟩ := entries
  exact ⟨ttlExpiryMs, rfl, nofun⟩

/-- A search goes on after the same delay. -/
theorem scheduleRetry (ahead : RetriesAhead cfg) (index : Nat) {retryCount : UInt8}
    (within : retryCount ≤ cfg.sdFindRetryCount) (nowMs : UInt32) :
    (sd.scheduleRetry index retryCount nowMs).Later offset
      (later.scheduleRetry index retryCount (nowMs + offset)) := by
  apply shifted.updateConsumerAt
  intro entry other entries
  obtain ⟨ttlExpiryMs, rfl, found⟩ := entries
  have jitter : later.computeJitter entry.serviceId retryCount =
      sd.computeJitter entry.serviceId retryCount := by
    rw [computeJitter, computeJitter, shifted.clientId]
  refine ⟨ttlExpiryMs, ?_, found⟩
  rw [nextRetry_eq ahead sd _ within, nextRetry_eq ahead later _ within, jitter, add_shift]

end Later

end ServiceDiscovery

end Sero
