import Sero.Properties.AdvertisedServices
import Sero.Properties.RefusedSubscription

/-!
# Slots of the discovery tables

`stop_offer` and `unsubscribe_event` mark an entry and leave it in its table.  The service or
the event it was made for finds it again; to all others its slot is lost.
-/

namespace Sero

open Library ServiceDiscovery

variable {n : Nat} {cfg : Config n} {env : Env cfg}

/-- Is the service offered? -/
def ServiceDiscovery.offers (serviceId : UInt16) (sd : ServiceDiscovery cfg) : Bool :=
  (sd.findProvider serviceId).any fun entry => decide (entry.state = .offered)

/-- Does the application want the event, going by the calls and what they returned? -/
def isWanted (serviceId eventId : UInt16) : History cfg → Bool
  | [] => false
  | .returned (.subscribeEvent service event ..) (.bool true) :: past =>
      (service == serviceId && event == eventId) || isWanted serviceId eventId past
  | .returned (.unsubscribeEvent service event) _ :: past =>
      !(service == serviceId && event == eventId) && isWanted serviceId eventId past
  | _ :: past => isWanted serviceId eventId past

/-- An offer is refused only when as many others are made as there are slots. -/
def OfferRefusedWhenFull (serviceId ttlSeconds : UInt16) (nowMs : UInt32) (w : World cfg) :
    Prop :=
  (w.offerService serviceId ttlSeconds nowMs).1 = false →
    Table.Occupied (fun other => w.rt.sd.offers other = true) cfg.maxServices serviceId

/-- A subscription is refused only when as many others are wanted as there are slots. -/
def SubscriptionRefusedWhenFull (serviceId eventId ttlSeconds : UInt16) (nowMs : UInt32)
    (w : World cfg) : Prop :=
  (w.rt.sd.subscribeEvent serviceId eventId ttlSeconds nowMs).1 = false →
    Table.Occupied (fun other : UInt16 × UInt16 => isWanted other.1 other.2 w.history = true)
      (cfg.maxKnownServices * cfg.maxEvents) (serviceId, eventId)

/-- The service has an entry, there is room for one, or no entry is of a withdrawn offer. -/
def HasOfferSlot (serviceId : UInt16) (sd : ServiceDiscovery cfg) : Prop :=
  (sd.findProvider serviceId).isSome = true ∨ sd.providers.length < cfg.maxServices ∨
    ∀ entry ∈ sd.providers, entry.state = .offered

/-- The event has a tracker, there is room for one, or no tracker is of an event that has
been given up. -/
def HasTrackerSlot (serviceId eventId : UInt16) (sd : ServiceDiscovery cfg) : Prop :=
  (sd.findSubTracker serviceId eventId).isSome = true ∨
    sd.subTrackers.length < cfg.maxKnownServices * cfg.maxEvents ∨
    ∀ tracker ∈ sd.subTrackers, tracker.appRegistered = true

/-! ## The tables along a run -/

/-- The tables fit, and a tracker says whether its event is wanted. -/
structure SlotsTracked (w : World cfg) : Prop where
  providers : w.rt.sd.providers.length ≤ cfg.maxServices
  trackers : w.rt.sd.subTrackers.length ≤ cfg.maxKnownServices * cfg.maxEvents
  wanted : ∀ serviceId eventId,
    w.rt.sd.wants serviceId eventId = isWanted serviceId eventId w.history

namespace ServiceDiscovery

theorem offer_length {sd : ServiceDiscovery cfg} (fits : sd.providers.length ≤ cfg.maxServices)
    (serviceId : UInt16) (major minor : UInt8) (ttlSeconds : UInt16) (nowMs : UInt32) :
    (sd.offer serviceId major minor ttlSeconds nowMs).2.providers.length ≤ cfg.maxServices := by
  simp only [offer]
  split
  · exact fits
  · next providers written => exact Table.upsert_length_le written fits

theorem subscribeEvent_length {sd : ServiceDiscovery cfg}
    (fits : sd.subTrackers.length ≤ cfg.maxKnownServices * cfg.maxEvents)
    (serviceId eventId ttlSeconds : UInt16) (nowMs : UInt32) :
    (sd.subscribeEvent serviceId eventId ttlSeconds nowMs).2.subTrackers.length ≤
      cfg.maxKnownServices * cfg.maxEvents := by
  rw [subscribeEvent]
  split
  · exact fits
  · next subTrackers written => exact Table.upsert_length_le written fits

end ServiceDiscovery

section Fits

variable {before after : World cfg} {kind : StepKind}

/-- No step overfills the table of offers. -/
theorem Atomic.providers_length_le (fits : before.rt.sd.providers.length ≤ cfg.maxServices)
    (step : Atomic env kind before after) :
    after.rt.sd.providers.length ≤ cfg.maxServices := by
  have same := step.frame.sd
  cases step with
  | @perform call isLocal w =>
      change (before.apiCall env id call).2.rt.sd.providers.length ≤ _
      cases writes : call.writesRegistry with
      | false =>
          rw [(World.apiCall_registry id isLocal writes before).providers]
          exact fits
      | true =>
          cases call with
          | registerService | unregisterService => exact fits
          | offerService serviceId ttlSeconds nowMs =>
              obtain ⟨sd, written, offer⟩ := before.offerService_rt serviceId ttlSeconds nowMs
              change (before.offerService serviceId ttlSeconds nowMs).2.rt.sd.providers.length ≤ _
              rw [written]
              rcases offer with rfl | ⟨major, minor, rfl⟩
              · exact fits
              · exact offer_length fits serviceId major minor ttlSeconds nowMs
          | stopOffer => exact (Table.updateFirst_length _ _ _).trans_le fits
          | enableDiagnostics nowMs authRequired =>
              obtain ⟨_, sd, _, _, written, offer⟩ := before.enableDiagnostics_rt nowMs authRequired
              change (before.enableDiagnostics nowMs authRequired).2.rt.sd.providers.length ≤ _
              rw [written]
              rcases offer with rfl | ⟨major, minor, rfl⟩
              · exact fits
              · exact offer_length fits _ major minor _ nowMs
          | _ => cases writes
  | sdWrite write =>
      cases write with
      | processOffers => exact (List.length_map _).trans_le fits
      | _ => exact fits
  | markRenewals => exact fits
  | _ =>
      rw [same (by simp)]
      exact fits

/-- No step overfills the table of subscriptions. -/
theorem Atomic.subTrackers_length_le
    (fits : before.rt.sd.subTrackers.length ≤ cfg.maxKnownServices * cfg.maxEvents)
    (step : Atomic env kind before after) :
    after.rt.sd.subTrackers.length ≤ cfg.maxKnownServices * cfg.maxEvents := by
  have same := step.frame.sd
  cases step with
  | @perform call isLocal w =>
      change (before.apiCall env id call).2.rt.sd.subTrackers.length ≤ _
      cases writes : call.writesTrackers with
      | false =>
          rw [World.apiCall_subTrackers id isLocal writes]
          exact fits
      | true =>
          cases call with
          | subscribeEvent service event context ttlSeconds nowMs =>
              change (before.subscribeEvent service event context ttlSeconds
                nowMs).2.rt.sd.subTrackers.length ≤ _
              rcases before.subscribeEvent_sd service event context ttlSeconds nowMs with
                unchanged | written
              · rw [unchanged]
                exact fits
              · rw [written]
                exact subscribeEvent_length fits service event ttlSeconds nowMs
          | unsubscribeEvent => exact (Table.updateFirst_length _ _ _).trans_le fits
          | _ => cases writes
  | sdWrite write =>
      cases write with
      | flagResubscribe => exact (List.length_map _).trans_le fits
      | recordAck => exact (Table.updateFirst_length _ _ _).trans_le fits
      | _ => exact fits
  | markRenewals => exact (List.length_map _).trans_le fits
  | _ =>
      rw [same (by simp)]
      exact fits

end Fits

/-! ## What the application wants -/

section Wanted

variable {serviceId eventId : UInt16}

/-- Only calls about the event count. -/
theorem isWanted_append {events past : History cfg}
    (others : resubscribes serviceId eventId events = false) :
    isWanted serviceId eventId (events ++ past) = isWanted serviceId eventId past := by
  induction events with
  | nil => rfl
  | cons event events ih =>
      rw [resubscribes, List.any_cons, Bool.or_eq_false_iff] at others
      obtain ⟨other, rest⟩ := others
      rw [List.cons_append, ← ih rest]
      cases event with
      | returned call result =>
          cases call with
          | subscribeEvent service event context ttlSeconds nowMs =>
              dsimp only at other
              cases result with
              | bool accepted =>
                  cases accepted with
                  | false => rfl
                  | true => rw [isWanted, other, Bool.false_or]
              | _ => rfl
          | unsubscribeEvent service event =>
              dsimp only at other
              rw [isWanted, other, Bool.not_false, Bool.true_and]
          | _ => rfl
      | _ => rfl

/-- Writing trackers without touching what the application wants. -/
theorem wants_of_map {before after : ServiceDiscovery cfg} {update : SubTracker → SubTracker}
    (tracker : after.findSubTracker serviceId eventId =
      (before.findSubTracker serviceId eventId).map update)
    (keeps : ∀ tracker, (update tracker).appRegistered = tracker.appRegistered) :
    after.wants serviceId eventId = before.wants serviceId eventId := by
  rw [wants, wants, tracker, Option.any_map]
  exact congrArg (Option.any · _) (funext keeps)

theorem flagged_appRegistered (service : UInt16) (nowMs : UInt32) (tracker : SubTracker) :
    (SubTracker.flagged service nowMs tracker).appRegistered = tracker.appRegistered := by
  rw [SubTracker.flagged]
  split <;> rfl

theorem acknowledge_appRegistered (result : ReturnCode) (grantedTtl : UInt16)
    (tracker : SubTracker) :
    (SubTracker.acknowledge result grantedTtl tracker).appRegistered = tracker.appRegistered := by
  rw [SubTracker.acknowledge]
  repeat' split
  all_goals rfl

theorem renew_appRegistered (sd : ServiceDiscovery cfg) (nowMs : UInt32) (tracker : SubTracker) :
    (sd.renew nowMs tracker).2.appRegistered = tracker.appRegistered := by
  rw [renew]
  split
  · have turn := @renewTracker_turn _ cfg nowMs tracker
    cases result : renewTracker cfg nowMs tracker with
    | mk sent after =>
        rw [result] at turn
        cases turn <;> rfl
  · rfl

/-- A local call keeps a tracker in step with what is wanted of it. -/
theorem World.perform_wanted {call : ApiCall cfg} (isLocal : call.isLocal = true) {w : World cfg}
    (wanted : w.rt.sd.wants serviceId eventId = isWanted serviceId eventId w.history) :
    (w.perform env id call).rt.sd.wants serviceId eventId =
      isWanted serviceId eventId (w.perform env id call).history := by
  have concerns := @perform_concerns _ _ env serviceId eventId call isLocal w
  cases concerns with
  | silent history silent tracker =>
      rw [history, isWanted_append silent.calls, ← wanted]
      rcases tracker with same | ⟨service, nowMs, flagged⟩
      · rw [wants, same, wants]
      · exact wants_of_map flagged (flagged_appRegistered service nowMs)
  | subscribed context ttlSeconds nowMs history tracker =>
      rw [history, isWanted, wants, tracker, beq_self_eq_true, beq_self_eq_true]
      rfl
  | refused context ttlSeconds nowMs history tracker =>
      rw [history, wants, tracker]
      exact wanted
  | unsubscribed history tracker =>
      rw [history, isWanted, wants, tracker, Option.any_map, beq_self_eq_true, beq_self_eq_true]
      cases w.rt.sd.findSubTracker serviceId eventId <;> rfl

theorem SdWrite.wants {sd after : ServiceDiscovery cfg} (write : SdWrite sd after) :
    after.wants serviceId eventId = sd.wants serviceId eventId := by
  cases write with
  | flagResubscribe service nowMs =>
      exact wants_of_map (findSubTracker_flagResubscribe sd service nowMs serviceId eventId)
        (flagged_appRegistered service nowMs)
  | recordAck service event result grantedTtl =>
      have tracker := findSubTracker_recordAck sd service event result grantedTtl serviceId eventId
      split at tracker
      · exact wants_of_map tracker (acknowledge_appRegistered result grantedTtl)
      · exact congrArg (Option.any SubTracker.appRegistered) tracker
  | _ => rfl

end Wanted

namespace SlotsTracked

theorem initial (clientId : UInt16) : SlotsTracked (World.initial cfg clientId) where
  providers := Nat.zero_le _
  trackers := Nat.zero_le _
  wanted _ _ := rfl

theorem step {kind : StepKind} {before after : World cfg} (tracked : SlotsTracked before)
    (step : Atomic env kind before after) : SlotsTracked after where
  providers := step.providers_length_le tracked.providers
  trackers := step.subTrackers_length_le tracked.trackers
  wanted serviceId eventId := by
    have wanted := tracked.wanted serviceId eventId
    have same := step.frame.sd
    obtain ⟨events, history, kinds⟩ := step.observes
    cases step with
    | perform isLocal => exact World.perform_wanted isLocal wanted
    | sdWrite write => exact write.wants.trans wanted
    | markRenewals nowMs =>
        exact (wants_of_map
          (findSubTracker_processSubscriptionRenewals before.rt.sd nowMs serviceId eventId)
          (renew_appRegistered before.rt.sd nowMs)).trans wanted
    | _ =>
        have noCalls : ∀ event ∈ events, event.kind ≠ .perform :=
          Event.kind_ne kinds (by simp) (by simp)
        rw [same (by simp), history, isWanted_append (resubscribes_of_kinds noCalls)]
        exact wanted

theorem of_steps {clientId : UInt16} {w : World cfg}
    (steps : Steps env (World.initial cfg clientId) w) : SlotsTracked w := by
  induction steps with
  | refl => exact .initial clientId
  | tail _ step ih =>
      obtain ⟨kind, step⟩ := step
      exact ih.step step

end SlotsTracked

section Refused

variable {serviceId ttlSeconds : UInt16} {nowMs : UInt32}

theorem ServiceDiscovery.offer_refused_iff {sd : ServiceDiscovery cfg} {major minor : UInt8} :
    (sd.offer serviceId major minor ttlSeconds nowMs).1 = false ↔
      Table.upsert (fun entry => ProviderEntry.serviceId entry == serviceId)
        (fun _ => sd.offeredEntry serviceId major minor ttlSeconds nowMs) {} cfg.maxServices
        sd.providers = none := by
  simp only [offer, offeredEntry]
  split
  · next full => exact iff_of_true rfl full
  · next providers written => simp [written]

theorem ServiceDiscovery.subscribeEvent_refused_iff {sd : ServiceDiscovery cfg}
    {eventId : UInt16} :
    (sd.subscribeEvent serviceId eventId ttlSeconds nowMs).1 = false ↔
      Table.upsert (fun tracker => SubTracker.key tracker == (serviceId, eventId))
        (SubTracker.subscribe serviceId eventId ttlSeconds nowMs) {}
        (cfg.maxKnownServices * cfg.maxEvents) sd.subTrackers = none := by
  rw [subscribeEvent]
  split
  · next full => exact iff_of_true rfl full
  · next subTrackers written => simp [written]

end Refused

/-- Whenever an offer or a subscription may be made, it is refused only for want of a slot
exactly if it has one, or the table holds nothing that has been given up. -/
theorem refused_when_full_iff {clientId : UInt16} {w : World cfg}
    (steps : Steps env (World.initial cfg clientId) w) (serviceId ttlSeconds : UInt16)
    (nowMs : UInt32) (service event requestedTtl : UInt16) :
    ((w.rt.dispatcher.find serviceId).isSome = true →
      (OfferRefusedWhenFull serviceId ttlSeconds nowMs w ↔ HasOfferSlot serviceId w.rt.sd)) ∧
    (SubscriptionRefusedWhenFull service event requestedTtl nowMs w ↔
      HasTrackerSlot service event w.rt.sd) := by
  have tracked := SlotsTracked.of_steps steps
  constructor
  · intro registered
    obtain ⟨service, found⟩ := Option.isSome_iff_exists.mp registered
    have distinct : w.rt.sd.DistinctProviders := steps.offersTracked.distinct
    have lives : ∀ other, w.rt.sd.offers other = true ↔
        (Table.lookup ProviderEntry.serviceId other w.rt.sd.providers).any
          (fun entry => decide (entry.state = .offered)) = true :=
      fun _ => Iff.rfl
    rw [OfferRefusedWhenFull, World.offerService, found]
    dsimp only
    rw [offer_refused_iff, Table.Distinct.refused_iff distinct tracked.providers lives]
    simp only [HasOfferSlot, findProvider, decide_eq_true_eq]
  · rw [SubscriptionRefusedWhenFull, subscribeEvent_refused_iff]
    apply (steps.distinctTrackers List.nodup_nil).refused_iff tracked.trackers
    intro wanted
    rw [← tracked.wanted]
    exact Iff.rfl

/-! Four services that have been offered and withdrawn, and as many events as there are trackers
that have been subscribed to and given up. -/

def withdrawnOffers : List (Move embeddedConfig) :=
  [0x1000, 0x1001, 0x1002, 0x1003].flatMap fun serviceId =>
    [.api (.registerService serviceId 0 1 0 false), .api (.offerService serviceId 5 0),
      .api (.stopOffer serviceId), .api (.unregisterService serviceId)]

def abandonedEvents : List (Move embeddedConfig) :=
  (List.range 32).flatMap fun event =>
    [.api (.subscribeEvent 0x2000 (UInt16.ofNat event) 0 5 0),
      .api (.unsubscribeEvent 0x2000 (UInt16.ofNat event))]

def emptyingMoves : List (Move embeddedConfig) :=
  withdrawnOffers ++ abandonedEvents ++ [.api (.registerService 0x1004 0 1 0 false)]

/-- A device that has given up everything, and has then registered one more service. -/
def emptiedWorld : World embeddedConfig :=
  World.run (.benign _) emptyingMoves (World.initial _ 1)

theorem emptiedWorld_steps :
    Steps (.benign _) (World.initial embeddedConfig 1) emptiedWorld :=
  World.run_steps emptyingMoves _

/-- The new service has no slot, and an event that has been given up still has its own. -/
theorem refused_when_full_iff_emptied :
    (OfferRefusedWhenFull 0x1004 5 0 emptiedWorld ↔ HasOfferSlot 0x1004 emptiedWorld.rt.sd) ∧
      (SubscriptionRefusedWhenFull 0x2000 7 5 0 emptiedWorld ↔
        HasTrackerSlot 0x2000 7 emptiedWorld.rt.sd) :=
  (refused_when_full_iff emptiedWorld_steps 0x1004 5 0 0x2000 7 5).imp_left
    fun given => given (by decide +kernel)

/-- Nothing is offered and nothing is wanted, and there is room for nothing else. -/
theorem slots_are_lost :
    World.Reachable (.benign _) emptiedWorld ∧
      (emptiedWorld.rt.dispatcher.find 0x1004).isSome = true ∧
      ¬OfferRefusedWhenFull 0x1004 5 0 emptiedWorld ∧
      ¬SubscriptionRefusedWhenFull 0x2001 0 5 0 emptiedWorld := by
  refine ⟨⟨1, _, rfl⟩, by decide +kernel, ?_, ?_⟩
  · intro honest
    have withdrawn : ∀ entry ∈ emptiedWorld.rt.sd.providers, entry.state ≠ .offered := by
      decide +kernel
    obtain ⟨other, offered⟩ := (honest (by decide +kernel)).exists_live (by decide)
    obtain ⟨entry, found, state⟩ := (Option.any_eq_true _ _).mp offered
    exact withdrawn entry (Table.lookup_mem found) (of_decide_eq_true state)
  · intro honest
    have givenUp : ∀ tracker ∈ emptiedWorld.rt.sd.subTrackers, tracker.appRegistered = false := by
      decide +kernel
    obtain ⟨other, wanted⟩ := (honest (by decide +kernel)).exists_live (by decide)
    rw [← (SlotsTracked.of_steps emptiedWorld_steps).wanted] at wanted
    obtain ⟨tracker, found, registered⟩ := (Option.any_eq_true _ _).mp wanted
    rw [givenUp tracker (Table.lookup_mem found)] at registered
    cases registered

end Sero
