import Sero.Properties.AdvertisedServices
import Sero.Properties.SubscriberLease
import Sero.Runtime.Deeds

/-!
# Where the entries of the tables come from

An entry is in a table because of a call of the application that reported success, or
because of a datagram.  What has been observed tells which, for every entry and after every
deed: also where a handler or a callback is entered, and between the calls it makes.
-/

namespace Sero

open Library ServiceDiscovery

variable {n : Nat} {cfg : Config n} {env : Env cfg}

/-! ## Reasons for entries -/

/-- A service the application has registered, or diagnostics it has enabled. -/
inductive RegisteredBy (history : History cfg) : ServiceEntry → Prop where
  | application {serviceId : UInt16} {context : Nat} {majorVersion minorVersion : UInt8}
      {authRequired : Bool}
      (called : .returned (.registerService serviceId context majorVersion minorVersion
        authRequired) (.bool true) ∈ history) :
      RegisteredBy history {
        serviceId, majorVersion, minorVersion, authRequired
        context := .application context }
  | diagnostics {nowMs : UInt32} {authRequired : Bool}
      (called : .returned (.enableDiagnostics nowMs authRequired) (.bool true) ∈ history) :
      RegisteredBy history (OffersTracked.diagnosticsEntry authRequired)

/-- The application has asked for a service to be offered, with this lifetime. -/
inductive OfferAsked (history : History cfg) : UInt16 → UInt16 → Prop where
  | offerService {serviceId ttlSeconds : UInt16} {nowMs : UInt32}
      (called : .returned (.offerService serviceId ttlSeconds nowMs) (.bool true) ∈ history) :
      OfferAsked history serviceId (if ttlSeconds > 0 then ttlSeconds else cfg.offerTtlSeconds)
  | enableDiagnostics {nowMs : UInt32} {authRequired : Bool}
      (called : .returned (.enableDiagnostics nowMs authRequired) (.bool true) ∈ history) :
      OfferAsked history diagServiceId cfg.offerTtlSeconds

/-- What is offered: a service that was registered, in the version it was registered with. -/
structure OfferedBy (history : History cfg) (entry : ProviderEntry) : Prop where
  asked : OfferAsked history entry.serviceId entry.ttlSeconds
  registered : ∃ service, RegisteredBy history service ∧ service.serviceId = entry.serviceId ∧
    service.majorVersion = entry.majorVersion ∧ service.minorVersion = entry.minorVersion

/-- An offer has told that a service is at this address. -/
def Announced (history : History cfg) (serviceId : UInt16) (provider : Address n) : Prop :=
  ∃ source data offer, .dispatched source data ∈ history ∧
    heard cfg source data = some (.offer offer) ∧ offer.serviceId = serviceId ∧
    offer.providerAddr = provider

/-- The application has searched for the service, and an offer has told where it is. -/
structure SoughtBy (history : History cfg) (entry : ConsumerEntry n) : Prop where
  asked : ∃ majorVersion nowMs,
    .returned (.findService entry.serviceId majorVersion nowMs) (.bool true) ∈ history
  announced : entry.state = .found → Announced history entry.serviceId entry.providerAddr

/-- The application has given up the event after it had subscribed to it. -/
def LeftBy (history : History cfg) (serviceId eventId : UInt16) : Prop :=
  ∃ past, (.returned (.unsubscribeEvent serviceId eventId) (.bool true) :: past) <:+ history ∧
    ∃ context ttlSeconds nowMs, .returned (.subscribeEvent serviceId eventId context ttlSeconds
      nowMs) (.bool true) ∈ past

/-- The application has subscribed to the event with this lifetime, and given it up if it is
to be given up. -/
structure WantedBy (history : History cfg) (tracker : SubTracker) : Prop where
  asked : ∃ context nowMs, .returned (.subscribeEvent tracker.serviceId tracker.eventId context
    tracker.requestedTtl nowMs) (.bool true) ∈ history
  left : tracker.needsUnsubscribe = true → LeftBy history tracker.serviceId tracker.eventId

/-- A device at this address has asked for the event, and been told that it will get it. -/
def GrantedTo (history : History cfg) (serviceId eventId : UInt16) (subscriber : Address n) :
    Prop :=
  ∃ data hdr request granted frame ok, .dispatched subscriber data ∈ history ∧
    heard cfg subscriber data = some (.subscribe subscriber hdr request) ∧
    request.serviceId = serviceId ∧ request.eventId = eventId ∧
    .sent .sd subscriber frame ok ∈ history ∧
    ackIn frame = some (.eOk, ⟨serviceId, eventId, granted⟩)

/-- An event the application has registered, and to whom it goes. -/
structure PublishedBy (history : History cfg) (slot : EventSlot n) : Prop where
  registered : .returned (.registerEvent slot.serviceId slot.eventId) (.bool true) ∈ history
  granted : ∀ subscriber ∈ slot.subscribers,
    GrantedTo history slot.serviceId slot.eventId subscriber.addr

/-- Every entry has its reason. -/
structure Sourced (rt : Runtime cfg) (history : History cfg) : Prop where
  services : ∀ entry ∈ rt.dispatcher.services, RegisteredBy history entry
  providers : ∀ entry ∈ rt.sd.providers, entry.state = .offered → OfferedBy history entry
  consumers : ∀ entry ∈ rt.sd.consumers, SoughtBy history entry
  trackers : ∀ tracker ∈ rt.sd.subTrackers, WantedBy history tracker
  events : ∀ slot ∈ rt.eventManager.events, PublishedBy history slot

section Later

variable {history whole : History cfg} (grown : history <:+ whole)

include grown

theorem RegisteredBy.later {entry : ServiceEntry} (registered : RegisteredBy history entry) :
    RegisteredBy whole entry := by
  cases registered with
  | application called => exact .application (grown.subset called)
  | diagnostics called => exact .diagnostics (grown.subset called)

theorem OfferAsked.later {serviceId ttlSeconds : UInt16}
    (asked : OfferAsked history serviceId ttlSeconds) : OfferAsked whole serviceId ttlSeconds := by
  cases asked with
  | offerService called => exact .offerService (grown.subset called)
  | enableDiagnostics called => exact .enableDiagnostics (grown.subset called)

theorem OfferedBy.later {entry : ProviderEntry} (offered : OfferedBy history entry) :
    OfferedBy whole entry := by
  obtain ⟨service, registered, same⟩ := offered.registered
  exact ⟨offered.asked.later grown, service, registered.later grown, same⟩

theorem Announced.later {serviceId : UInt16} {provider : Address n}
    (announced : Announced history serviceId provider) : Announced whole serviceId provider := by
  obtain ⟨source, data, offer, dispatched, told⟩ := announced
  exact ⟨source, data, offer, grown.subset dispatched, told⟩

theorem SoughtBy.later {entry : ConsumerEntry n} (sought : SoughtBy history entry) :
    SoughtBy whole entry := by
  obtain ⟨majorVersion, nowMs, called⟩ := sought.asked
  exact ⟨⟨majorVersion, nowMs, grown.subset called⟩,
    fun found => (sought.announced found).later grown⟩

theorem LeftBy.later {serviceId eventId : UInt16} (left : LeftBy history serviceId eventId) :
    LeftBy whole serviceId eventId := by
  obtain ⟨past, called, subscribed⟩ := left
  exact ⟨past, called.trans grown, subscribed⟩

theorem WantedBy.later {tracker : SubTracker} (wanted : WantedBy history tracker) :
    WantedBy whole tracker := by
  obtain ⟨context, nowMs, called⟩ := wanted.asked
  exact ⟨⟨context, nowMs, grown.subset called⟩, fun leaves => (wanted.left leaves).later grown⟩

theorem GrantedTo.later {serviceId eventId : UInt16} {subscriber : Address n}
    (granted : GrantedTo history serviceId eventId subscriber) :
    GrantedTo whole serviceId eventId subscriber := by
  obtain ⟨data, hdr, request, ttlSeconds, frame, ok, dispatched, hears, service, event, sent,
    acknowledged⟩ := granted
  exact ⟨data, hdr, request, ttlSeconds, frame, ok, grown.subset dispatched, hears, service,
    event, grown.subset sent, acknowledged⟩

theorem PublishedBy.later {slot : EventSlot n} (published : PublishedBy history slot) :
    PublishedBy whole slot :=
  ⟨grown.subset published.registered, fun subscriber member =>
    (published.granted subscriber member).later grown⟩

theorem Sourced.later {rt : Runtime cfg} (sourced : Sourced rt history) : Sourced rt whole where
  services entry member := (sourced.services entry member).later grown
  providers entry member offered := (sourced.providers entry member offered).later grown
  consumers entry member := (sourced.consumers entry member).later grown
  trackers tracker member := (sourced.trackers tracker member).later grown
  events slot member := (sourced.events slot member).later grown

end Later

/-- A discovery frame to one device is a message that has been sent to it. -/
theorem World.mem_traffic_unicast {dest : Address n} {frame : Bytes} {w : World cfg}
    (sent : (some dest, frame) ∈ w.traffic) : ∃ ok, .sent .sd dest frame ok ∈ w.history := by
  obtain ⟨event, occurs, selected⟩ := List.mem_filterMap.mp sent
  cases event with
  | sent kind addressee bytes ok =>
      cases kind with
      | sd =>
          cases selected
          exact ⟨ok, occurs⟩
      | _ => cases selected
  | _ => cases selected

/-! ## Calls -/

namespace Sourced

theorem initial (clientId : UInt16) :
    Sourced (World.initial cfg clientId).rt (World.initial cfg clientId).history := by
  constructor <;> intro _ member <;> cases member

variable {before after : World cfg} {rt : Runtime cfg} {history : History cfg}

theorem of_same (sourced : Sourced before.rt history) (same : SameTables before after) :
    Sourced after.rt history := by
  obtain ⟨services, providers, consumers, trackers, events⟩ := sourced
  constructor
  · rwa [same.dispatcher]
  · rwa [same.sd]
  · rwa [same.sd]
  · rwa [same.sd]
  · rwa [same.eventManager]

theorem registerService (sourced : Sourced rt history) {service : ServiceEntry}
    (reason : (rt.dispatcher.registerService service).1 = true → RegisteredBy history service) :
    Sourced { rt with dispatcher := (rt.dispatcher.registerService service).2 } history := by
  refine ⟨?_, sourced.providers, sourced.consumers, sourced.trackers, sourced.events⟩
  intro entry member
  rw [MethodDispatcher.registerService] at member reason
  split at member
  · exact sourced.services entry member
  · next unused =>
      rw [if_neg unused] at reason
      split at member
      · next room =>
          rw [if_pos room] at reason
          rcases List.mem_append.mp member with old | new
          · exact sourced.services entry old
          · cases List.mem_singleton.mp new
            exact reason rfl
      · exact sourced.services entry member

theorem unregisterService (sourced : Sourced rt history) (serviceId : UInt16) :
    Sourced { rt with dispatcher := (rt.dispatcher.unregisterService serviceId).2 } history := by
  refine ⟨?_, sourced.providers, sourced.consumers, sourced.trackers, sourced.events⟩
  intro entry member
  rw [MethodDispatcher.unregisterService] at member
  split at member
  · exact sourced.services entry (Table.mem_of_mem_swapRemove member)
  · exact sourced.services entry member

theorem registerEvent (sourced : Sourced rt history) {serviceId eventId : UInt16}
    (reason : (rt.eventManager.registerEvent serviceId eventId).1 = true →
      .returned (.registerEvent serviceId eventId) (.bool true) ∈ history) :
    Sourced { rt with eventManager := (rt.eventManager.registerEvent serviceId eventId).2 }
      history := by
  refine ⟨sourced.services, sourced.providers, sourced.consumers, sourced.trackers, ?_⟩
  intro slot member
  rw [EventManager.registerEvent] at member reason
  split at member
  · exact sourced.events slot member
  · next unknown =>
      rw [if_neg unknown] at reason
      split at member
      · next room =>
          rw [if_pos room] at reason
          rcases List.mem_append.mp member with old | new
          · exact sourced.events slot old
          · cases List.mem_singleton.mp new
            refine ⟨reason rfl, ?_⟩
            intro subscriber none
            cases none
      · exact sourced.events slot member

/-- Writing discovery's tables. -/
theorem of_sd (sourced : Sourced rt history) {sd : ServiceDiscovery cfg}
    (providers : ∀ entry ∈ sd.providers, entry ∈ rt.sd.providers ∨
      (entry.state = .offered → OfferedBy history entry))
    (consumers : ∀ entry ∈ sd.consumers, entry ∈ rt.sd.consumers ∨ SoughtBy history entry)
    (trackers : ∀ tracker ∈ sd.subTrackers, tracker ∈ rt.sd.subTrackers ∨
      WantedBy history tracker) : Sourced { rt with sd } history where
  services := sourced.services
  providers entry member offered :=
    (providers entry member).elim (sourced.providers entry · offered) (· offered)
  consumers entry member := (consumers entry member).elim (sourced.consumers entry) id
  trackers tracker member := (trackers tracker member).elim (sourced.trackers tracker) id
  events := sourced.events

theorem offer (sourced : Sourced rt history) {serviceId ttlSeconds : UInt16} {nowMs : UInt32}
    {service : ServiceEntry} (found : rt.dispatcher.find serviceId = some service)
    (reason : (rt.sd.offer serviceId service.majorVersion service.minorVersion ttlSeconds
      nowMs).1 = true → OfferAsked history serviceId
        (if ttlSeconds > 0 then ttlSeconds else cfg.offerTtlSeconds)) :
    Sourced { rt with sd := (rt.sd.offer serviceId service.majorVersion service.minorVersion
      ttlSeconds nowMs).2 } history := by
  have registered := sourced.services service (List.mem_of_find?_eq_some found)
  rw [ServiceDiscovery.offer] at reason ⊢
  split
  · exact sourced
  · next providers written =>
      rw [written] at reason
      refine sourced.of_sd ?_ (fun _ member => .inl member) (fun _ member => .inl member)
      intro entry member
      rcases Table.mem_upsert written member with old | rfl
      · exact .inl old
      · exact .inr fun _ => ⟨reason rfl, service, registered,
          MethodDispatcher.find_serviceId found, rfl, rfl⟩

theorem find (sourced : Sourced rt history) {serviceId : UInt16} {majorVersion : UInt8}
    {nowMs : UInt32}
    (reason : (rt.sd.find serviceId majorVersion nowMs).1 = true →
      .returned (.findService serviceId majorVersion nowMs) (.bool true) ∈ history) :
    Sourced { rt with sd := (rt.sd.find serviceId majorVersion nowMs).2 } history := by
  rw [ServiceDiscovery.find] at reason ⊢
  split
  · exact sourced
  · next consumers written =>
      rw [written] at reason
      refine sourced.of_sd (fun _ member => .inl member) ?_ (fun _ member => .inl member)
      intro entry member
      rcases Table.mem_upsert written member with old | rfl
      · exact .inl old
      · refine .inr ⟨⟨majorVersion, nowMs, reason rfl⟩, fun found => ?_⟩
        cases found

theorem subscribeEvent (sourced : Sourced rt history) {serviceId eventId ttlSeconds : UInt16}
    {context : Nat} {nowMs : UInt32}
    (reason : (rt.sd.subscribeEvent serviceId eventId ttlSeconds nowMs).1 = true →
      .returned (.subscribeEvent serviceId eventId context ttlSeconds nowMs) (.bool true) ∈
        history) :
    Sourced { rt with sd := (rt.sd.subscribeEvent serviceId eventId ttlSeconds nowMs).2 }
      history := by
  rw [ServiceDiscovery.subscribeEvent] at reason ⊢
  split
  · exact sourced
  · next trackers written =>
      rw [written] at reason
      refine sourced.of_sd (fun _ member => .inl member) (fun _ member => .inl member) ?_
      intro tracker member
      rcases Table.mem_upsert written member with old | rfl
      · exact .inl old
      · refine .inr ⟨⟨context, nowMs, reason rfl⟩, fun leaves => ?_⟩
        -- a subscription that was to be given up already
        cases known : rt.sd.subTrackers.find?
            fun tracker => SubTracker.key tracker == (serviceId, eventId) with
        | none =>
            rw [known] at leaves
            cases leaves
        | some earlier =>
            rw [known] at leaves
            have key : SubTracker.key earlier = (serviceId, eventId) := Table.lookup_key known
            obtain ⟨rfl, rfl⟩ := Prod.mk.inj key
            exact (sourced.trackers earlier (List.mem_of_find?_eq_some known)).left leaves

/-- A subscription that is given up was there. -/
theorem unsubscribeEvent (sourced : Sourced rt history) {whole : History cfg}
    {serviceId eventId : UInt16}
    (called : .returned (.unsubscribeEvent serviceId eventId)
      (.bool (rt.sd.unsubscribeEvent serviceId eventId).1) :: history = whole) :
    Sourced { rt with sd := (rt.sd.unsubscribeEvent serviceId eventId).2 } whole := by
  subst called
  have kept := sourced.later (List.suffix_cons (.returned (.unsubscribeEvent serviceId eventId)
    (.bool (rt.sd.unsubscribeEvent serviceId eventId).1)) history)
  refine kept.of_sd (fun _ member => .inl member) (fun _ member => .inl member) ?_
  intro tracker member
  rcases Table.mem_updateFirst_find member with old | ⟨earlier, known, rfl⟩
  · exact .inl old
  · have key : SubTracker.key earlier = (serviceId, eventId) := Table.lookup_key known
    obtain ⟨rfl, rfl⟩ := Prod.mk.inj key
    have member : earlier ∈ rt.sd.subTrackers := List.mem_of_find?_eq_some known
    obtain ⟨context, nowMs, subscribed⟩ := (sourced.trackers earlier member).asked
    have tracked : (rt.sd.unsubscribeEvent earlier.serviceId earlier.eventId).1 = true :=
      congrArg Option.isSome known
    refine .inr ⟨(kept.trackers earlier member).asked, fun _ => ⟨history, ?_, context, _, nowMs,
      subscribed⟩⟩
    rw [tracked]

theorem stopOffer (sourced : Sourced rt history) (serviceId : UInt16) :
    Sourced { rt with sd := rt.sd.stopOffer serviceId } history := by
  refine sourced.of_sd ?_ (fun _ member => .inl member) (fun _ member => .inl member)
  intro entry member
  rcases Table.mem_updateFirst member with old | ⟨earlier, -, rfl⟩
  · exact .inl old
  · right
    intro offered
    cases offered

theorem offerService {w : World cfg} (sourced : Sourced w.rt history)
    {serviceId ttlSeconds : UInt16} {nowMs : UInt32}
    (reason : (w.offerService serviceId ttlSeconds nowMs).1 = true →
      .returned (.offerService serviceId ttlSeconds nowMs) (.bool true) ∈ history) :
    Sourced (w.offerService serviceId ttlSeconds nowMs).2.rt history := by
  rw [World.offerService] at reason ⊢
  cases found : w.rt.dispatcher.find serviceId with
  | none => exact sourced
  | some service =>
      rw [found] at reason
      exact sourced.offer found fun ok => .offerService (reason ok)

theorem subscribe {w : World cfg} (sourced : Sourced w.rt history)
    {serviceId eventId ttlSeconds : UInt16} {context : Nat} {nowMs : UInt32}
    (reason : (w.subscribeEvent serviceId eventId context ttlSeconds nowMs).1 = true →
      .returned (.subscribeEvent serviceId eventId context ttlSeconds nowMs) (.bool true) ∈
        history) :
    Sourced (w.subscribeEvent serviceId eventId context ttlSeconds nowMs).2.rt history := by
  rw [World.subscribeEvent, World.registerEventHandler] at reason ⊢
  cases written : Table.upsert (World.handlesEvent serviceId eventId)
      (fun _ => { serviceId, eventId, context }) { serviceId, eventId, context }
      (cfg.maxKnownServices * cfg.maxEvents) w.rt.eventHandlers with
  | none => exact sourced
  | some eventHandlers =>
      rw [written] at reason
      have filed : Sourced { w.rt with eventHandlers } history :=
        ⟨sourced.services, sourced.providers, sourced.consumers, sourced.trackers, sourced.events⟩
      exact filed.subscribeEvent reason

theorem reportDtc {w : World cfg} (sourced : Sourced w.rt history) (code : UInt16)
    (severity : DtcSeverity) (nowMs : UInt32) :
    Sourced (w.reportDtc code severity nowMs).2.rt history := by
  rw [World.reportDtc]
  split
  · exact sourced
  · refine of_same ?_ (World.countRefusal_tables _ _)
    exact ⟨sourced.services, sourced.providers, sourced.consumers, sourced.trackers,
      sourced.events⟩

/-- The service of diagnostics is registered and offered, or nothing has changed. -/
theorem enableDiagnostics {w : World cfg} (sourced : Sourced w.rt history) (nowMs : UInt32)
    (authRequired : Bool)
    (reason : (w.enableDiagnostics nowMs authRequired).1 = true →
      .returned (.enableDiagnostics nowMs authRequired) (.bool true) ∈ history) :
    Sourced (w.enableDiagnostics nowMs authRequired).2.rt history := by
  cases diag : w.rt.diagEnabled with
  | true =>
      rw [World.enableDiagnostics, if_pos diag]
      exact sourced
  | false =>
      rw [OffersTracked.enableDiagnostics_disabled diag] at reason ⊢
      have wired : Sourced { w.rt with
          diagService := { wired := true, clientId := w.rt.clientId } } history :=
        ⟨sourced.services, sourced.providers, sourced.consumers, sourced.trackers, sourced.events⟩
      cases registered : (w.rt.dispatcher.registerService
          (OffersTracked.diagnosticsEntry authRequired)).1 with
      | false =>
          have same := MethodDispatcher.registerService_refused registered
          rw [if_neg (by simp), OffersTracked.registerDiagnostics, same]
          exact wired
      | true =>
          rw [registered, if_pos rfl] at reason
          rw [if_pos rfl]
          have found : (OffersTracked.registerDiagnostics authRequired w).rt.dispatcher.find
              diagServiceId = some (OffersTracked.diagnosticsEntry authRequired) := by
            have looked := MethodDispatcher.find_registerService w.rt.dispatcher
              (rfl : (OffersTracked.diagnosticsEntry authRequired).active = true) diagServiceId
            have free : w.rt.dispatcher.find diagServiceId = none :=
              MethodDispatcher.find_of_registered registered
            rw [free, registered] at looked
            exact looked
          simp only [World.offerService, found] at reason ⊢
          cases offered : ((OffersTracked.registerDiagnostics authRequired w).rt.sd.offer
              diagServiceId (OffersTracked.diagnosticsEntry authRequired).majorVersion
              (OffersTracked.diagnosticsEntry authRequired).minorVersion cfg.offerTtlSeconds
              nowMs).1 with
          | false =>
              have restored : ((OffersTracked.registerDiagnostics authRequired
                  w).rt.dispatcher.unregisterService diagServiceId).2 = w.rt.dispatcher :=
                congrArg Prod.snd
                  (MethodDispatcher.unregisterService_registerService rfl registered)
              have same := offer_refused offered
              simp only [World.unregisterService, same, restored]
              exact wired
          | true =>
              rw [offered] at reason
              have called := reason rfl
              have kept : Sourced (OffersTracked.registerDiagnostics authRequired w).rt history :=
                wired.registerService fun _ => .diagnostics called
              have asked : OfferAsked history diagServiceId
                  (if cfg.offerTtlSeconds > 0 then cfg.offerTtlSeconds
                    else cfg.offerTtlSeconds) := by
                rw [ite_self]
                exact .enableDiagnostics called
              have offering := @offer _ _ _ _ kept _ cfg.offerTtlSeconds nowMs _ found
                fun _ => asked
              exact ⟨offering.services, offering.providers, offering.consumers,
                offering.trackers, offering.events⟩

/-- A call that does not wait, with its return. -/
theorem perform (sourced : Sourced before.rt before.history) {call : ApiCall cfg}
    (isLocal : call.isLocal = true) :
    Sourced (before.perform env id call).rt (before.perform env id call).history := by
  have grown : before.history <:+ (before.perform env id call).history :=
    (Atomic.perform isLocal before).observes.suffix
  have kept := sourced.later grown
  have reason : ∀ ok, (before.apiCall env id call).1 = .bool ok → ok = true →
      .returned call (.bool true) ∈ (before.perform env id call).history := by
    rintro ok answered rfl
    rw [← answered]
    exact .head _
  cases call with
  | request | fireAndForget | notifyEvent => cases isLocal
  | registerService serviceId context major minor authRequired =>
      exact kept.registerService fun ok => .application (reason _ rfl ok)
  | unregisterService serviceId => exact kept.unregisterService serviceId
  | registerEvent serviceId eventId => exact kept.registerEvent fun ok => reason _ rfl ok
  | offerService serviceId ttlSeconds nowMs => exact kept.offerService fun ok => reason _ rfl ok
  | stopOffer serviceId => exact kept.stopOffer serviceId
  | findService serviceId major nowMs => exact kept.find fun ok => reason _ rfl ok
  | subscribeEvent serviceId eventId context ttlSeconds nowMs =>
      exact kept.subscribe fun ok => reason _ rfl ok
  | unsubscribeEvent serviceId eventId =>
      have left := sourced.unsubscribeEvent (rfl : _ =
        (before.perform env id (.unsubscribeEvent serviceId eventId)).history)
      exact ⟨left.services, left.providers, left.consumers, left.trackers, left.events⟩
  | enableDiagnostics nowMs authRequired =>
      exact kept.enableDiagnostics nowMs authRequired fun ok => reason _ rfl ok
  | reportDtc code severity nowMs => exact kept.reportDtc code severity nowMs
  | _ => exact ⟨kept.services, kept.providers, kept.consumers, kept.trackers, kept.events⟩

/-! ## Discovery -/

theorem updateConsumers (sourced : Sourced rt history) {consumers : List (ConsumerEntry n)}
    (each : ∀ entry ∈ consumers, entry ∈ rt.sd.consumers ∨ SoughtBy history entry) :
    Sourced { rt with sd := { rt.sd with consumers } } history :=
  sourced.of_sd (fun _ member => .inl member) each (fun _ member => .inl member)

/-- An offer that has told where a service is. -/
theorem recordOffer (sourced : Sourced rt history) {source : Address n} {data : Bytes}
    {offer : SdPayload.Offer n} (dispatched : .dispatched source data ∈ history)
    (offers : heard cfg source data = some (.offer offer)) (nowMs : UInt32) :
    Sourced
      { rt with
        sd := rt.sd.recordOffer offer.serviceId offer.ttlSeconds offer.sessionId
          offer.providerAddr nowMs }
      history := by
  apply sourced.updateConsumers
  intro entry member
  rcases Table.mem_updateFirst_find member with old | ⟨earlier, known, rfl⟩
  · exact .inl old
  · have key : ConsumerEntry.serviceId earlier = offer.serviceId := Table.lookup_key known
    have sought := sourced.consumers earlier (List.mem_of_find?_eq_some known)
    exact .inr ⟨sought.asked, fun _ => ⟨source, data, offer, dispatched, offers, key.symm, rfl⟩⟩

theorem markFound {w : World cfg} (sourced : Sourced w.rt history) {source : Address n}
    {data : Bytes} {offer : SdPayload.Offer n} (dispatched : .dispatched source data ∈ history)
    (offers : heard cfg source data = some (.offer offer))
    (knows : w.Knows offer.serviceId offer.providerAddr) :
    Sourced { w.rt with sd := w.rt.sd.markFound offer.serviceId } history := by
  apply sourced.updateConsumers
  intro entry member
  rcases Table.mem_updateFirst_find member with old | ⟨earlier, known, rfl⟩
  · exact .inl old
  · obtain ⟨entry, found, address⟩ := knows
    obtain rfl : earlier = entry := Option.some.inj (known.symm.trans found)
    have key : ConsumerEntry.serviceId earlier = offer.serviceId := Table.lookup_key known
    have sought := sourced.consumers earlier (List.mem_of_find?_eq_some known)
    exact .inr ⟨sought.asked, fun _ =>
      ⟨source, data, offer, dispatched, offers, key.symm, address.symm⟩⟩

/-- An entry that changes its state other than by being found. -/
theorem updateConsumerAt (sourced : Sourced rt history) (index : Nat)
    {update : ConsumerEntry n → ConsumerEntry n}
    (service : ∀ entry, (update entry).serviceId = entry.serviceId)
    (provider : ∀ entry, (update entry).providerAddr = entry.providerAddr)
    (found : ∀ entry, (update entry).state = .found → entry.state = .found) :
    Sourced { rt with sd := rt.sd.updateConsumerAt index update } history := by
  apply sourced.updateConsumers
  intro entry member
  rcases Table.mem_modify member with old | ⟨earlier, known, rfl⟩
  · exact .inl old
  · have sought := sourced.consumers earlier known
    right
    constructor
    · rw [service]
      exact sought.asked
    · rw [service, provider]
      exact fun isFound => sought.announced (found earlier isFound)

/-- A tracker that is written under its key, without being given up. -/
theorem updateTrackers (sourced : Sourced rt history) {subTrackers : List SubTracker}
    (each : ∀ tracker ∈ subTrackers, ∃ earlier ∈ rt.sd.subTrackers,
      SubTracker.key tracker = SubTracker.key earlier ∧
      tracker.requestedTtl = earlier.requestedTtl ∧
      (tracker.needsUnsubscribe = true → earlier.needsUnsubscribe = true)) :
    Sourced { rt with sd := { rt.sd with subTrackers } } history := by
  refine sourced.of_sd (fun _ member => .inl member) (fun _ member => .inl member) ?_
  intro tracker member
  obtain ⟨earlier, before, key, ttl, leaves⟩ := each tracker member
  have wanted := sourced.trackers earlier before
  obtain ⟨service, event⟩ := Prod.mk.inj key
  right
  constructor
  · rw [service, event, ttl]
    exact wanted.asked
  · rw [service, event]
    exact fun left => wanted.left (leaves left)

theorem flagResubscribe (sourced : Sourced rt history) (serviceId : UInt16) (nowMs : UInt32) :
    Sourced { rt with sd := rt.sd.flagResubscribe serviceId nowMs } history := by
  apply sourced.updateTrackers
  intro tracker member
  obtain ⟨earlier, before, rfl⟩ := List.mem_map.mp member
  refine ⟨earlier, before, ?_⟩
  split <;> exact ⟨rfl, rfl, id⟩

theorem recordAck (sourced : Sourced rt history) (serviceId eventId : UInt16)
    (result : ReturnCode) (grantedTtl : UInt16) :
    Sourced { rt with sd := rt.sd.recordAck serviceId eventId result grantedTtl } history := by
  apply sourced.updateTrackers
  intro tracker member
  rcases Table.mem_updateFirst member with old | ⟨earlier, before, rfl⟩
  · exact ⟨tracker, old, rfl, rfl, id⟩
  · refine ⟨earlier, before, ?_⟩
    repeat' split
    all_goals exact ⟨rfl, rfl, id⟩

theorem renewals (sourced : Sourced rt history) (nowMs : UInt32) :
    Sourced { rt with sd := (rt.sd.processSubscriptionRenewals nowMs).2 } history := by
  apply sourced.updateTrackers
  intro tracker member
  obtain ⟨earlier, before, rfl⟩ := List.mem_map.mp member
  refine ⟨earlier, before, renew_key _ _ _, ?_⟩
  rw [renew]
  split
  · have turn := @renewTracker_turn _ cfg nowMs earlier
    cases result : renewTracker cfg nowMs earlier with
    | mk sent after =>
        rw [result] at turn
        cases turn with
        | unsubscribe => exact ⟨rfl, fun left => by cases left⟩
        | _ => exact ⟨rfl, id⟩
  · exact ⟨rfl, id⟩

theorem processOffers (sourced : Sourced rt history) (nowMs : UInt32) :
    Sourced { rt with sd := (rt.sd.processOffers nowMs).2 } history := by
  refine sourced.of_sd ?_ (fun _ member => .inl member) (fun _ member => .inl member)
  intro entry member
  obtain ⟨earlier, before, rfl⟩ := List.mem_map.mp member
  have offered := sourced.providers earlier before
  split
  · right
    intro isOffered
    obtain ⟨asked, registered⟩ := offered isOffered
    exact ⟨asked, registered⟩
  · exact .inl before

theorem of_eventManager (sourced : Sourced rt history) {eventManager : EventManager cfg}
    (events : ∀ slot ∈ eventManager.events, PublishedBy history slot) :
    Sourced { rt with eventManager } history :=
  ⟨sourced.services, sourced.providers, sourced.consumers, sourced.trackers, events⟩

/-- Writing the subscribers of an event. -/
theorem setSubscribers (sourced : Sourced rt history) {serviceId eventId : UInt16}
    {slot : EventSlot n} (found : rt.eventManager.findEvent serviceId eventId = some slot)
    {subscribers : List (Subscriber n)}
    (each : ∀ subscriber ∈ subscribers, subscriber ∈ slot.subscribers ∨
      GrantedTo history serviceId eventId subscriber.addr) :
    Sourced
      { rt with eventManager := rt.eventManager.setSubscribers serviceId eventId subscribers }
      history := by
  apply sourced.of_eventManager
  intro other member
  rcases Table.mem_updateFirst_find member with old | ⟨earlier, known, rfl⟩
  · exact sourced.events other old
  · obtain rfl : earlier = slot := Option.some.inj (known.symm.trans found)
    have published := sourced.events earlier (EventManager.findEvent_mem found)
    have holding := List.find?_some known
    simp only [EventManager.holds, Bool.and_eq_true, beq_iff_eq] at holding
    obtain ⟨⟨-, rfl⟩, rfl⟩ := holding
    exact ⟨published.registered, fun subscriber member =>
      (each subscriber member).elim (published.granted subscriber) id⟩

theorem unsubscribeRequest (sourced : Sourced rt history) (serviceId eventId clientId : UInt16) :
    Sourced { rt with eventManager := rt.eventManager.unsubscribe serviceId eventId clientId }
      history := by
  rw [EventManager.unsubscribe]
  split
  · exact sourced
  · next slot found =>
      exact sourced.setSubscribers found fun _ member => .inl (Table.mem_of_mem_swapRemove member)

theorem evictExpired (sourced : Sourced rt history) (nowMs : UInt32) :
    Sourced { rt with eventManager := rt.eventManager.evictExpired nowMs } history := by
  apply sourced.of_eventManager
  intro slot member
  obtain ⟨earlier, before, rfl⟩ := List.mem_map.mp member
  have published := sourced.events earlier before
  split
  · refine ⟨published.registered, fun subscriber member => ?_⟩
    have kept := EventManager.evictLoop_perm nowMs (Nat.le_refl earlier.subscribers.length)
    exact published.granted subscriber (List.mem_filter.mp (kept.mem_iff.mp member)).1
  · exact published

/-- A request to subscribe that is granted. -/
theorem handleSubscribeRequest {w : World cfg} (sourced : Sourced w.rt w.history)
    {source : Address n} {data : Bytes} {hdr : MessageHeader} {request : SdPayload.Subscribe}
    (dispatched : .dispatched source data ∈ w.history)
    (subscribes : heard cfg source data = some (.subscribe source hdr request))
    (nowMs : UInt32) :
    let after := w.handleSubscribeRequest env source hdr request nowMs
    Sourced after.rt after.history := by
  intro after
  have grown : w.history <:+ after.history :=
    (@World.handleSubscribeRequest_core _ _ env source hdr request nowMs w).history.suffix
  have kept := sourced.later grown
  have core := @World.handleSubscribeRequest_core _ _ env source hdr request nowMs w
  have traffic : after.traffic = _ := World.handleSubscribeRequest_traffic
  have written : Sourced { w.rt with eventManager := after.rt.eventManager } after.history := by
    have table : after.rt.eventManager = _ := World.handleSubscribeRequest_eventManager
    rw [table]
    rcases w.rt.eventManager.subscribe_cases request.serviceId request.eventId hdr.clientId
        source request.ttlSeconds nowMs with ⟨unchanged, -⟩ | ⟨slot, subscribers, found, upserted,
          granted⟩
    · rw [unchanged]
      exact kept
    · rw [granted] at traffic ⊢
      obtain ⟨ok, sent⟩ := World.mem_traffic_unicast (traffic ▸ List.mem_cons_self)
      apply kept.setSubscribers found
      intro subscriber member
      rcases Table.mem_upsert upserted member with old | rfl
      · exact .inl old
      · exact .inr ⟨data, hdr, request, _, _, ok, grown.subset dispatched, subscribes, rfl, rfl,
          sent, ackIn_ackFrame⟩
  obtain ⟨services, providers, consumers, trackers, events⟩ := written
  constructor
  · rwa [core.dispatcher]
  · rwa [core.sd]
  · rwa [core.sd]
  · rwa [core.sd]
  · exact events

theorem deed {kind : StepKind} (sourced : Sourced before.rt before.history)
    (deed : Deed env kind before after) : Sourced after.rt after.history := by
  have grown := deed.suffix
  have kept := sourced.later grown
  cases writes : kind.writes with
  | false => exact kept.of_same (deed.tables writes)
  | true =>
      cases deed with
      | perform isLocal => exact sourced.perform isLocal
      | recordOffer dispatched offers nowMs => exact sourced.recordOffer dispatched offers nowMs
      | markFound dispatched offers knows => exact sourced.markFound dispatched offers knows
      | flagResubscribe serviceId nowMs => exact sourced.flagResubscribe serviceId nowMs
      | recordAck serviceId eventId result grantedTtl =>
          exact sourced.recordAck serviceId eventId result grantedTtl
      | expireConsumer index =>
          exact sourced.updateConsumerAt index (fun _ => rfl) (fun _ => rfl) fun _ found => by
            cases found
      | giveUpFind index retryCount =>
          exact sourced.updateConsumerAt index (fun _ => rfl) (fun _ => rfl) fun _ found => by
            cases found
      | scheduleRetry index retryCount nowMs =>
          exact sourced.updateConsumerAt index (fun _ => rfl) (fun _ => rfl) fun _ => id
      | subscribeRequest dispatched subscribes nowMs =>
          exact sourced.handleSubscribeRequest dispatched subscribes nowMs
      | unsubscribeRequest request clientId => exact sourced.unsubscribeRequest _ _ _
      | evictSubscribers nowMs => exact sourced.evictExpired nowMs
      | broadcastOffers nowMs =>
          let decided : World cfg :=
            { before with rt := { before.rt with sd := (before.rt.sd.processOffers nowMs).2 } }
          have sent : SameTables decided (before.broadcastOffers env nowMs) :=
            .foldl (fun w message => World.sendSdBroadcast_tables message w) _ _
          exact of_same (kept.processOffers nowMs) sent
      | renewSubscriptions nowMs =>
          have each : ∀ (w : World cfg) (send : Address n × SdMessage n),
              SameTables w (w.sendSdUnicast env send.1 send.2) :=
            fun w send => World.sendSdUnicast_tables send.1 send.2 w
          have sent : SameTables (before.markRenewals nowMs)
              (before.renewSubscriptions env nowMs) := by
            rw [World.renewSubscriptions]
            exact .foldl each _ _
          exact of_same (kept.renewals nowMs) sent
      | _ => cases writes

end Sourced

/-- Throughout a run, each entry of the tables is there for a reason. -/
theorem Deeds.sourced {clientId : UInt16} {w : World cfg}
    (run : Deeds env (World.initial cfg clientId) w) : Sourced w.rt w.history := by
  refine @Runs.invariant _ _ (fun w => Sourced w.rt w.history) ?_ _ _ run (.initial clientId)
  rintro before after sourced ⟨kind, deed⟩
  exact sourced.deed deed

/-- After every deed of a run, also where handlers and callbacks are entered and between the
calls they make: what is registered, offered, searched for, subscribed to or granted has been
asked for by the application or by a datagram. -/
theorem World.entries_have_reason {clientId : UInt16} {w : World cfg}
    (run : Deeds env (World.initial cfg clientId) w) :
    (∀ entry ∈ w.rt.dispatcher.services, RegisteredBy w.history entry) ∧
    (∀ entry ∈ w.rt.sd.providers, entry.state = .offered → OfferedBy w.history entry) ∧
    (∀ entry ∈ w.rt.sd.consumers, SoughtBy w.history entry) ∧
    (∀ tracker ∈ w.rt.sd.subTrackers, WantedBy w.history tracker) ∧
    ∀ slot ∈ w.rt.eventManager.events, PublishedBy w.history slot := by
  have sourced := run.sourced
  exact ⟨sourced.services, sourced.providers, sourced.consumers, sourced.trackers, sourced.events⟩

/-- A device that offers a service and publishes an event of it. -/
def publishingDevice : World embeddedConfig :=
  .run (.benign _)
    [.api (.registerService 0x1000 0 1 0 false), .api (.registerEvent 0x1000 0x8001),
      .api (.offerService 0x1000 5 0)]
    (World.initial _ 1)

def publishedService : ServiceEntry where
  serviceId := 0x1000
  majorVersion := 1
  minorVersion := 0
  authRequired := false
  context := .application 0

def publishedRequest : MessageHeader where
  messageType := MessageType.request.toByte
  serviceId := 0x1000
  methodEventId := 1
  clientId := 7
  requestId := 1

def publishedFrame : Bytes := messageFrame publishedRequest [] []

/-- The device when a request for the service has passed validation. -/
def requestedDevice : World embeddedConfig :=
  (publishingDevice.validate (Address.zero 8) publishedFrame).2

/-- The device as it enters the handler. -/
def enteringDevice : World embeddedConfig :=
  requestedDevice.emit (.onRequest publishedService requestedDevice.rt.authenticator 1
    (payloadOf publishedRequest publishedFrame) (some embeddedConfig.maxPayloadSize))

theorem enteringDevice_deeds :
    ∃ clientId, Deeds (.benign _) (World.initial _ clientId) enteringDevice := by
  have reachable : World.Reachable (.benign _) publishingDevice := ⟨1, _, rfl⟩
  obtain ⟨clientId, run⟩ := reachable.deeds
  have passed : (publishingDevice.validate (Address.zero 8) publishedFrame).1 =
      some publishedRequest := by
    decide +kernel
  have accepted : Accepted (Address.zero 8) publishedFrame publishedRequest requestedDevice :=
    World.accepted_of_passed passed
  have validated : Deeds (.benign _) publishingDevice requestedDevice :=
    (Deed.validate _ _ publishingDevice).deeds
  have found : requestedDevice.rt.dispatcher.find 0x1000 = some publishedService := by
    decide +kernel
  have ready : requestedDevice.isReady (.benign _) publishedService.context = true := rfl
  have type : MessageType.ofByte publishedRequest.messageType = some .request := by decide
  have asks : Asks embeddedConfig publishedRequest (some embeddedConfig.maxPayloadSize) :=
    .request type
  have entered : Deeds (.benign _) requestedDevice enteringDevice :=
    (Deed.enterHandler accepted (by decide) asks found ready).deeds
  exact ⟨clientId, run.trans (validated.trans entered)⟩

/-- Where the handler is entered, what is offered has its reason. -/
theorem World.entries_have_reason_published :
    (∀ entry ∈ enteringDevice.rt.sd.providers, entry.state = .offered →
      OfferedBy enteringDevice.history entry) ∧
    enteringDevice.rt.sd.providers.map (·.serviceId) = [0x1000] := by
  obtain ⟨clientId, run⟩ := enteringDevice_deeds
  exact ⟨(World.entries_have_reason run).2.1, by decide +kernel⟩

end Sero
