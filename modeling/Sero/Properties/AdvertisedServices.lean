import Sero.Runtime.Decomposition

/-!
# Advertised services

`offer_service` looks the service up before it is offered, so an offer starts with the
registered version.  It keeps telling the truth until the service is unregistered while
it is offered: `unregister_service` does not withdraw the offer.
-/

namespace Sero

open Library ServiceDiscovery

variable {n : Nat} {cfg : Config n} {env : Env cfg}

/-! ## What the application has offered -/

/-- Has `enable_diagnostics` succeeded? -/
def diagnosticsEnabled (history : History cfg) : Bool :=
  history.any fun
    | .returned (.enableDiagnostics ..) (.bool true) => true
    | _ => false

/-- Is a service offered, going by the calls and what they returned?  Only the first
success of `enable_diagnostics` offers the diagnostics service. -/
def isOffered (serviceId : UInt16) : History cfg → Bool
  | [] => false
  | .returned (.offerService offered ..) (.bool true) :: past =>
      offered == serviceId || isOffered serviceId past
  | .returned (.stopOffer withdrawn) _ :: past =>
      withdrawn != serviceId && isOffered serviceId past
  | .returned (.enableDiagnostics ..) (.bool true) :: past =>
      (diagServiceId == serviceId && !diagnosticsEnabled past) || isOffered serviceId past
  | _ :: past => isOffered serviceId past

/-- Each successful `unregister_service` so far was for a service that was not offered. -/
def UnregistersWithdrawn (history : History cfg) : Prop :=
  ∀ serviceId past,
    (.returned (.unregisterService serviceId) (.bool true) :: past) <:+ history →
      isOffered serviceId past = false

/-- A registered service has the id and the version the entry offers. -/
def Registered (dispatcher : MethodDispatcher cfg) (entry : ProviderEntry) : Prop :=
  ∃ service, dispatcher.find entry.serviceId = some service ∧
    service.majorVersion = entry.majorVersion ∧ service.minorVersion = entry.minorVersion

/-- Services and offers are as before. -/
structure SameRegistry (before after : World cfg) : Prop where
  providers : after.rt.sd.providers = before.rt.sd.providers
  dispatcher : after.rt.dispatcher = before.rt.dispatcher
  diagEnabled : after.rt.diagEnabled = before.rt.diagEnabled

/-- The calls that write them. -/
def ApiCall.writesRegistry : ApiCall cfg → Bool
  | .registerService .. | .unregisterService .. | .offerService .. | .stopOffer ..
  | .enableDiagnostics .. => true
  | _ => false

namespace World

theorem increment_registry (counter : DiagnosticCounter) (header : Option Bytes)
    (w : World cfg) : SameRegistry w (w.increment counter header) := by
  have written := increment_rt counter header w
  exact ⟨by rw [written], by rw [written], by rw [written]⟩

theorem countRefusal_registry (ok : Bool) (w : World cfg) :
    SameRegistry w (w.countRefusal ok) := by
  cases ok with
  | true => exact ⟨rfl, rfl, rfl⟩
  | false => exact increment_registry _ _ _

theorem apiCall_registry (body : World cfg → World cfg) {call : ApiCall cfg}
    (isLocal : call.isLocal = true) (other : call.writesRegistry = false) (w : World cfg) :
    SameRegistry w (w.apiCall env body call).2 := by
  cases call with
  | request | fireAndForget | notifyEvent => cases isLocal
  | registerService | unregisterService | offerService | stopOffer | enableDiagnostics =>
      cases other
  | findService serviceId major now =>
      refine ⟨?_, rfl, rfl⟩
      change (w.rt.sd.find serviceId major now).2.providers = _
      rw [find]
      split <;> rfl
  | subscribeEvent serviceId eventId context ttl now =>
      simp only [apiCall, subscribeEvent, registerEventHandler]
      cases Table.upsert (handlesEvent serviceId eventId)
          (fun _ => { serviceId, eventId, context }) { serviceId, eventId, context }
          (cfg.maxKnownServices * cfg.maxEvents) w.rt.eventHandlers with
      | none => exact ⟨rfl, rfl, rfl⟩
      | some handlers =>
          refine ⟨?_, rfl, rfl⟩
          change (w.rt.sd.subscribeEvent serviceId eventId ttl now).2.providers = _
          rw [ServiceDiscovery.subscribeEvent]
          split <;> rfl
  | reportDtc code severity now =>
      change SameRegistry w (w.reportDtc code severity now).2
      rw [reportDtc]
      split
      · exact ⟨rfl, rfl, rfl⟩
      · have counted := @countRefusal_registry _ cfg
        obtain ⟨providers, dispatcher, diagEnabled⟩ := counted (w.rt.dtcStore.report code
          severity now).1 { w with rt := { w.rt with
            dtcStore := (w.rt.dtcStore.report code severity now).2 } }
        exact ⟨providers, dispatcher, diagEnabled⟩
  | _ => exact ⟨rfl, rfl, rfl⟩

end World

theorem Background.registry {before after : World cfg} (step : Background env before after) :
    SameRegistry before after := by
  refine ⟨by rw [step.core.sd], step.core.dispatcher, ?_⟩
  cases step with
  | increment counter header => exact (World.increment_registry counter header before).diagEnabled
  | sdBroadcast message =>
      rw [World.sendSdBroadcast]
      split
      · rfl
      · exact (World.countRefusal_registry _ _).diagEnabled
  | sdUnicast dest message =>
      rw [World.sendSdUnicast]
      split
      · rfl
      · exact (World.countRefusal_registry _ _).diagEnabled
  | subscribeRequest => exact (World.countRefusal_registry _ _).diagEnabled
  | _ => rfl

/-- Services and offers are written by calls of the application, and the time of the
last broadcast by `process_offers`. -/
theorem Atomic.registry {kind : StepKind} {before after : World cfg}
    (step : Atomic env kind before after) (notCall : kind ≠ .perform)
    (notWrite : kind ≠ .sdWrite) : SameRegistry before after := by
  cases step with
  | background step => exact step.registry
  | perform | sdWrite => contradiction
  | validate source data =>
      obtain ⟨diag, rt, -⟩ := World.validate_rt source data before
      exact ⟨by rw [rt], by rw [rt], by rw [rt]⟩
  | @reply source data hdr _ accepted checked notSd isRequest rc responseLength fits =>
      obtain ⟨last, ok, equal, rt, -⟩ := World.sendReply_spec env source hdr
        (payloadOf hdr data) rc responseLength before
      have counted := World.countRefusal_registry ok last
      rw [equal]
      exact ⟨by rw [counted.providers, rt], by rw [counted.dispatcher, rt],
        by rw [counted.diagEnabled, rt]⟩
  | @finish slot =>
      rw [RequestTracker.finish]
      cases ((World.trackerLens.get before).entries slot).callback <;> exact ⟨rfl, rfl, rfl⟩
  | submit =>
      rw [World.submit]
      split <;> exact ⟨rfl, rfl, rfl⟩
  | markRenewals | enterHandler | callback | transmit | returned | resetPeer =>
      exact ⟨rfl, rfl, rfl⟩

/-! ## The invariant -/

/-- Offers are what the application has offered, and registered unless one of their
services has been unregistered meanwhile. -/
structure OffersTracked (w : World cfg) : Prop where
  keyed : w.rt.dispatcher.Keyed
  distinct : w.rt.sd.DistinctProviders
  diag : w.rt.diagEnabled = diagnosticsEnabled w.history
  offered : ∀ serviceId entry, w.rt.sd.findProvider serviceId = some entry →
    entry.state = .offered → isOffered serviceId w.history = true
  registered : UnregistersWithdrawn w.history → ∀ serviceId entry,
    w.rt.sd.findProvider serviceId = some entry → entry.state = .offered →
    Registered w.rt.dispatcher entry

/-- Only calls of the application count. -/
theorem isOffered_append {events past : History cfg}
    (noCalls : ∀ event ∈ events, event.kind ≠ .perform) :
    (∀ serviceId, isOffered serviceId (events ++ past) = isOffered serviceId past) ∧
      diagnosticsEnabled (events ++ past) = diagnosticsEnabled past := by
  induction events with
  | nil => exact ⟨fun _ => rfl, rfl⟩
  | cons event rest ih =>
      obtain ⟨tail, diagTail⟩ := ih fun event member => noCalls event (.tail _ member)
      have notCall := noCalls event (.head _)
      cases event with
      | returned call result =>
          cases call with
          | request | fireAndForget | notifyEvent => exact ⟨tail, diagTail⟩
          | _ => exact absurd rfl notCall
      | _ => exact ⟨tail, diagTail⟩

theorem UnregistersWithdrawn.of_suffix {earlier later : History cfg}
    (withdrawn : UnregistersWithdrawn later) (grown : earlier <:+ later) :
    UnregistersWithdrawn earlier :=
  fun serviceId past occurs => withdrawn serviceId past (occurs.trans grown)

namespace OffersTracked

variable {before after : World cfg}

theorem initial (clientId : UInt16) : OffersTracked (World.initial cfg clientId) where
  keyed := .empty
  distinct := List.nodup_nil
  diag := rfl
  offered _ _ found := by cases found
  registered _ _ _ found := by cases found

/-- Steps that leave the tables alone. -/
theorem of_same (tracked : OffersTracked before) (same : SameRegistry before after)
    {events : History cfg} (history : after.history = events ++ before.history)
    (offers : ∀ serviceId, isOffered serviceId (events ++ before.history) =
      isOffered serviceId before.history)
    (diag : diagnosticsEnabled (events ++ before.history) =
      diagnosticsEnabled before.history) : OffersTracked after := by
  have found : ∀ serviceId, after.rt.sd.findProvider serviceId =
      before.rt.sd.findProvider serviceId := by
    intro serviceId
    rw [findProvider, same.providers, findProvider]
  constructor
  · rw [same.dispatcher]
    exact tracked.keyed
  · rw [DistinctProviders, same.providers]
    exact tracked.distinct
  · rw [same.diagEnabled, history, diag, tracked.diag]
  · intro serviceId entry here offered
    rw [history, offers]
    exact tracked.offered serviceId entry (found serviceId ▸ here) offered
  · intro withdrawn serviceId entry here offered
    rw [same.dispatcher]
    have earlier := withdrawn.of_suffix (history ▸ List.suffix_append events before.history)
    exact tracked.registered earlier serviceId entry (found serviceId ▸ here) offered

section Calls

variable {w : World cfg}

/-- A dispatcher that finds what was found before. -/
theorem of_dispatcher (tracked : OffersTracked w) {dispatcher : MethodDispatcher cfg}
    (keyed : dispatcher.Keyed)
    (kept : ∀ serviceId service, w.rt.dispatcher.find serviceId = some service →
      dispatcher.find serviceId = some service) :
    OffersTracked { w with rt := { w.rt with dispatcher } } where
  keyed
  distinct := tracked.distinct
  diag := tracked.diag
  offered := tracked.offered
  registered withdrawn serviceId entry here offered := by
    obtain ⟨service, found, versions⟩ := tracked.registered withdrawn serviceId entry here offered
    exact ⟨service, kept _ _ found, versions⟩

theorem registerService (tracked : OffersTracked w) {service : ServiceEntry}
    (active : service.active = true) :
    OffersTracked { w with rt := { w.rt with
      dispatcher := (w.rt.dispatcher.registerService service).2 } } := by
  apply tracked.of_dispatcher (tracked.keyed.registerService active)
  intro serviceId other found
  rw [MethodDispatcher.find_registerService _ active, found]
  rfl

/-- Observing an event that is about no offer. -/
theorem observe (tracked : OffersTracked w) {event : Event cfg}
    (offers : ∀ serviceId, isOffered serviceId (event :: w.history) =
      isOffered serviceId w.history)
    (diag : diagnosticsEnabled (event :: w.history) = diagnosticsEnabled w.history) :
    OffersTracked (w.emit event) :=
  tracked.of_same ⟨rfl, rfl, rfl⟩ (List.singleton_append.symm : _ = [event] ++ w.history)
    offers diag

theorem unregisterService (tracked : OffersTracked w) (serviceId : UInt16) :
    OffersTracked (World.emit
      (.returned (.unregisterService serviceId)
        (.bool (w.rt.dispatcher.unregisterService serviceId).1))
      { w with rt := { w.rt with
        dispatcher := (w.rt.dispatcher.unregisterService serviceId).2 } }) where
  keyed := tracked.keyed.unregisterService serviceId
  distinct := tracked.distinct
  diag := tracked.diag
  offered := tracked.offered
  registered withdrawn wanted entry here offered := by
    have earlier : UnregistersWithdrawn w.history :=
      withdrawn.of_suffix (List.suffix_cons _ _)
    obtain ⟨service, found, versions⟩ :=
      tracked.registered earlier wanted entry here offered
    refine ⟨service, ?_, versions⟩
    cases removed : (w.rt.dispatcher.unregisterService serviceId).1 with
    | false =>
        rw [World.emit_rt]
        exact (congrArg (MethodDispatcher.find · entry.serviceId)
          (MethodDispatcher.unregisterService_refused removed)).trans found
    | true =>
        -- the condition: the service unregistered is not the one offered
        have notOffered := withdrawn serviceId w.history
          (by rw [← removed]; exact List.suffix_refl _)
        have other : entry.serviceId ≠ serviceId := by
          rintro rfl
          have key : entry.serviceId = wanted := Table.lookup_key here
          rw [key, tracked.offered wanted entry here offered] at notOffered
          cases notOffered
        have kept := tracked.keyed.find_unregisterService serviceId entry.serviceId
        rw [if_neg other] at kept
        exact kept.trans found

theorem stopOffer (tracked : OffersTracked w) (serviceId : UInt16) (result : ApiResult) :
    OffersTracked (World.emit (.returned (.stopOffer serviceId) result)
      { w with rt := { w.rt with sd := w.rt.sd.stopOffer serviceId } }) := by
  have before : ∀ wanted entry, (w.rt.sd.stopOffer serviceId).findProvider wanted = some entry →
      entry.state = .offered →
      wanted ≠ serviceId ∧ w.rt.sd.findProvider wanted = some entry := by
    intro wanted entry here offered
    rw [findProvider_stopOffer] at here
    split at here
    · obtain ⟨old, -, rfl⟩ := Option.map_eq_some_iff.mp here
      cases offered
    · next other => exact ⟨other, here⟩
  constructor
  · exact tracked.keyed
  · exact tracked.distinct.stopOffer serviceId
  · exact tracked.diag
  · intro wanted entry here offered
    obtain ⟨other, old⟩ := before wanted entry here offered
    change (serviceId != wanted && isOffered wanted w.history) = true
    rw [tracked.offered wanted entry old offered]
    simpa using Ne.symm other
  · intro withdrawn wanted entry here offered
    have earlier : UnregistersWithdrawn w.history := withdrawn.of_suffix (List.suffix_cons _ _)
    exact tracked.registered earlier wanted entry (before wanted entry here offered).2 offered

/-- A service that is registered starts to be offered. -/
theorem offer (tracked : OffersTracked w) {serviceId ttlSeconds : UInt16} {nowMs : UInt32}
    {service : ServiceEntry} (found : w.rt.dispatcher.find serviceId = some service)
    {event : Event cfg} {diagEnabled : Bool}
    (accepted : (w.rt.sd.offer serviceId service.majorVersion service.minorVersion ttlSeconds
      nowMs).1 = true)
    (recorded : ∀ wanted, isOffered wanted (event :: w.history) =
      (serviceId == wanted || isOffered wanted w.history))
    (diag : diagEnabled = diagnosticsEnabled (event :: w.history)) :
    OffersTracked (World.emit event { w with rt := { w.rt with
      diagEnabled
      sd := (w.rt.sd.offer serviceId service.majorVersion service.minorVersion ttlSeconds
        nowMs).2 } }) := by
  have looked := findProvider_offer accepted
  constructor
  · exact tracked.keyed
  · exact tracked.distinct.offer
  · exact diag
  · intro wanted entry here offered
    rw [World.emit_history, recorded]
    have either := (looked wanted).symm.trans here
    split at either
    · next same => simp [same]
    · rw [tracked.offered wanted entry either offered, Bool.or_true]
  · intro withdrawn wanted entry here offered
    have earlier : UnregistersWithdrawn w.history := withdrawn.of_suffix (List.suffix_cons _ _)
    have either := (looked wanted).symm.trans here
    split at either
    · cases either
      exact ⟨service, found, rfl, rfl⟩
    · exact tracked.registered earlier wanted entry either offered

theorem offerService (tracked : OffersTracked w) (serviceId ttlSeconds : UInt16)
    (nowMs : UInt32) :
    OffersTracked (w.perform env id (.offerService serviceId ttlSeconds nowMs)) := by
  simp only [World.perform, World.apiCall, World.offerService]
  cases found : w.rt.dispatcher.find serviceId with
  | none => exact tracked.observe (fun _ => rfl) rfl
  | some service =>
      dsimp only
      cases accepted : (w.rt.sd.offer serviceId service.majorVersion service.minorVersion
          ttlSeconds nowMs).1 with
      | false =>
          rw [offer_refused accepted]
          exact tracked.observe (fun _ => rfl) rfl
      | true => exact tracked.offer found accepted (fun _ => rfl) tracked.diag

/-- The service that `enable_diagnostics` registers. -/
def diagnosticsEntry (authRequired : Bool) : ServiceEntry where
  serviceId := diagServiceId
  majorVersion := 1
  minorVersion := 0
  authRequired
  context := .diagnostics

/-- The world in which it is registered, if it can be. -/
def registerDiagnostics (authRequired : Bool) (w : World cfg) : World cfg :=
  { w with rt := { w.rt with
    diagService := { wired := true, clientId := w.rt.clientId }
    dispatcher := (w.rt.dispatcher.registerService (diagnosticsEntry authRequired)).2 } }

theorem enableDiagnostics_disabled {nowMs : UInt32} {authRequired : Bool}
    (disabled : w.rt.diagEnabled = false) :
    w.enableDiagnostics nowMs authRequired =
      if (w.rt.dispatcher.registerService (diagnosticsEntry authRequired)).1 then
        match (registerDiagnostics authRequired w).offerService diagServiceId
          cfg.offerTtlSeconds nowMs with
        | (false, w) => (false, (w.unregisterService diagServiceId).2)
        | (true, w) => (true, { w with rt := { w.rt with diagEnabled := true } })
      else (false, registerDiagnostics authRequired w) := by
  rw [World.enableDiagnostics, if_neg (by rw [disabled]; simp)]
  dsimp only
  split
  · next registered =>
      have refused : (w.rt.dispatcher.registerService (diagnosticsEntry authRequired)).1 =
        false := congrArg Prod.fst registered
      have same : registerDiagnostics authRequired w = _ := congrArg Prod.snd registered
      rw [refused, same]
      rfl
  · next after registered =>
      have accepted : (w.rt.dispatcher.registerService (diagnosticsEntry authRequired)).1 =
        true := congrArg Prod.fst registered
      have same : registerDiagnostics authRequired w = after := congrArg Prod.snd registered
      rw [accepted, same]
      rfl

theorem registerDiagnostics_tracked (tracked : OffersTracked w) (authRequired : Bool) :
    OffersTracked (registerDiagnostics authRequired w) := by
  have registered := tracked.registerService (rfl : (diagnosticsEntry authRequired).active = true)
  exact registered.of_same ⟨rfl, rfl, rfl⟩ (List.nil_append _).symm (fun _ => rfl) rfl

theorem enableDiagnostics (tracked : OffersTracked w) (nowMs : UInt32) (authRequired : Bool) :
    OffersTracked (w.perform env id (.enableDiagnostics nowMs authRequired)) := by
  simp only [World.perform, World.apiCall]
  cases diag : w.rt.diagEnabled with
  | true =>
      have enabled := tracked.diag.symm.trans diag
      rw [World.enableDiagnostics, if_pos diag]
      apply tracked.observe
      · intro serviceId
        simp [isOffered, enabled]
      · rw [enabled, diagnosticsEnabled, List.any_cons]
        rfl
  | false =>
      have disabled := tracked.diag.symm.trans diag
      have registered := tracked.registerDiagnostics_tracked authRequired
      rw [enableDiagnostics_disabled diag]
      cases accepted : (w.rt.dispatcher.registerService (diagnosticsEntry authRequired)).1 with
      | false => exact registered.observe (fun _ => rfl) rfl
      | true =>
          have free := MethodDispatcher.find_of_registered accepted
          have found : (registerDiagnostics authRequired w).rt.dispatcher.find diagServiceId =
              some (diagnosticsEntry authRequired) := by
            have looked := MethodDispatcher.find_registerService w.rt.dispatcher
              (rfl : (diagnosticsEntry authRequired).active = true) diagServiceId
            rw [show w.rt.dispatcher.find diagServiceId = none from free, accepted] at looked
            exact looked
          simp only [World.offerService, found, if_true]
          cases offered : ((registerDiagnostics authRequired w).rt.sd.offer diagServiceId
              (diagnosticsEntry authRequired).majorVersion
              (diagnosticsEntry authRequired).minorVersion cfg.offerTtlSeconds nowMs).1 with
          | true =>
              apply registered.offer found offered
              · intro wanted
                have history : (registerDiagnostics authRequired w).history = w.history := rfl
                rw [history]
                simp [isOffered, disabled]
              · rfl
          | false =>
              -- the registration is rolled back
              have restored : ((registerDiagnostics authRequired w).rt.dispatcher.unregisterService
                  diagServiceId).2 = w.rt.dispatcher :=
                congrArg Prod.snd (MethodDispatcher.unregisterService_registerService rfl accepted)
              rw [offer_refused offered]
              exact tracked.of_same ⟨rfl, restored, rfl⟩ (List.singleton_append.symm :
                _ = [.returned (.enableDiagnostics nowMs authRequired) (.bool false)] ++ w.history)
                (fun _ => rfl) rfl

end Calls

/-- Calls that write neither services nor offers. -/
theorem perform_other (tracked : OffersTracked before) {call : ApiCall cfg}
    (isLocal : call.isLocal = true) (other : call.writesRegistry = false) :
    OffersTracked (before.perform env id call) := by
  have same : SameRegistry before (before.apiCall env id call).2 :=
    World.apiCall_registry id isLocal other before
  obtain ⟨events, history, kinds⟩ :=
    (@World.apiCall_same _ _ env id call isLocal before).history
  have noCalls : ∀ event ∈ events, event.kind ≠ .perform :=
    Event.kind_ne kinds (by simp) (by simp)
  obtain ⟨offers, diag⟩ := @isOffered_append _ _ events before.history noCalls
  have called : OffersTracked (before.apiCall env id call).2 :=
    tracked.of_same same history offers diag
  apply called.observe
  · intro serviceId
    cases call with
    | registerService | unregisterService | offerService | stopOffer | enableDiagnostics =>
        cases other
    | _ => rfl
  · cases call with
    | enableDiagnostics => cases other
    | _ => rfl

theorem perform (tracked : OffersTracked before) {call : ApiCall cfg}
    (isLocal : call.isLocal = true) : OffersTracked (before.perform env id call) := by
  cases writes : call.writesRegistry with
  | false => exact tracked.perform_other isLocal writes
  | true =>
      cases call with
      | registerService serviceId context majorVersion minorVersion authRequired =>
          let service : ServiceEntry := {
            serviceId, majorVersion, minorVersion, authRequired
            context := .application context }
          have registered := tracked.registerService (rfl : service.active = true)
          exact registered.observe (fun _ => rfl) rfl
      | unregisterService serviceId => exact tracked.unregisterService serviceId
      | offerService serviceId ttl now => exact tracked.offerService serviceId ttl now
      | stopOffer serviceId => exact tracked.stopOffer serviceId _
      | enableDiagnostics now auth => exact tracked.enableDiagnostics now auth
      | _ => cases writes

/-- Discovery's own writes leave ids, states and versions of offers alone. -/
theorem sdWrite (tracked : OffersTracked before) {sd : ServiceDiscovery cfg}
    (write : SdWrite before.rt.sd sd) :
    OffersTracked { before with rt := { before.rt with sd } } := by
  cases write with
  | processOffers nowMs =>
      have old : ∀ serviceId entry,
          (before.rt.sd.processOffers nowMs).2.findProvider serviceId = some entry →
          ∃ earlier, before.rt.sd.findProvider serviceId = some earlier ∧
            entry = ProviderEntry.broadcastAt nowMs earlier := by
        intro serviceId entry here
        rw [findProvider_processOffers] at here
        obtain ⟨earlier, found, rfl⟩ := Option.map_eq_some_iff.mp here
        exact ⟨earlier, found, rfl⟩
      constructor
      · exact tracked.keyed
      · exact tracked.distinct.processOffers nowMs
      · exact tracked.diag
      · intro serviceId entry here offered
        obtain ⟨earlier, found, rfl⟩ := old serviceId entry here
        have same := ProviderEntry.broadcastAt_same nowMs earlier
        exact tracked.offered serviceId earlier found (same.2.1.symm.trans offered)
      · intro withdrawn serviceId entry here offered
        obtain ⟨earlier, found, rfl⟩ := old serviceId entry here
        obtain ⟨id, state, major, minor, -, -⟩ := ProviderEntry.broadcastAt_same nowMs earlier
        obtain ⟨service, registered, versions⟩ :=
          tracked.registered withdrawn serviceId earlier found (state.symm.trans offered)
        refine ⟨service, ?_, ?_, ?_⟩
        · rw [id]
          exact registered
        · exact versions.1.trans major.symm
        · exact versions.2.trans minor.symm
  | _ => exact tracked.of_same ⟨rfl, rfl, rfl⟩ (List.nil_append _).symm (fun _ => rfl) rfl

theorem step (tracked : OffersTracked before) {kind : StepKind}
    (step : Atomic env kind before after) : OffersTracked after := by
  by_cases calls : kind = .perform
  · subst calls
    cases step with
    | perform isLocal => exact tracked.perform isLocal
  · by_cases writes : kind = .sdWrite
    · subst writes
      cases step with
      | sdWrite write => exact tracked.sdWrite write
    · obtain ⟨events, history, kinds⟩ := step.observes
      have noCalls : ∀ event ∈ events, event.kind ≠ .perform :=
        Event.kind_ne kinds calls (by simp)
      obtain ⟨offers, diag⟩ := @isOffered_append _ _ events before.history noCalls
      exact tracked.of_same (step.registry calls writes) history offers diag

end OffersTracked

theorem Steps.offersTracked {clientId : UInt16} {w : World cfg}
    (steps : Steps env (World.initial cfg clientId) w) : OffersTracked w := by
  induction steps with
  | refl => exact .initial clientId
  | tail _ step ih =>
      obtain ⟨kind, step⟩ := step
      exact ih.step step

/-! ## What is advertised -/

/-- The message offers a service that is registered, in its registered version. -/
def Truthful (dispatcher : MethodDispatcher cfg) (message : SdMessage n) : Prop :=
  ∃ service ttlSeconds sessionId localAddr,
    dispatcher.find service.serviceId = some service ∧
      message = .offer service.serviceId service.majorVersion service.minorVersion ttlSeconds
        sessionId localAddr

/-- Every offer made is registered, and so is what the next broadcast and the reply to
any search announce. -/
structure Advertised (w : World cfg) : Prop where
  entries : ∀ entry ∈ w.rt.sd.providers, entry.state = .offered →
    Registered w.rt.dispatcher entry
  broadcasts : ∀ nowMs, ∀ message ∈ (w.rt.sd.processOffers nowMs).1,
    Truthful w.rt.dispatcher message
  findReplies : ∀ serviceId, ∀ message ∈ w.rt.sd.handleFind serviceId,
    Truthful w.rt.dispatcher message

theorem Registered.truthful {dispatcher : MethodDispatcher cfg} {entry : ProviderEntry}
    (registered : Registered dispatcher entry) (localAddr : Address n) :
    Truthful dispatcher (ProviderEntry.offerMessage entry localAddr) := by
  obtain ⟨service, found, major, minor⟩ := registered
  have same := MethodDispatcher.find_serviceId found
  refine ⟨service, entry.ttlSeconds, entry.sessionId, localAddr, ?_, ?_⟩
  · rw [same]
    exact found
  · rw [ProviderEntry.offerMessage, same, major, minor]

/-- In a run in which no service is unregistered while it is offered, every advertised
service is registered, at any time. -/
theorem advertised_registered {clientId : UInt16} {w : World cfg}
    (steps : Steps env (World.initial cfg clientId) w)
    (withdrawn : UnregistersWithdrawn w.history) : Advertised w := by
  have tracked := steps.offersTracked
  have entries : ∀ entry ∈ w.rt.sd.providers, entry.state = .offered →
      Registered w.rt.dispatcher entry := by
    intro entry member offered
    have found : w.rt.sd.findProvider entry.serviceId = some entry :=
      Table.Distinct.lookup_of_mem tracked.distinct member
    exact tracked.registered withdrawn _ entry found offered
  constructor
  · exact entries
  · intro nowMs message member
    obtain ⟨entry, selected, rfl⟩ := List.mem_map.mp member
    obtain ⟨here, due⟩ := List.mem_filter.mp selected
    rw [ProviderEntry.shouldSend, Bool.and_eq_true, decide_eq_true_eq] at due
    exact (entries entry here due.1).truthful _
  · intro serviceId message member
    obtain ⟨entry, selected, rfl⟩ := List.mem_map.mp member
    obtain ⟨here, wanted⟩ := List.mem_filter.mp selected
    rw [Bool.and_eq_true, decide_eq_true_eq] at wanted
    exact (entries entry here wanted.1).truthful _

/-! A service that is offered, and one that is unregistered while it is offered. -/

def offerCalls : List (Move embeddedConfig) :=
  [.api (.registerService 0x1000 0 1 0 false), .api (.offerService 0x1000 5 0)]

theorem advertised_registered_offered :
    Advertised (World.run (.benign _) offerCalls (World.initial embeddedConfig 1)) := by
  apply advertised_registered (World.run_steps offerCalls _)
  intro serviceId past occurs
  have history : (World.run (.benign _) offerCalls (World.initial embeddedConfig 1)).history =
      [.returned (.offerService 0x1000 5 0) (.bool true),
        .returned (.registerService 0x1000 0 1 0 false) (.bool true)] := rfl
  rw [history] at occurs
  have member := occurs.subset (List.mem_cons_self ..)
  simp at member

theorem unregistered_service_is_advertised :
    let w := World.run (.benign _) (offerCalls ++ [.api (.unregisterService 0x1000)])
      (World.initial embeddedConfig 1)
    World.Reachable (.benign _) w ∧ w.rt.dispatcher.find 0x1000 = none ∧
      (w.rt.sd.processOffers 0).1 =
        [.offer 0x1000 1 0 5 (w.rt.sd.generateSessionId 0x1000 0) (Address.zero 8)] ∧
      ¬Advertised w := by
  intro w
  have unregistered : w.rt.dispatcher.find 0x1000 = none := by decide
  have offers : (w.rt.sd.processOffers 0).1 =
      [.offer 0x1000 1 0 5 (w.rt.sd.generateSessionId 0x1000 0) (Address.zero 8)] := by decide
  refine ⟨⟨1, _, rfl⟩, unregistered, offers, ?_⟩
  intro advertised
  obtain ⟨service, _, _, _, found, message⟩ :=
    advertised.broadcasts 0 _ (offers ▸ List.mem_singleton_self _)
  injection message with same
  rw [← same, unregistered] at found
  cases found

end Sero
