import Sero.Properties.AdvertisedServices
import Sero.Runtime.Deeds

/-!
# What is registered

The application registers services and event handlers by calls that can be refused.  Going
by the calls and what they returned, the table of services holds exactly the registrations
that have not been taken back, and a handler that is found is the one given in the last call
about its event.
-/

namespace Sero

open Library ServiceDiscovery

variable {n : Nat} {cfg : Config n} {env : Env cfg}

/-! ## Going by the calls -/

/-- The registration of a service that has not been taken back.  Only the first success of
`enable_diagnostics` registers the diagnostics service. -/
def registration (serviceId : UInt16) : History cfg → Option ServiceEntry
  | [] => none
  | .returned (.registerService registered context majorVersion minorVersion authRequired)
      (.bool true) :: past =>
      if registered = serviceId then
        some {
          serviceId, majorVersion, minorVersion, authRequired
          context := .application context }
      else registration serviceId past
  | .returned (.unregisterService removed) _ :: past =>
      if removed = serviceId then none else registration serviceId past
  | .returned (.enableDiagnostics _ authRequired) (.bool true) :: past =>
      if diagServiceId = serviceId ∧ diagnosticsEnabled past = false then
        some (OffersTracked.diagnosticsEntry authRequired)
      else registration serviceId past
  | _ :: past => registration serviceId past

/-- The handler given in the last call about an event, if that call was to subscribe. -/
def lastHandler (serviceId eventId : UInt16) : History cfg → Option Nat
  | [] => none
  | .returned (.subscribeEvent service event context _ _) _ :: past =>
      if service = serviceId ∧ event = eventId then some context
      else lastHandler serviceId eventId past
  | .returned (.unsubscribeEvent service event) _ :: past =>
      if service = serviceId ∧ event = eventId then none
      else lastHandler serviceId eventId past
  | _ :: past => lastHandler serviceId eventId past

/-- The calls that write services or handlers. -/
def ApiCall.registers : ApiCall cfg → Bool
  | .registerService .. | .unregisterService .. | .enableDiagnostics .. | .subscribeEvent ..
  | .unsubscribeEvent .. => true
  | _ => false

theorem registration_cons {event : Event cfg} {past : History cfg} (serviceId : UInt16)
    (other : ∀ call result, event = .returned call result → call.registers = false) :
    registration serviceId (event :: past) = registration serviceId past := by
  cases event with
  | returned call result =>
      have quiet := other call result rfl
      cases call with
      | registerService | unregisterService | enableDiagnostics => cases quiet
      | _ => rfl
  | _ => rfl

theorem lastHandler_cons {event : Event cfg} {past : History cfg} (serviceId eventId : UInt16)
    (other : ∀ call result, event = .returned call result → call.registers = false) :
    lastHandler serviceId eventId (event :: past) = lastHandler serviceId eventId past := by
  cases event with
  | returned call result =>
      have quiet := other call result rfl
      cases call with
      | subscribeEvent | unsubscribeEvent => cases quiet
      | _ => rfl
  | _ => rfl

/-- Only such calls count. -/
theorem registrations_append {events past : History cfg} (serviceId eventId : UInt16)
    (other : ∀ event ∈ events, ∀ call result, event = .returned call result →
      call.registers = false) :
    registration serviceId (events ++ past) = registration serviceId past ∧
      lastHandler serviceId eventId (events ++ past) = lastHandler serviceId eventId past := by
  induction events with
  | nil => exact ⟨rfl, rfl⟩
  | cons event rest ih =>
      obtain ⟨services, handlers⟩ := ih fun event member => other event (.tail _ member)
      have quiet := other event (.head _)
      exact ⟨(registration_cons serviceId quiet).trans services,
        (lastHandler_cons serviceId eventId quiet).trans handlers⟩

/-! ## The table of handlers -/

def EventHandlerEntry.key (entry : EventHandlerEntry) : UInt16 × UInt16 :=
  (entry.serviceId, entry.eventId)

/-- Every handler is active, and no event has two. -/
structure HandlersKeyed (handlers : List EventHandlerEntry) : Prop where
  active : ∀ entry ∈ handlers, entry.active = true
  distinct : Table.Distinct EventHandlerEntry.key handlers

namespace HandlersKeyed

variable {handlers : List EventHandlerEntry}

/-- Among active entries the loop test compares keys. -/
theorem handles_eq (keyed : HandlersKeyed handlers) (serviceId eventId : UInt16) :
    ∀ entry ∈ handlers, World.handlesEvent serviceId eventId entry =
      (entry.key == (serviceId, eventId)) := by
  intro entry member
  rw [World.handlesEvent, keyed.active entry member, Bool.true_and]
  rfl

theorem find_eq (keyed : HandlersKeyed handlers) (serviceId eventId : UInt16) :
    handlers.find? (World.handlesEvent serviceId eventId) =
      Table.lookup EventHandlerEntry.key (serviceId, eventId) handlers :=
  List.find?_congr (keyed.handles_eq serviceId eventId)

theorem swapRemove (keyed : HandlersKeyed handlers) (serviceId eventId : UInt16) :
    HandlersKeyed (Table.swapRemove (World.handlesEvent serviceId eventId) handlers) where
  active entry member := keyed.active entry (Table.mem_of_mem_swapRemove member)
  distinct := keyed.distinct.swapRemove _

/-- Removing the handler of an event leaves the other handlers. -/
theorem find_swapRemove (keyed : HandlersKeyed handlers) (serviceId eventId : UInt16)
    (wantedService wantedEvent : UInt16) :
    (Table.swapRemove (World.handlesEvent serviceId eventId) handlers).find?
        (World.handlesEvent wantedService wantedEvent) =
      if (wantedService, wantedEvent) = (serviceId, eventId) then none
      else handlers.find? (World.handlesEvent wantedService wantedEvent) := by
  rw [(keyed.swapRemove serviceId eventId).find_eq, keyed.find_eq,
    Table.swapRemove_congr (keyed.handles_eq serviceId eventId)]
  exact keyed.distinct.lookup_swapRemove _ _

variable {serviceId eventId : UInt16} {context capacity : Nat} {after : List EventHandlerEntry}

/-- A write by the loop test is one by the key. -/
theorem upsert_eq (keyed : HandlersKeyed handlers)
    (written : Table.upsert (World.handlesEvent serviceId eventId)
      (fun _ => { serviceId, eventId, context }) { serviceId, eventId, context } capacity
      handlers = some after) :
    Table.upsert (fun entry => EventHandlerEntry.key entry == (serviceId, eventId))
      (fun _ => { serviceId, eventId, context }) { serviceId, eventId, context } capacity
      handlers = some after := by
  rwa [Table.upsert_congr_test (keyed.handles_eq serviceId eventId)] at written

theorem upsert (keyed : HandlersKeyed handlers)
    (written : Table.upsert (World.handlesEvent serviceId eventId)
      (fun _ => { serviceId, eventId, context }) { serviceId, eventId, context } capacity
      handlers = some after) : HandlersKeyed after where
  active := by
    intro entry member
    rcases Table.mem_upsert written member with old | rfl
    · exact keyed.active entry old
    · rfl
  distinct := by
    have files : ∀ _ : EventHandlerEntry, EventHandlerEntry.key { serviceId, eventId, context } =
        (serviceId, eventId) := fun _ => rfl
    exact keyed.distinct.upsert files (keyed.upsert_eq written)

/-- Filing a handler leaves the other handlers. -/
theorem find_upsert (keyed : HandlersKeyed handlers)
    (written : Table.upsert (World.handlesEvent serviceId eventId)
      (fun _ => { serviceId, eventId, context }) { serviceId, eventId, context } capacity
      handlers = some after) (wantedService wantedEvent : UInt16) :
    after.find? (World.handlesEvent wantedService wantedEvent) =
      if (wantedService, wantedEvent) = (serviceId, eventId) then
        some { serviceId, eventId, context }
      else handlers.find? (World.handlesEvent wantedService wantedEvent) := by
  have files : ∀ _ : EventHandlerEntry, EventHandlerEntry.key { serviceId, eventId, context } =
      (serviceId, eventId) := fun _ => rfl
  rw [(keyed.upsert written).find_eq, keyed.find_eq]
  exact Table.lookup_upsert files (keyed.upsert_eq written) _

end HandlersKeyed

/-! ## What calls leave -/

/-- Services and handlers are written by calls of the application only. -/
theorem Deed.sameRegistrations {kind : StepKind} {before after : World cfg}
    (deed : Deed env kind before after) (notCall : kind ≠ .perform) :
    after.rt.dispatcher = before.rt.dispatcher ∧
      after.rt.eventHandlers = before.rt.eventHandlers := by
  cases writes : kind.writes with
  | false =>
      have same := deed.tables writes
      exact ⟨same.dispatcher, same.eventHandlers⟩
  | true =>
      cases deed with
      | perform => exact absurd rfl notCall
      | @subscribeRequest source _ hdr request _ _ _ nowMs =>
          have counted : SameTables _
              (before.handleSubscribeRequest env source hdr request nowMs) :=
            World.countRefusal_tables _ _
          exact ⟨counted.dispatcher, counted.eventHandlers⟩
      | broadcastOffers nowMs =>
          let decided : World cfg :=
            { before with rt := { before.rt with sd := (before.rt.sd.processOffers nowMs).2 } }
          have sent : SameTables decided (before.broadcastOffers env nowMs) :=
            .foldl (fun w message => World.sendSdBroadcast_tables message w) _ _
          exact ⟨sent.dispatcher, sent.eventHandlers⟩
      | renewSubscriptions nowMs =>
          have each : ∀ (w : World cfg) (send : Address n × SdMessage n),
              SameTables w (w.sendSdUnicast env send.1 send.2) :=
            fun w send => World.sendSdUnicast_tables send.1 send.2 w
          have sent : SameTables (before.markRenewals nowMs)
              (before.renewSubscriptions env nowMs) := by
            rw [World.renewSubscriptions]
            exact .foldl each _ _
          exact ⟨sent.dispatcher, sent.eventHandlers⟩
      | drop | storeDtcs | fillResponse | validate | enterHandler | reply | finish | callback
      | submit | returned | fireAndForget | notifyEvent | resetPeer | answerFind | startCycle
      | sendFind => cases writes
      | _ => exact ⟨rfl, rfl⟩

/-- Other calls leave both tables alone. -/
theorem World.apiCall_registrations {call : ApiCall cfg} (isLocal : call.isLocal = true)
    (other : call.registers = false) (w : World cfg) :
    (w.apiCall env id call).2.rt.dispatcher = w.rt.dispatcher ∧
      (w.apiCall env id call).2.rt.eventHandlers = w.rt.eventHandlers := by
  cases call with
  | request | fireAndForget | notifyEvent => cases isLocal
  | registerService | unregisterService | enableDiagnostics | subscribeEvent
  | unsubscribeEvent => cases other
  | offerService serviceId ttlSeconds nowMs =>
      obtain ⟨sd, written, -⟩ := w.offerService_rt serviceId ttlSeconds nowMs
      change (w.offerService serviceId ttlSeconds nowMs).2.rt.dispatcher = _ ∧
        (w.offerService serviceId ttlSeconds nowMs).2.rt.eventHandlers = _
      rw [written]
      exact ⟨rfl, rfl⟩
  | reportDtc code severity nowMs =>
      change (w.reportDtc code severity nowMs).2.rt.dispatcher = _ ∧
        (w.reportDtc code severity nowMs).2.rt.eventHandlers = _
      rw [reportDtc]
      split
      · exact ⟨rfl, rfl⟩
      · have counted := @countRefusal_tables _ cfg (w.rt.dtcStore.report code severity nowMs).1
          { w with rt := { w.rt with
            dtcStore := (w.rt.dtcStore.report code severity nowMs).2 } }
        exact ⟨counted.dispatcher, counted.eventHandlers⟩
  | _ => exact ⟨rfl, rfl⟩

theorem OffersTracked.steps {before after : World cfg} (tracked : OffersTracked before)
    (steps : Steps env before after) : OffersTracked after := by
  induction steps with
  | refl => exact tracked
  | tail _ step ih =>
      obtain ⟨kind, step⟩ := step
      exact ih.step step

/-- The tables hold what the calls say. -/
structure RegistrationsTracked (w : World cfg) : Prop where
  offers : OffersTracked w
  keyed : HandlersKeyed w.rt.eventHandlers
  services : ∀ serviceId, w.rt.dispatcher.find serviceId = registration serviceId w.history
  handlers : ∀ serviceId eventId entry, w.findEventHandler serviceId eventId = some entry →
    lastHandler serviceId eventId w.history = some entry.context

namespace RegistrationsTracked

theorem initial (clientId : UInt16) : RegistrationsTracked (World.initial cfg clientId) where
  offers := OffersTracked.initial clientId
  keyed := ⟨by simp [World.initial], List.nodup_nil⟩
  services _ := rfl
  handlers _ _ _ found := by cases found

variable {before after : World cfg}

/-- Steps that leave the tables alone and are no calls that write them. -/
theorem of_same (tracked : RegistrationsTracked before) (offers : OffersTracked after)
    (dispatcher : after.rt.dispatcher = before.rt.dispatcher)
    (eventHandlers : after.rt.eventHandlers = before.rt.eventHandlers) {events : History cfg}
    (history : after.history = events ++ before.history)
    (other : ∀ event ∈ events, ∀ call result, event = .returned call result →
      call.registers = false) : RegistrationsTracked after where
  offers
  keyed := eventHandlers.symm ▸ tracked.keyed
  services := by
    intro serviceId
    rw [dispatcher, history, (registrations_append serviceId 0 other).1]
    exact tracked.services serviceId
  handlers := by
    intro serviceId eventId entry found
    rw [World.findEventHandler, eventHandlers] at found
    rw [history, (registrations_append serviceId eventId other).2]
    exact tracked.handlers serviceId eventId entry found

/-- A call that writes services only. -/
theorem of_services {call : ApiCall cfg} (tracked : RegistrationsTracked before)
    (isLocal : call.isLocal = true)
    (eventHandlers : (before.apiCall env id call).2.rt.eventHandlers = before.rt.eventHandlers)
    (history : (before.apiCall env id call).2.history = before.history)
    (services : ∀ serviceId, (before.apiCall env id call).2.rt.dispatcher.find serviceId =
      registration serviceId (.returned call (before.apiCall env id call).1 :: before.history))
    (handlers : ∀ serviceId eventId result,
      lastHandler serviceId eventId (.returned call result :: before.history) =
        lastHandler serviceId eventId before.history) :
    RegistrationsTracked (before.perform env id call) where
  offers := tracked.offers.perform isLocal
  keyed := eventHandlers.symm ▸ tracked.keyed
  services := by
    rw [World.perform, World.emit_history, history]
    exact services
  handlers := by
    intro serviceId eventId entry found
    rw [World.perform, World.findEventHandler, World.emit_rt, eventHandlers] at found
    rw [World.perform, World.emit_history, history, handlers]
    exact tracked.handlers serviceId eventId entry found

theorem registerService (tracked : RegistrationsTracked before) (serviceId : UInt16)
    (context : Nat) (majorVersion minorVersion : UInt8) (authRequired : Bool) :
    RegistrationsTracked (before.perform env id
      (.registerService serviceId context majorVersion minorVersion authRequired)) := by
  let service : ServiceEntry := {
    serviceId, majorVersion, minorVersion, authRequired
    context := .application context }
  refine tracked.of_services rfl rfl rfl ?_ (fun _ _ _ => rfl)
  intro wanted
  have found := MethodDispatcher.find_registerService before.rt.dispatcher
    (rfl : service.active = true) wanted
  refine found.trans ?_
  rw [tracked.services wanted]
  cases registered : (before.rt.dispatcher.registerService service).1 with
  | false =>
      rw [if_neg (by simp), Option.or_none]
      have refused : (before.apiCall env id
          (.registerService serviceId context majorVersion minorVersion authRequired)).1 =
            .bool false := congrArg ApiResult.bool registered
      rw [refused]
      rfl
  | true =>
      have free := MethodDispatcher.find_of_registered registered
      have accepted : (before.apiCall env id
          (.registerService serviceId context majorVersion minorVersion authRequired)).1 =
            .bool true := congrArg ApiResult.bool registered
      rw [accepted, registration]
      by_cases same : serviceId = wanted
      · subst same
        rw [← tracked.services serviceId]
        have unknown : before.rt.dispatcher.find serviceId = none := free
        rw [unknown, if_pos ⟨rfl, rfl⟩, if_pos rfl]
        rfl
      · rw [if_neg fun both => same both.2.symm, if_neg same, Option.or_none]

theorem unregisterService (tracked : RegistrationsTracked before) (removed : UInt16) :
    RegistrationsTracked (before.perform env id (.unregisterService removed)) := by
  refine tracked.of_services rfl rfl rfl ?_ (fun _ _ _ => rfl)
  intro wanted
  have found := tracked.offers.keyed.find_unregisterService removed wanted
  refine found.trans ?_
  rw [registration, tracked.services wanted]
  by_cases same : wanted = removed
  · rw [if_pos same, if_pos same.symm]
  · rw [if_neg same, if_neg (Ne.symm same)]

/-- Enabling diagnostics registers their service, the first time it succeeds. -/
theorem enableDiagnostics (tracked : RegistrationsTracked before) (nowMs : UInt32)
    (authRequired : Bool) :
    RegistrationsTracked (before.perform env id (.enableDiagnostics nowMs authRequired)) := by
  obtain ⟨_, _, _, _, written, -⟩ := before.enableDiagnostics_rt nowMs authRequired
  have eventHandlers : (before.enableDiagnostics nowMs authRequired).2.rt.eventHandlers =
      before.rt.eventHandlers := by
    rw [written]
  have history : (before.enableDiagnostics nowMs authRequired).2.history = before.history := by
    rw [written]
  refine tracked.of_services rfl eventHandlers history ?_ (fun _ _ _ => rfl)
  intro wanted
  change (before.enableDiagnostics nowMs authRequired).2.rt.dispatcher.find wanted = registration
    wanted (.returned _ (.bool (before.enableDiagnostics nowMs authRequired).1) :: before.history)
  have unchanged := tracked.services wanted
  cases diag : before.rt.diagEnabled with
  | true =>
      have enabled := tracked.offers.diag.symm.trans diag
      rw [World.enableDiagnostics, if_pos diag, registration, if_neg (by simp [enabled])]
      exact unchanged
  | false =>
      have disabled := tracked.offers.diag.symm.trans diag
      rw [OffersTracked.enableDiagnostics_disabled diag]
      cases registered : (before.rt.dispatcher.registerService
          (OffersTracked.diagnosticsEntry authRequired)).1 with
      | false =>
          rw [if_neg (by simp), OffersTracked.registerDiagnostics,
            MethodDispatcher.registerService_refused registered]
          exact unchanged
      | true =>
          have free : before.rt.dispatcher.find diagServiceId = none :=
            MethodDispatcher.find_of_registered registered
          have found : ∀ serviceId,
              (OffersTracked.registerDiagnostics authRequired before).rt.dispatcher.find serviceId =
                if diagServiceId = serviceId then
                  some (OffersTracked.diagnosticsEntry authRequired)
                else before.rt.dispatcher.find serviceId := by
            intro serviceId
            refine (MethodDispatcher.find_registerService before.rt.dispatcher
              (rfl : (OffersTracked.diagnosticsEntry authRequired).active = true) _).trans ?_
            rw [registered]
            by_cases same : diagServiceId = serviceId
            · subst same
              rw [free, if_pos ⟨rfl, rfl⟩, if_pos rfl]
              rfl
            · rw [if_neg fun both => same both.2.symm, if_neg same, Option.or_none]
          rw [if_pos rfl]
          simp only [World.offerService, (found diagServiceId).trans (if_pos rfl)]
          cases offered : ((OffersTracked.registerDiagnostics authRequired before).rt.sd.offer
              diagServiceId (OffersTracked.diagnosticsEntry authRequired).majorVersion
              (OffersTracked.diagnosticsEntry authRequired).minorVersion cfg.offerTtlSeconds
              nowMs).1 with
          | true =>
              refine (found wanted).trans ?_
              rw [registration, unchanged]
              simp only [disabled, and_true]
          | false =>
              -- the registration is rolled back
              have restored : ((OffersTracked.registerDiagnostics authRequired
                  before).rt.dispatcher.unregisterService diagServiceId).2 =
                    before.rt.dispatcher :=
                congrArg Prod.snd
                  (MethodDispatcher.unregisterService_registerService rfl registered)
              simp only [World.unregisterService, restored]
              exact unchanged

/-- A call that writes handlers only. -/
theorem of_handlers {call : ApiCall cfg} (tracked : RegistrationsTracked before)
    (isLocal : call.isLocal = true)
    (dispatcher : (before.apiCall env id call).2.rt.dispatcher = before.rt.dispatcher)
    (history : (before.apiCall env id call).2.history = before.history)
    (services : ∀ serviceId result,
      registration serviceId (.returned call result :: before.history) =
        registration serviceId before.history)
    (keyed : HandlersKeyed (before.apiCall env id call).2.rt.eventHandlers)
    (handlers : ∀ serviceId eventId entry result,
      (before.apiCall env id call).2.findEventHandler serviceId eventId = some entry →
        lastHandler serviceId eventId (.returned call result :: before.history) =
          some entry.context) :
    RegistrationsTracked (before.perform env id call) where
  offers := tracked.offers.perform isLocal
  keyed := keyed
  services := by
    intro serviceId
    rw [World.perform, World.emit_history, World.emit_rt, history, dispatcher, services]
    exact tracked.services serviceId
  handlers := by
    intro serviceId eventId entry found
    rw [World.perform, World.emit_history, history]
    exact handlers serviceId eventId entry _ found

theorem subscribeEvent (tracked : RegistrationsTracked before)
    (serviceId eventId : UInt16) (context : Nat) (ttlSeconds : UInt16) (nowMs : UInt32) :
    RegistrationsTracked (before.perform env id
      (.subscribeEvent serviceId eventId context ttlSeconds nowMs)) := by
  have outcome : ∀ after, before.subscribeEvent serviceId eventId context ttlSeconds nowMs = after →
      after.2.rt.dispatcher = before.rt.dispatcher ∧ after.2.history = before.history ∧
      HandlersKeyed after.2.rt.eventHandlers ∧
      ∀ wantedService wantedEvent entry,
        after.2.findEventHandler wantedService wantedEvent = some entry →
        if serviceId = wantedService ∧ eventId = wantedEvent then entry.context = context
        else before.findEventHandler wantedService wantedEvent = some entry := by
    rintro after rfl
    rw [World.subscribeEvent, World.registerEventHandler]
    cases written : Table.upsert (World.handlesEvent serviceId eventId)
        (fun _ => { serviceId, eventId, context }) { serviceId, eventId, context }
        (cfg.maxKnownServices * cfg.maxEvents) before.rt.eventHandlers with
    | none =>
        refine ⟨rfl, rfl, tracked.keyed, ?_⟩
        intro wantedService wantedEvent entry found
        split
        · next same =>
            -- a handler that is there is overwritten, whatever the table holds
            obtain ⟨rfl, rfl⟩ := same
            rw [Table.upsert_congr_test (tracked.keyed.handles_eq serviceId eventId)] at written
            have absent := (Table.upsert_eq_none_iff.mp written).1
            have known := (tracked.keyed.find_eq serviceId eventId).symm.trans found
            cases absent.symm.trans known
        · exact found
    | some eventHandlers =>
        refine ⟨rfl, rfl, tracked.keyed.upsert written, ?_⟩
        intro wantedService wantedEvent entry found
        have filed := tracked.keyed.find_upsert written wantedService wantedEvent
        have either := filed.symm.trans found
        split
        · next same =>
            obtain ⟨rfl, rfl⟩ := same
            rw [if_pos rfl] at either
            cases either
            rfl
        · next other =>
            rw [if_neg fun same => other ⟨(Prod.mk.inj same).1.symm, (Prod.mk.inj same).2.symm⟩]
              at either
            exact either
  obtain ⟨dispatcher, history, keyed, handlers⟩ := outcome _ rfl
  refine tracked.of_handlers rfl dispatcher history (fun _ _ => rfl) keyed ?_
  intro wantedService wantedEvent entry result found
  have either := handlers wantedService wantedEvent entry found
  rw [lastHandler]
  split
  · next same =>
      rw [if_pos same] at either
      rw [either]
  · next other =>
      rw [if_neg other] at either
      exact tracked.handlers wantedService wantedEvent entry either

theorem unsubscribeEvent (tracked : RegistrationsTracked before) (serviceId eventId : UInt16) :
    RegistrationsTracked (before.perform env id (.unsubscribeEvent serviceId eventId)) := by
  refine tracked.of_handlers rfl rfl rfl (fun _ _ => rfl) (tracked.keyed.swapRemove _ _) ?_
  intro wantedService wantedEvent entry result found
  have either := (tracked.keyed.find_swapRemove serviceId eventId wantedService
    wantedEvent).symm.trans found
  rw [lastHandler]
  split at either
  · cases either
  · next other =>
      rw [if_neg fun same => other (by rw [same.1, same.2])]
      exact tracked.handlers wantedService wantedEvent entry either

theorem perform (tracked : RegistrationsTracked before) {call : ApiCall cfg}
    (isLocal : call.isLocal = true) : RegistrationsTracked (before.perform env id call) := by
  cases registers : call.registers with
  | false =>
      obtain ⟨dispatcher, eventHandlers⟩ :=
        @World.apiCall_registrations _ _ env _ isLocal registers before
      obtain ⟨events, history, kinds⟩ :=
        (@World.apiCall_same _ _ env id call isLocal before).history
      have grown : (before.perform env id call).history =
          (.returned call (before.apiCall env id call).1 :: events) ++ before.history := by
        rw [World.perform, World.emit_history, history, List.cons_append]
      refine tracked.of_same (tracked.offers.perform isLocal) dispatcher eventHandlers grown ?_
      intro event member other result same
      rcases List.mem_cons.mp member with rfl | earlier
      · cases same
        exact registers
      · subst same
        rcases kinds _ earlier with quiet | quiet <;> cases other <;> cases quiet
  | true =>
      cases call with
      | registerService serviceId context majorVersion minorVersion authRequired =>
          exact tracked.registerService serviceId context majorVersion minorVersion authRequired
      | unregisterService serviceId => exact tracked.unregisterService serviceId
      | enableDiagnostics nowMs authRequired => exact tracked.enableDiagnostics nowMs authRequired
      | subscribeEvent serviceId eventId context ttlSeconds nowMs =>
          exact tracked.subscribeEvent serviceId eventId context ttlSeconds nowMs
      | unsubscribeEvent serviceId eventId => exact tracked.unsubscribeEvent serviceId eventId
      | _ => cases registers

theorem deed {kind : StepKind} (tracked : RegistrationsTracked before)
    (deed : Deed env kind before after) : RegistrationsTracked after := by
  by_cases calls : kind = .perform
  · subst calls
    cases deed with
    | perform isLocal => exact tracked.perform isLocal
  · obtain ⟨dispatcher, eventHandlers⟩ := deed.sameRegistrations calls
    obtain ⟨events, history, kinds⟩ := deed.observes
    refine tracked.of_same (tracked.offers.steps deed.steps) dispatcher eventHandlers history ?_
    intro event member call result same
    subst same
    rcases kinds _ member with own | quiet | ⟨-, returned⟩
    · cases call <;> first | rfl | exact absurd own.symm calls
    · cases call <;> cases quiet
    · cases call <;> first | rfl | cases returned

end RegistrationsTracked

/-- In every run the tables of services and handlers hold what the calls say. -/
theorem World.Reachable.registrationsTracked {w : World cfg}
    (reachable : World.Reachable env w) : RegistrationsTracked w :=
  reachable.deedsInvariant RegistrationsTracked.initial fun _ _ _ tracked deed => tracked.deed deed

/-- A service is found if and only if the calls have registered it and not taken it back, as
it was registered, and an event goes to no handler but the one given last. -/
theorem World.registrations_current {w : World cfg} (reachable : World.Reachable env w) :
    (∀ serviceId, w.rt.dispatcher.find serviceId = registration serviceId w.history) ∧
    ∀ serviceId eventId entry, w.findEventHandler serviceId eventId = some entry →
      lastHandler serviceId eventId w.history = some entry.context := by
  have tracked := reachable.registrationsTracked
  exact ⟨tracked.services, tracked.handlers⟩

/-- A device that has registered a service twice, the first time not for long. -/
def reregisteredDevice : World embeddedConfig :=
  .run (.benign _)
    [.api (.registerService 0x1000 4 1 0 false), .api (.unregisterService 0x1000),
      .api (.registerService 0x1000 5 2 0 false)]
    (World.initial _ 1)

theorem World.registrations_current_again :
    registration 0x1000 reregisteredDevice.history = some {
      serviceId := 0x1000
      majorVersion := 2
      minorVersion := 0
      context := .application 5 } :=
  ((World.registrations_current ⟨1, _, rfl⟩).1 0x1000).symm.trans (by decide +kernel)

end Sero
