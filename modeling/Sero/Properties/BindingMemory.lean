import Sero.Node.Binding
import Sero.Properties.CallbackOrigins
import Sero.Properties.Replay
import Sero.Properties.RequestReturns

/-!
# Memory of the Node binding

The objects whose pointers the runtime holds exist as long as it may use them, and each is
deleted once, but for the two kinds of calls that leave a pointer behind when they fail: a
subscription that is refused after its handler has been filed, and a request whose frame the
transport refuses.
-/

namespace Sero.Node

open Library

variable {n : Nat} {cfg : Config n} {env : Env cfg}

/-! ## What the binding passes on -/

/-- The service wrappers handed to the runtime, newest first. -/
def serviceContexts (history : History cfg) : List Nat :=
  history.filterMap fun
    | .returned (.registerService _ context ..) _ => some context
    | _ => none

/-- The event handlers handed to the runtime, newest first. -/
def handlerContexts (history : History cfg) : List Nat :=
  history.filterMap fun
    | .returned (.subscribeEvent _ _ context ..) _ => some context
    | _ => none

/-- The binding passes a callback with every request. -/
def passesCallback : Event cfg → Bool
  | .issued _ _ _ _ _ _ hasCallback => hasCallback
  | .returned (.request _ _ _ _ hasCallback _ _) _ => hasCallback
  | _ => true

/-- Every call that hands over an object has created it, and every request has a callback. -/
structure MadeByBinding (history : History cfg) : Prop where
  services : (serviceContexts history).Nodup
  handlers : (handlerContexts history).Nodup
  callbacks : ∀ event ∈ history, passesCallback event = true

namespace MadeByBinding

variable {history past : History cfg} {event : Event cfg}

theorem suffix (made : MadeByBinding history) (earlier : past <:+ history) :
    MadeByBinding past where
  services := made.services.sublist (earlier.sublist.filterMap _)
  handlers := made.handlers.sublist (earlier.sublist.filterMap _)
  callbacks event member := made.callbacks event (earlier.subset member)

/-- A service wrapper is handed over once. -/
theorem new_service {serviceId : UInt16} {context : Nat} {major minor : UInt8} {auth : Bool}
    {result : ApiResult}
    (made : MadeByBinding
      (.returned (.registerService serviceId context major minor auth) result :: past)) :
    context ∉ serviceContexts past :=
  (List.nodup_cons.mp made.services).1

/-- An event handler is handed over once. -/
theorem new_handler {serviceId eventId : UInt16} {context : Nat} {ttlSeconds : UInt16}
    {nowMs : UInt32} {result : ApiResult}
    (made : MadeByBinding
      (.returned (.subscribeEvent serviceId eventId context ttlSeconds nowMs) result :: past)) :
    context ∉ handlerContexts past :=
  (List.nodup_cons.mp made.handlers).1

end MadeByBinding

/-- A request leaves the wrappers alone. -/
theorem Binding.after_request (target : Option (Address n)) (serviceId methodId : UInt16)
    (payload : Payload) (hasCallback : Bool) (timeoutMs nowMs : UInt32) (result : ApiResult)
    (past : History cfg) :
    let call : ApiCall cfg :=
      .request target serviceId methodId payload hasCallback timeoutMs nowMs
    (after (.returned call result :: past)).services = (after past).services ∧
      (after (.returned call result :: past)).eventHandlers = (after past).eventHandlers := by
  intro call
  cases result with
  | request handle requestId =>
      cases requestId with
      | none =>
          simp only [call, after]
          split <;> exact ⟨rfl, rfl⟩
      | some requestId => exact ⟨rfl, rfl⟩
  | _ => exact ⟨rfl, rfl⟩

/-! ## Service wrappers -/

theorem Binding.wrapperOf_eq_some {past : History cfg} {serviceId : UInt16} {context : Nat}
    (wrapped : wrapperOf past serviceId = some context) :
    ∃ entry, registration serviceId past = some entry ∧ entry.context = .application context := by
  rw [wrapperOf] at wrapped
  cases found : registration serviceId past with
  | none =>
      rw [found] at wrapped
      cases wrapped
  | some entry =>
      refine ⟨entry, rfl, ?_⟩
      rw [found, Option.map_some] at wrapped
      cases held : entry.context with
      | diagnostics =>
          rw [held] at wrapped
          cases wrapped
      | application other =>
          rw [held] at wrapped
          exact congrArg ServiceContext.application (Option.some.inj wrapped)

/-- Only wrappers of services in the runtime's table are asked. -/
theorem Binding.asked_registered {past : History cfg} {event : Event cfg} {context : Nat}
    (asks : context ∈ asked past event) :
    ∃ serviceId entry, registration serviceId past = some entry ∧
      entry.context = .application context := by
  have of_wrapper {serviceId : UInt16} (wrapped : wrapperOf past serviceId = some context) :
      ∃ serviceId entry, registration serviceId past = some entry ∧
        entry.context = .application context :=
    ⟨serviceId, wrapperOf_eq_some wrapped⟩
  cases event with
  | dispatched source data =>
      rw [asked] at asks
      split at asks
      · cases asks
      · split at asks
        · exact of_wrapper (Option.mem_toList.mp asks)
        · cases asks
  | onRequest entry keys methodId payload capacity =>
      rw [asked] at asks
      split at asks
      · cases asks
      · split at asks
        · obtain ⟨serviceId, -, wrapped⟩ := List.mem_filterMap.mp asks
          exact of_wrapper wrapped
        · cases asks
  | _ => cases asks

/-- The wrappers that exist are those of the registrations that stand. -/
structure ServicesOwned (past : History cfg) : Prop where
  sound : (Binding.after past).services.Sound
  known : ∀ context ∈ (Binding.after past).services.heap.live, context ∈ serviceContexts past
  held : ∀ serviceId entry context, registration serviceId past = some entry →
    entry.context = .application context →
    (Binding.after past).services.find serviceId = some context
  unharmed : (Binding.after past).services.heap.misused = []

namespace ServicesOwned

variable {past : History cfg}

theorem nil : ServicesOwned ([] : History cfg) where
  sound := .empty
  known _ live := by simp [Binding.after] at live
  held _ _ _ found := by cases found
  unharmed := rfl

/-- Events that neither write nor use the wrappers. -/
theorem skip (owned : ServicesOwned past) {event : Event cfg}
    (services : (Binding.after (event :: past)).services = (Binding.after past).services)
    (contexts : serviceContexts (event :: past) = serviceContexts past)
    (registered : ∀ serviceId entry context,
      registration serviceId (event :: past) = some entry →
      entry.context = .application context → registration serviceId past = some entry) :
    ServicesOwned (event :: past) where
  sound := services ▸ owned.sound
  known context live := by
    rw [services] at live
    rw [contexts]
    exact owned.known context live
  held serviceId entry context found application := by
    rw [services]
    exact owned.held _ _ _ (registered _ _ _ found application) application
  unharmed := services ▸ owned.unharmed

theorem registerService (owned : ServicesOwned past) {serviceId : UInt16} {context : Nat}
    {major minor : UInt8} {auth : Bool} (result : ApiResult)
    (new : context ∉ serviceContexts past) :
    ServicesOwned
      (.returned (.registerService serviceId context major minor auth) result :: past) := by
  have fresh : context ∉ (Binding.after past).services.heap.live :=
    fun live => new (owned.known context live)
  have wrapped : (Binding.after (.returned
      (.registerService serviceId context major minor auth) result :: past)).services =
        (Binding.after past).services.install serviceId context (result = .bool true) := rfl
  constructor
  · exact wrapped ▸ owned.sound.install fresh serviceId _
  · intro other live
    rw [wrapped] at live
    rcases OwnerMap.mem_live_install live with rfl | earlier
    · exact .head _
    · exact .tail _ (owned.known other earlier)
  · intro wanted entry other found application
    rw [wrapped]
    by_cases accepted : result = .bool true
    · subst accepted
      rw [registration] at found
      by_cases same : serviceId = wanted
      · rw [if_pos same] at found
        cases found
        cases application
        rw [same]
        exact OwnerMap.find_install_self wanted context _
      · rw [if_neg same] at found
        rw [OwnerMap.find_install_of_ne (Ne.symm same)]
        exact owned.held _ _ _ found application
    · have unchanged : registration wanted (.returned
          (.registerService serviceId context major minor auth) result :: past) =
            registration wanted past := by
        cases result with
        | bool ok =>
            cases ok with
            | true => exact absurd rfl accepted
            | false => rfl
        | _ => rfl
      rw [unchanged] at found
      rw [decide_eq_false accepted]
      exact owned.held _ _ _ found application
  · rw [wrapped, owned.sound.misused_install, owned.unharmed]

theorem unregisterService (owned : ServicesOwned past) (removed : UInt16) (result : ApiResult) :
    ServicesOwned (.returned (.unregisterService removed) result :: past) where
  sound := owned.sound.erase removed
  known context live := owned.known context (OwnerMap.live_erase.mp live).1
  held wanted entry context found application := by
    rw [registration] at found
    by_cases same : removed = wanted
    · rw [if_pos same] at found
      cases found
    · rw [if_neg same] at found
      exact (OwnerMap.find_erase_of_ne (Ne.symm same)).trans (owned.held _ _ _ found application)
  unharmed := (owned.sound.misused_erase removed).trans owned.unharmed

/-- Wrappers that are asked exist. -/
theorem isReady (owned : ServicesOwned past) (event : Event cfg) :
    ((Binding.after past).isReady (Binding.asked past event)).services =
      (Binding.after past).services := by
  have existing (contexts : List Nat)
      (live : ∀ context ∈ contexts, context ∈ (Binding.after past).services.heap.live) :
      contexts.foldl (fun services context => services.use context) (Binding.after past).services =
        (Binding.after past).services := by
    induction contexts with
    | nil => rfl
    | cons context rest ih =>
        rw [List.foldl_cons, OwnerMap.use_of_live (live context (.head _))]
        exact ih fun other member => live other (.tail _ member)
  apply existing
  intro context asks
  obtain ⟨serviceId, entry, found, wrapped⟩ := Binding.asked_registered asks
  exact owned.sound.find_live (owned.held _ _ _ found wrapped)

/-- A handler is entered through a wrapper that exists. -/
theorem onRequest (owned : ServicesOwned past) {entry : ServiceEntry}
    {keys : MessageAuthenticator cfg} {methodId : UInt16} {payload : Bytes} {capacity : Option Nat}
    (registered : registration entry.serviceId past = some entry) :
    ServicesOwned (.onRequest entry keys methodId payload capacity :: past) := by
  refine owned.skip ?_ rfl (fun _ _ _ found _ => found)
  have ready := owned.isReady (.onRequest entry keys methodId payload capacity)
  rw [Binding.after]
  cases wrapped : entry.context with
  | diagnostics => exact ready
  | application context =>
      have live := owned.sound.find_live (owned.held _ _ _ registered wrapped)
      exact (congrArg (OwnerMap.use context) ready).trans (OwnerMap.use_of_live live)

end ServicesOwned

/-- In every run, the wrappers are owned at every moment. -/
theorem servicesOwned {w : World cfg} (reachable : World.Reachable env w)
    (made : MadeByBinding w.history) {past : History cfg} (earlier : past <:+ w.history) :
    ServicesOwned past := by
  have caused := reachable.callsCaused.caused
  induction past with
  | nil => exact .nil
  | cons event past ih =>
      have owned := ih ((List.suffix_cons event past).trans earlier)
      have mine := made.suffix earlier
      cases event with
      | onRequest entry keys methodId payload capacity =>
          exact owned.onRequest (caused _ _ earlier).2
      | dispatched source data =>
          exact owned.skip (owned.isReady (.dispatched source data)) rfl
            (fun _ _ _ found _ => found)
      | returned call result =>
          cases call with
          | registerService => exact owned.registerService result mine.new_service
          | unregisterService removed => exact owned.unregisterService removed result
          | enableDiagnostics nowMs authRequired =>
              refine owned.skip rfl rfl fun serviceId entry context found application => ?_
              by_cases accepted : result = .bool true
              · subst accepted
                rw [registration] at found
                split at found
                · cases found
                  cases application
                · exact found
              · cases result with
                | bool ok =>
                    cases ok with
                    | true => exact absurd rfl accepted
                    | false => exact found
                | _ => exact found
          | request =>
              exact owned.skip (Binding.after_request _ _ _ _ _ _ _ _ _).1 rfl
                (fun _ _ _ found _ => found)
          | _ => exact owned.skip rfl rfl (fun _ _ _ found _ => found)
      | callback callback =>
          refine owned.skip ?_ rfl (fun _ _ _ found _ => found)
          cases callback <;> rfl
      | _ => exact owned.skip rfl rfl (fun _ _ _ found _ => found)

/-- The wrapper of every service in the runtime's table exists, and no wrapper is ever used or
deleted when it does not.  Destroying the binding deletes those that are left. -/
theorem service_wrappers_owned {w : World cfg} (reachable : World.Reachable env w)
    (made : MadeByBinding w.history) :
    let services := (Binding.after w.history).services
    let closed := (Binding.after w.history).destroy.services
    (∀ entry ∈ w.rt.dispatcher.services, ∀ context, entry.context = .application context →
      context ∈ services.heap.live ∧ services.find entry.serviceId = some context) ∧
    services.heap.misused = [] ∧ closed.heap.live = ∅ ∧ closed.heap.misused = [] := by
  have owned := servicesOwned reachable made (List.suffix_refl _)
  have tracked := reachable.registrationsTracked
  obtain ⟨gone, unharmed⟩ := owned.sound.clear
  refine ⟨?_, owned.unharmed, gone, unharmed.trans owned.unharmed⟩
  intro entry member context application
  have found : w.rt.dispatcher.find entry.serviceId = some entry := by
    rw [tracked.offers.keyed.find_eq]
    exact tracked.offers.keyed.distinct.lookup_of_mem member
  have held := owned.held _ _ _ ((tracked.services _).symm.trans found) application
  exact ⟨owned.sound.find_live held, held⟩

theorem service_wrappers_owned_again :
    (5 : Nat) ∈ (Binding.after reregisteredDevice.history).services.heap.live := by
  have reachable : World.Reachable (.benign _) reregisteredDevice := ⟨1, _, rfl⟩
  have made : MadeByBinding reregisteredDevice.history :=
    ⟨by decide +kernel, by decide +kernel, by decide +kernel⟩
  have registered : {
      serviceId := 0x1000
      majorVersion := 2
      minorVersion := 0
      context := .application 5 } ∈ reregisteredDevice.rt.dispatcher.services := by
    decide +kernel
  exact ((service_wrappers_owned reachable made).1 _ registered 5 rfl).1

/-! ## Event handlers -/

theorem eventHandlerKey_inj {leftService leftEvent rightService rightEvent : UInt16}
    (same : eventHandlerKey leftService leftEvent = eventHandlerKey rightService rightEvent) :
    leftService = rightService ∧ leftEvent = rightEvent := by
  have value : ∀ serviceId eventId : UInt16,
      (eventHandlerKey serviceId eventId).toNat = serviceId.toNat * 65536 + eventId.toNat := by
    intro serviceId eventId
    have service := serviceId.toNat_lt
    have event := eventId.toNat_lt
    rw [eventHandlerKey, UInt32.toNat_or, UInt32.toNat_shiftLeft]
    simp only [UInt16.toNat_toUInt32]
    rw [show (16 : UInt32).toNat % 32 = 16 from rfl,
      Nat.mod_eq_of_lt (by rw [Nat.shiftLeft_eq]; omega),
      ← Nat.shiftLeft_add_eq_or_of_lt event, Nat.shiftLeft_eq]
  have equal := congrArg UInt32.toNat same
  rw [value, value] at equal
  have left := leftEvent.toNat_lt
  have right := rightEvent.toNat_lt
  exact ⟨UInt16.toNat_inj.mp (by omega), UInt16.toNat_inj.mp (by omega)⟩

/-- A subscription has been refused, for which this handler was handed over. -/
def RefusedHandler (history : History cfg) (context : Nat) : Prop :=
  ∃ serviceId eventId ttlSeconds nowMs result, result ≠ .bool true ∧
    .returned (.subscribeEvent serviceId eventId context ttlSeconds nowMs) result ∈ history

/-- An event has been delivered to a handler after its subscription was refused. -/
def DeliveredAnyway (history : History cfg) (context : Nat) : Prop :=
  ∃ serviceId eventId payload past,
    (.callback (.event context serviceId eventId payload) :: past) <:+ history ∧
    RefusedHandler past context

theorem RefusedHandler.cons {past : History cfg} {context : Nat}
    (refused : RefusedHandler past context) (event : Event cfg) :
    RefusedHandler (event :: past) context := by
  obtain ⟨_, _, _, _, _, notTrue, occurs⟩ := refused
  exact ⟨_, _, _, _, _, notTrue, .tail _ occurs⟩

theorem RefusedHandler.known {past : History cfg} {context : Nat}
    (refused : RefusedHandler past context) : context ∈ handlerContexts past := by
  obtain ⟨_, _, _, _, _, -, occurs⟩ := refused
  exact List.mem_filterMap.mpr ⟨_, occurs, rfl⟩

/-- The handlers that exist are those of the subscriptions that stand, and the one filed last for
an event is among them unless its subscription was refused. -/
structure HandlersOwned (past : History cfg) : Prop where
  sound : (Binding.after past).eventHandlers.Sound
  known : ∀ context ∈ (Binding.after past).eventHandlers.heap.live,
    context ∈ handlerContexts past
  filed : ∀ serviceId eventId context, lastHandler serviceId eventId past = some context →
    (Binding.after past).eventHandlers.find (eventHandlerKey serviceId eventId) = some context ∨
      RefusedHandler past context
  refused : ∀ context, RefusedHandler past context →
    context ∉ (Binding.after past).eventHandlers.heap.live
  misused : ∀ context, context ∈ (Binding.after past).eventHandlers.heap.misused ↔
    DeliveredAnyway past context

namespace HandlersOwned

variable {past : History cfg}

theorem nil : HandlersOwned ([] : History cfg) where
  sound := .empty
  known _ live := by simp [Binding.after] at live
  filed _ _ _ found := by cases found
  refused _ _ live := by simp [Binding.after] at live
  misused context := by
    constructor
    · rintro ⟨⟩
    · rintro ⟨_, _, _, _, occurs, -⟩
      simp at occurs

/-- Does the event write or use event handlers? -/
def concerns : Event cfg → Bool
  | .returned (.subscribeEvent ..) _ | .returned (.unsubscribeEvent ..) _
  | .callback (.event ..) => true
  | _ => false

theorem deliveredAnyway_cons {event : Event cfg} {context : Nat}
    (other : ∀ serviceId eventId payload, event = .callback (.event context serviceId eventId
      payload) → ¬RefusedHandler past context) :
    DeliveredAnyway (event :: past) context ↔ DeliveredAnyway past context := by
  constructor
  · rintro ⟨serviceId, eventId, payload, older, occurs, refused⟩
    rcases List.suffix_cons_iff.mp occurs with now | earlier
    · injection now with same behind
      subst behind
      exact absurd refused (other _ _ _ same.symm)
    · exact ⟨_, _, _, _, earlier, refused⟩
  · rintro ⟨serviceId, eventId, payload, older, occurs, refused⟩
    exact ⟨_, _, _, _, occurs.trans (List.suffix_cons event past), refused⟩

theorem refusedHandler_cons {event : Event cfg} {context : Nat}
    (other : ∀ serviceId eventId ttlSeconds nowMs result, event = .returned
      (.subscribeEvent serviceId eventId context ttlSeconds nowMs) result → result = .bool true) :
    RefusedHandler (event :: past) context ↔ RefusedHandler past context := by
  refine ⟨?_, fun refused => refused.cons event⟩
  rintro ⟨serviceId, eventId, ttlSeconds, nowMs, result, notTrue, occurs⟩
  rcases List.mem_cons.mp occurs with now | earlier
  · exact absurd (other _ _ _ _ _ now.symm) notTrue
  · exact ⟨_, _, _, _, _, notTrue, earlier⟩

/-- Events that have nothing to do with handlers. -/
theorem skip (owned : HandlersOwned past) {event : Event cfg} (other : concerns event = false)
    (handlers : (Binding.after (event :: past)).eventHandlers =
      (Binding.after past).eventHandlers) : HandlersOwned (event :: past) := by
  have refusals : ∀ context,
      RefusedHandler (event :: past) context ↔ RefusedHandler past context := by
    intro context
    apply refusedHandler_cons
    rintro serviceId eventId ttlSeconds nowMs result rfl
    cases other
  have contexts : handlerContexts (event :: past) = handlerContexts past := by
    cases event with
    | returned call => cases call <;> first | rfl | cases other
    | _ => rfl
  have last : ∀ serviceId eventId,
      lastHandler serviceId eventId (event :: past) = lastHandler serviceId eventId past := by
    intro serviceId eventId
    cases event with
    | returned call => cases call <;> first | rfl | cases other
    | _ => rfl
  constructor
  · exact handlers ▸ owned.sound
  · rw [handlers, contexts]
    exact owned.known
  · intro serviceId eventId context found
    rw [last] at found
    rw [handlers, refusals]
    exact owned.filed _ _ _ found
  · intro context refused
    rw [handlers]
    exact owned.refused context ((refusals context).mp refused)
  · intro context
    rw [handlers, owned.misused, deliveredAnyway_cons]
    rintro serviceId eventId payload rfl
    cases other

theorem subscribeEvent (owned : HandlersOwned past) {serviceId eventId : UInt16} {context : Nat}
    {ttlSeconds : UInt16} {nowMs : UInt32} (result : ApiResult)
    (new : context ∉ handlerContexts past) :
    HandlersOwned
      (.returned (.subscribeEvent serviceId eventId context ttlSeconds nowMs) result :: past) := by
  let call : ApiCall cfg := .subscribeEvent serviceId eventId context ttlSeconds nowMs
  have fresh : context ∉ (Binding.after past).eventHandlers.heap.live :=
    fun live => new (owned.known context live)
  have wrapped : (Binding.after (.returned call result :: past)).eventHandlers =
      (Binding.after past).eventHandlers.install (eventHandlerKey serviceId eventId) context
        (result = .bool true) := rfl
  constructor
  · exact wrapped ▸ owned.sound.install fresh _ _
  · intro other live
    rw [wrapped] at live
    rcases OwnerMap.mem_live_install live with rfl | earlier
    · exact .head _
    · exact .tail _ (owned.known other earlier)
  · intro service event other found
    rw [lastHandler] at found
    rw [wrapped]
    by_cases same : serviceId = service ∧ eventId = event
    · rw [if_pos same] at found
      cases found
      by_cases accepted : result = .bool true
      · left
        rw [decide_eq_true accepted, same.1, same.2]
        exact OwnerMap.find_install_self _ _ _
      · exact .inr ⟨_, _, _, _, _, accepted, .head _⟩
    · rw [if_neg same] at found
      have otherKey : eventHandlerKey service event ≠ eventHandlerKey serviceId eventId := by
        intro equal
        obtain ⟨sameService, sameEvent⟩ := eventHandlerKey_inj equal
        exact same ⟨sameService.symm, sameEvent.symm⟩
      rw [OwnerMap.find_install_of_ne otherKey]
      exact (owned.filed _ _ _ found).imp id fun refused => refused.cons _
  · intro other refused live
    rw [wrapped] at live
    by_cases same : other = context
    · subst same
      obtain ⟨_, _, _, _, refusal, notTrue, occurs⟩ := refused
      rcases List.mem_cons.mp occurs with now | earlier
      · injection now with _ sameResult
        subst sameResult
        rw [decide_eq_false notTrue] at live
        exact Finset.notMem_erase other _ live
      · exact new (List.mem_filterMap.mpr ⟨_, earlier, rfl⟩)
    · have before : RefusedHandler past other := by
        refine (refusedHandler_cons ?_).mp refused
        intro _ _ _ _ _ now
        injection now with sameCall
        injection sameCall with _ _ sameContext
        exact absurd sameContext.symm same
      exact (OwnerMap.mem_live_install live).elim same (owned.refused other before)
  · intro other
    rw [wrapped, owned.sound.misused_install, owned.misused, deliveredAnyway_cons]
    rintro _ _ _ ⟨⟩

theorem unsubscribeEvent (owned : HandlersOwned past) (serviceId eventId : UInt16)
    (result : ApiResult) :
    HandlersOwned (.returned (.unsubscribeEvent serviceId eventId) result :: past) := by
  have erased : (Binding.after
      (.returned (.unsubscribeEvent serviceId eventId) result :: past)).eventHandlers =
        (Binding.after past).eventHandlers.erase (eventHandlerKey serviceId eventId) := rfl
  constructor
  · exact erased ▸ owned.sound.erase _
  · intro other live
    rw [erased] at live
    exact owned.known other (OwnerMap.live_erase.mp live).1
  · intro service event other found
    rw [lastHandler] at found
    by_cases same : serviceId = service ∧ eventId = event
    · rw [if_pos same] at found
      cases found
    · rw [if_neg same] at found
      have otherKey : eventHandlerKey service event ≠ eventHandlerKey serviceId eventId := by
        intro equal
        obtain ⟨sameService, sameEvent⟩ := eventHandlerKey_inj equal
        exact same ⟨sameService.symm, sameEvent.symm⟩
      rw [erased, OwnerMap.find_erase_of_ne otherKey]
      exact (owned.filed _ _ _ found).imp id fun refused => refused.cons _
  · intro other refused live
    rw [erased] at live
    have before : RefusedHandler past other :=
      (refusedHandler_cons (by rintro _ _ _ _ _ ⟨⟩)).mp refused
    exact owned.refused other before (OwnerMap.live_erase.mp live).1
  · intro other
    rw [erased, owned.sound.misused_erase, owned.misused, deliveredAnyway_cons]
    rintro _ _ _ ⟨⟩

/-- An event is delivered to the handler filed last. -/
theorem onEvent (owned : HandlersOwned past) {serviceId eventId : UInt16} {context : Nat}
    (payload : Bytes) (last : lastHandler serviceId eventId past = some context) :
    HandlersOwned (.callback (.event context serviceId eventId payload) :: past) := by
  have used : (Binding.after
      (.callback (.event context serviceId eventId payload) :: past)).eventHandlers =
        (Binding.after past).eventHandlers.use context := rfl
  have refusals : ∀ other, RefusedHandler
      (.callback (.event context serviceId eventId payload) :: past) other ↔
        RefusedHandler past other :=
    fun other => refusedHandler_cons (by rintro _ _ _ _ _ ⟨⟩)
  have gone : context ∉ (Binding.after past).eventHandlers.heap.live ↔
      RefusedHandler past context := by
    refine ⟨fun dead => ?_, owned.refused context⟩
    exact (owned.filed _ _ _ last).resolve_left fun found => dead (owned.sound.find_live found)
  constructor
  · exact used ▸ owned.sound.use context
  · intro other live
    rw [used, OwnerMap.use, Heap.live_use] at live
    exact owned.known other live
  · intro service event other found
    rw [used, refusals]
    exact owned.filed service event other found
  · intro other refused live
    rw [used, OwnerMap.use, Heap.live_use] at live
    exact owned.refused other ((refusals other).mp refused) live
  · intro other
    have uses : other ∈ ((Binding.after past).eventHandlers.use context).heap.misused ↔
        other ∈ (Binding.after past).eventHandlers.heap.misused ∨
          other = context ∧ context ∉ (Binding.after past).eventHandlers.heap.live :=
      Heap.mem_misused_use
    rw [used, uses, gone, owned.misused]
    constructor
    · rintro (earlier | ⟨rfl, refused⟩)
      · obtain ⟨_, _, _, _, occurs, refused⟩ := earlier
        exact ⟨_, _, _, _, occurs.trans (List.suffix_cons _ past), refused⟩
      · exact ⟨_, _, _, _, List.suffix_refl _, refused⟩
    · rintro ⟨_, _, _, older, occurs, refused⟩
      rcases List.suffix_cons_iff.mp occurs with now | earlier
      · injection now with same behind
        injection same with sameCallback
        injection sameCallback with sameContext
        subst behind
        subst sameContext
        exact .inr ⟨rfl, refused⟩
      · exact .inl ⟨_, _, _, _, earlier, refused⟩

end HandlersOwned

theorem handlersOwned {w : World cfg} (reachable : World.Reachable env w)
    (made : MadeByBinding w.history) {past : History cfg} (earlier : past <:+ w.history) :
    HandlersOwned past := by
  have caused := reachable.callsCaused.caused
  induction past with
  | nil => exact .nil
  | cons event past ih =>
      have owned := ih ((List.suffix_cons event past).trans earlier)
      have mine := made.suffix earlier
      cases event with
      | callback callback =>
          cases callback with
          | event context serviceId eventId payload =>
              exact owned.onEvent payload (caused _ _ earlier).2
          | _ => exact owned.skip rfl rfl
      | onRequest entry =>
          refine owned.skip rfl ?_
          rw [Binding.after]
          cases entry.context <;> rfl
      | returned call result =>
          cases call with
          | subscribeEvent => exact owned.subscribeEvent result mine.new_handler
          | unsubscribeEvent serviceId eventId =>
              exact owned.unsubscribeEvent serviceId eventId result
          | request =>
              exact owned.skip rfl (Binding.after_request _ _ _ _ _ _ _ _ _).2
          | _ => exact owned.skip rfl rfl
      | _ => exact owned.skip rfl rfl

/-- A handler filed in the runtime exists unless its subscription was refused, and a handler is
used when it does not exist exactly if an event is delivered to it all the same.  Destroying the
binding deletes those that are left. -/
theorem event_handlers_owned {w : World cfg} (reachable : World.Reachable env w)
    (made : MadeByBinding w.history) :
    let handlers := (Binding.after w.history).eventHandlers
    let closed := (Binding.after w.history).destroy.eventHandlers
    (∀ entry ∈ w.rt.eventHandlers,
      (entry.context ∈ handlers.heap.live ↔ ¬RefusedHandler w.history entry.context)) ∧
    (∀ context, context ∈ closed.heap.misused ↔ DeliveredAnyway w.history context) ∧
    closed.heap.live = ∅ := by
  have owned := handlersOwned reachable made (List.suffix_refl _)
  have tracked := reachable.registrationsTracked
  obtain ⟨gone, unharmed⟩ := owned.sound.clear
  refine ⟨?_, ?_, gone⟩
  · intro entry member
    have found : w.findEventHandler entry.serviceId entry.eventId = some entry := by
      rw [World.findEventHandler, tracked.keyed.find_eq]
      exact tracked.keyed.distinct.lookup_of_mem member
    refine ⟨fun live refused => owned.refused _ refused live, fun accepted => ?_⟩
    have filed := owned.filed _ _ _ (tracked.handlers _ _ _ found)
    exact owned.sound.find_live (filed.resolve_right accepted)
  · intro context
    have same : context ∈ (Binding.after w.history).destroy.eventHandlers.heap.misused ↔
        context ∈ (Binding.after w.history).eventHandlers.heap.misused :=
      (congrArg (context ∈ ·) unharmed).to_iff
    exact same.trans (owned.misused context)

/-- An event whose subscription was refused because too many had been given up before, and
which is delivered. -/
def overfullBinding : World embeddedConfig :=
  .run (.benign _)
    (((List.range 32).flatMap fun event =>
      [.api (.subscribeEvent 0x1000 (0x9000 + UInt16.ofNat event) event 10 0),
        .api (.unsubscribeEvent 0x1000 (0x9000 + UInt16.ofNat event))]) ++
      [.api (.subscribeEvent 0x1000 0x8001 32 10 0),
        .deliver (Address.zero 8) World.notification 0])
    (World.initial _ 1)

theorem event_handlers_owned_overfull : DeliveredAnyway overfullBinding.history 32 := by
  have reachable : World.Reachable (.benign _) overfullBinding := ⟨1, _, rfl⟩
  have made : MadeByBinding overfullBinding.history :=
    ⟨by decide +kernel, by decide +kernel, by decide +kernel⟩
  exact ((event_handlers_owned reachable made).2.1 32).mp (by decide +kernel)

end Sero.Node
