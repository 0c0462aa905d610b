import Sero.Properties.TableSlots

/-!
# Enabling diagnostics

`enable_diagnostics` registers the built-in service and offers it, and takes the registration
back if the offer is refused.  Once it has succeeded it goes by a flag of its own, which knows
nothing of what the application does to the service afterwards.
-/

namespace Sero

open Library ServiceDiscovery

variable {n : Nat} {cfg : Config n} {env : Env cfg}

/-! ## The built-in service -/

/-- Is the built-in service registered under its id? -/
def MethodDispatcher.hasBuiltIn (dispatcher : MethodDispatcher cfg) : Bool :=
  (dispatcher.find diagServiceId).any fun entry => decide (entry.context = .diagnostics)

/-- Is it registered, going by the calls and what they returned?  Only the first success of
`enable_diagnostics` registers it. -/
def isBuiltIn : History cfg → Bool
  | [] => false
  | .returned (.enableDiagnostics ..) (.bool true) :: past =>
      !diagnosticsEnabled past || isBuiltIn past
  | .returned (.unregisterService removed) (.bool true) :: past =>
      removed != diagServiceId && isBuiltIn past
  | _ :: past => isBuiltIn past

/-- What `enable_diagnostics` returns is true of the tables: the service is registered and
offered, or nothing has changed. -/
structure EnablesTruthfully (nowMs : UInt32) (authRequired : Bool) (w : World cfg) : Prop where
  enabled : (w.enableDiagnostics nowMs authRequired).1 = true →
    (w.enableDiagnostics nowMs authRequired).2.rt.dispatcher.hasBuiltIn = true ∧
      (w.enableDiagnostics nowMs authRequired).2.rt.sd.offers diagServiceId = true
  refused : (w.enableDiagnostics nowMs authRequired).1 = false →
    (w.enableDiagnostics nowMs authRequired).2.rt.dispatcher = w.rt.dispatcher ∧
      (w.enableDiagnostics nowMs authRequired).2.rt.sd.providers = w.rt.sd.providers

/-- Since diagnostics were enabled, the service has not been unregistered, and it has not been
withdrawn without being offered again. -/
def LeavesDiagnostics (history : History cfg) : Prop :=
  diagnosticsEnabled history = true →
    isBuiltIn history = true ∧ isOffered diagServiceId history = true

/-- Diagnostics are enabled already, cannot be enabled, or are enabled now. -/
inductive Enables (w : World cfg) : Bool × World cfg → Prop where
  | already (enabled : w.rt.diagEnabled = true) : Enables w (true, w)
  | refused {after : World cfg} (disabled : w.rt.diagEnabled = false)
      (history : after.history = w.history)
      (dispatcher : after.rt.dispatcher = w.rt.dispatcher) (sd : after.rt.sd = w.rt.sd) :
      Enables w (false, after)
  | enabled {after : World cfg} (disabled : w.rt.diagEnabled = false)
      (history : after.history = w.history)
      (builtIn : after.rt.dispatcher.hasBuiltIn = true)
      (offers : ∀ serviceId,
        after.rt.sd.offers serviceId = (diagServiceId == serviceId || w.rt.sd.offers serviceId)) :
      Enables w (true, after)

namespace ServiceDiscovery

variable {sd : ServiceDiscovery cfg} {serviceId : UInt16}

theorem offers_offer {major minor : UInt8} {ttlSeconds : UInt16} {nowMs : UInt32}
    (accepted : (sd.offer serviceId major minor ttlSeconds nowMs).1 = true) (wanted : UInt16) :
    (sd.offer serviceId major minor ttlSeconds nowMs).2.offers wanted =
      (serviceId == wanted || sd.offers wanted) := by
  rw [offers, findProvider_offer accepted]
  split
  · next same => rw [same, beq_self_eq_true, Bool.true_or]; rfl
  · next other => rw [beq_false_of_ne (Ne.symm other), Bool.false_or]; rfl

theorem offers_stopOffer (wanted : UInt16) :
    (sd.stopOffer serviceId).offers wanted = (serviceId != wanted && sd.offers wanted) := by
  rw [offers, findProvider_stopOffer]
  split
  · next same =>
      rw [same, bne_self_eq_false, Bool.false_and, Option.any_map]
      cases sd.findProvider serviceId <;> rfl
  · next other => rw [bne_iff_ne.mpr (Ne.symm other), Bool.true_and]; rfl

theorem offers_processOffers (nowMs : UInt32) (wanted : UInt16) :
    (sd.processOffers nowMs).2.offers wanted = sd.offers wanted := by
  rw [offers, findProvider_processOffers, Option.any_map]
  have kept : ∀ entry, (ProviderEntry.broadcastAt nowMs entry).state = entry.state :=
    fun entry => (ProviderEntry.broadcastAt_same nowMs entry).2.1
  simp only [kept]
  rfl

end ServiceDiscovery

namespace World

theorem enableDiagnostics_enables (nowMs : UInt32) (authRequired : Bool) (w : World cfg) :
    Enables w (w.enableDiagnostics nowMs authRequired) := by
  cases diag : w.rt.diagEnabled with
  | true =>
      rw [enableDiagnostics, if_pos diag]
      exact .already diag
  | false =>
      rw [OffersTracked.enableDiagnostics_disabled diag]
      cases accepted : (w.rt.dispatcher.registerService
          (OffersTracked.diagnosticsEntry authRequired)).1 with
      | false =>
          have unchanged : (OffersTracked.registerDiagnostics authRequired w).rt.dispatcher =
              w.rt.dispatcher := MethodDispatcher.registerService_refused accepted
          exact .refused diag rfl unchanged rfl
      | true =>
          have found : (OffersTracked.registerDiagnostics authRequired w).rt.dispatcher.find
              diagServiceId = some (OffersTracked.diagnosticsEntry authRequired) := by
            have looked := MethodDispatcher.find_registerService w.rt.dispatcher
              (rfl : (OffersTracked.diagnosticsEntry authRequired).active = true) diagServiceId
            rw [show w.rt.dispatcher.find diagServiceId = none from
              MethodDispatcher.find_of_registered accepted, accepted] at looked
            exact looked
          simp only [offerService, found, if_true]
          cases offered : ((OffersTracked.registerDiagnostics authRequired w).rt.sd.offer
              diagServiceId (OffersTracked.diagnosticsEntry authRequired).majorVersion
              (OffersTracked.diagnosticsEntry authRequired).minorVersion cfg.offerTtlSeconds
              nowMs).1 with
          | true =>
              refine .enabled diag rfl ?_ (offers_offer offered)
              change ((OffersTracked.registerDiagnostics authRequired w).rt.dispatcher.find
                diagServiceId).any _ = true
              rw [found]
              rfl
          | false =>
              have restored : ((OffersTracked.registerDiagnostics authRequired
                  w).rt.dispatcher.unregisterService diagServiceId).2 = w.rt.dispatcher :=
                congrArg Prod.snd (MethodDispatcher.unregisterService_registerService rfl accepted)
              exact .refused diag rfl restored (offer_refused offered)

end World

namespace MethodDispatcher

variable {dispatcher : MethodDispatcher cfg}

/-- What the application registers is not the built-in service. -/
theorem hasBuiltIn_registerService {service : ServiceEntry} {context : Nat}
    (active : service.active = true) (application : service.context = .application context) :
    (dispatcher.registerService service).2.hasBuiltIn = dispatcher.hasBuiltIn := by
  rw [hasBuiltIn, hasBuiltIn, find_registerService dispatcher active]
  cases dispatcher.find diagServiceId with
  | some entry => rfl
  | none =>
      rw [Option.none_or]
      split
      · rw [Option.any_some, application]
        rfl
      · rfl

theorem Keyed.hasBuiltIn_unregisterService (keyed : dispatcher.Keyed) (removed : UInt16) :
    (dispatcher.unregisterService removed).2.hasBuiltIn =
      (removed != diagServiceId && dispatcher.hasBuiltIn) := by
  rw [hasBuiltIn, keyed.find_unregisterService]
  split
  · next same => rw [same, bne_self_eq_false, Bool.false_and]; rfl
  · next other => rw [bne_iff_ne.mpr (Ne.symm other), Bool.true_and]; rfl

end MethodDispatcher

/-! ## The tables along a run -/

/-- Only calls of the application count. -/
theorem isBuiltIn_append {events past : History cfg}
    (noCalls : ∀ event ∈ events, event.kind ≠ .perform) :
    isBuiltIn (events ++ past) = isBuiltIn past := by
  induction events with
  | nil => rfl
  | cons event events ih =>
      have own := noCalls event (List.mem_cons_self ..)
      rw [← ih fun later member => noCalls later (List.mem_cons_of_mem _ member)]
      cases event with
      | returned call result =>
          cases call with
          | enableDiagnostics | unregisterService => exact absurd rfl own
          | _ => rfl
      | _ => rfl

/-- The tables hold what the application has made of the built-in service and of offers. -/
structure RegistryTracked (w : World cfg) : Prop where
  tracked : OffersTracked w
  builtIn : w.rt.dispatcher.hasBuiltIn = isBuiltIn w.history
  offers : ∀ serviceId, w.rt.sd.offers serviceId = isOffered serviceId w.history

namespace RegistryTracked

variable {before after : World cfg}

theorem initial (clientId : UInt16) : RegistryTracked (World.initial cfg clientId) where
  tracked := .initial clientId
  builtIn := rfl
  offers _ := rfl

/-- Steps that leave the tables alone. -/
theorem of_same (registry : RegistryTracked before) (tracked : OffersTracked after)
    (same : SameRegistry before after) {events : History cfg}
    (history : after.history = events ++ before.history)
    (builtIn : isBuiltIn (events ++ before.history) = isBuiltIn before.history)
    (offers : ∀ serviceId, isOffered serviceId (events ++ before.history) =
      isOffered serviceId before.history) : RegistryTracked after where
  tracked
  builtIn := by
    rw [same.dispatcher, history, builtIn]
    exact registry.builtIn
  offers serviceId := by
    rw [ServiceDiscovery.offers, findProvider, same.providers, history, offers]
    exact registry.offers serviceId

/-- Enabling diagnostics, which the flag knows about. -/
theorem enableDiagnostics {w : World cfg} (registry : RegistryTracked w) {nowMs : UInt32}
    {authRequired : Bool} {result : Bool × World cfg} (enables : Enables w result)
    (tracked : OffersTracked (World.emit
      (.returned (.enableDiagnostics nowMs authRequired) (.bool result.1)) result.2)) :
    RegistryTracked (World.emit
      (.returned (.enableDiagnostics nowMs authRequired) (.bool result.1)) result.2) := by
  have diag := registry.tracked.diag
  cases enables with
  | already enabled =>
      refine ⟨tracked, ?_, fun serviceId => ?_⟩
      · rw [World.emit_history, isBuiltIn, ← diag, enabled]
        exact registry.builtIn
      · rw [World.emit_history, isOffered, ← diag, enabled, Bool.not_true, Bool.and_false]
        exact registry.offers serviceId
  | refused disabled history dispatcher sd =>
      refine ⟨tracked, ?_, fun serviceId => ?_⟩
      · rw [World.emit_history, history]
        exact (congrArg MethodDispatcher.hasBuiltIn dispatcher).trans registry.builtIn
      · rw [World.emit_history, history]
        exact (congrArg (ServiceDiscovery.offers serviceId) sd).trans (registry.offers serviceId)
  | enabled disabled history builtIn offers =>
      refine ⟨tracked, ?_, fun serviceId => ?_⟩
      · rw [World.emit_history, history, isBuiltIn, ← diag, disabled]
        exact builtIn
      · rw [World.emit_history, history, isOffered, ← diag, disabled, Bool.not_false,
          Bool.and_true, ← registry.offers]
        exact offers serviceId

theorem offerService {w : World cfg} (registry : RegistryTracked w)
    {serviceId ttlSeconds : UInt16} {nowMs : UInt32}
    (tracked : OffersTracked (w.perform env id (.offerService serviceId ttlSeconds nowMs))) :
    RegistryTracked (w.perform env id (.offerService serviceId ttlSeconds nowMs)) := by
  simp only [World.perform, World.apiCall, World.offerService] at tracked ⊢
  cases found : w.rt.dispatcher.find serviceId with
  | none =>
      rw [found] at tracked
      exact ⟨tracked, registry.builtIn, registry.offers⟩
  | some service =>
      rw [found] at tracked
      refine ⟨tracked, ?_, fun wanted => ?_⟩
      · exact registry.builtIn
      · dsimp only
        cases accepted : (w.rt.sd.offer serviceId service.majorVersion service.minorVersion
            ttlSeconds nowMs).1 with
        | false =>
            rw [offer_refused accepted]
            exact registry.offers wanted
        | true =>
            have offered := offers_offer accepted wanted
            rw [registry.offers] at offered
            exact offered

theorem perform (registry : RegistryTracked before) {call : ApiCall cfg}
    (isLocal : call.isLocal = true) : RegistryTracked (before.perform env id call) := by
  have tracked : OffersTracked (before.perform env id call) := registry.tracked.perform isLocal
  cases writes : call.writesRegistry with
  | false =>
      have same : SameRegistry before (before.apiCall env id call).2 :=
        World.apiCall_registry id isLocal writes before
      obtain ⟨events, history, kinds⟩ :=
        (@World.apiCall_same _ _ env id call isLocal before).history
      have noCalls : ∀ event ∈ events, event.kind ≠ .perform :=
        Event.kind_ne kinds (by simp) (by simp)
      have offers := (@isOffered_append _ _ events before.history noCalls).1
      have builtIn := @isBuiltIn_append _ _ events before.history noCalls
      have recorded : (before.perform env id call).history =
          (.returned call (before.apiCall env id call).1 :: events) ++ before.history :=
        congrArg (List.cons _) history
      apply registry.of_same tracked ⟨same.providers, same.dispatcher, same.diagEnabled⟩ recorded
      · cases call with
        | registerService | unregisterService | offerService | stopOffer | enableDiagnostics =>
            cases writes
        | _ => exact builtIn
      · intro serviceId
        cases call with
        | registerService | unregisterService | offerService | stopOffer | enableDiagnostics =>
            cases writes
        | _ => exact offers serviceId
  | true =>
      cases call with
      | registerService serviceId context major minor authRequired =>
          refine ⟨tracked, ?_, registry.offers⟩
          exact (MethodDispatcher.hasBuiltIn_registerService rfl rfl).trans registry.builtIn
      | unregisterService serviceId =>
          refine ⟨tracked, ?_, registry.offers⟩
          have kept := registry.tracked.keyed.hasBuiltIn_unregisterService serviceId
          change (before.rt.dispatcher.unregisterService serviceId).2.hasBuiltIn =
            isBuiltIn (.returned (.unregisterService serviceId)
              (.bool (before.rt.dispatcher.unregisterService serviceId).1) :: before.history)
          cases removed : (before.rt.dispatcher.unregisterService serviceId).1 with
          | false =>
              rw [MethodDispatcher.unregisterService_refused removed]
              exact registry.builtIn
          | true => rw [kept, isBuiltIn, registry.builtIn]
      | offerService serviceId ttlSeconds nowMs => exact registry.offerService tracked
      | stopOffer serviceId =>
          refine ⟨tracked, registry.builtIn, fun wanted => ?_⟩
          have withdrawn := @offers_stopOffer _ _ before.rt.sd serviceId wanted
          rw [registry.offers] at withdrawn
          exact withdrawn
      | enableDiagnostics nowMs authRequired =>
          exact registry.enableDiagnostics
            (before.enableDiagnostics_enables nowMs authRequired) tracked
      | _ => cases writes

theorem step (registry : RegistryTracked before) {kind : StepKind}
    (step : Atomic env kind before after) : RegistryTracked after := by
  have tracked : OffersTracked after := registry.tracked.step step
  by_cases calls : kind = .perform
  · subst calls
    cases step with
    | perform isLocal => exact registry.perform isLocal
  · by_cases writes : kind = .sdWrite
    · subst writes
      cases step with
      | sdWrite write =>
          refine ⟨tracked, registry.builtIn, fun serviceId => ?_⟩
          cases write with
          | processOffers nowMs =>
              exact (offers_processOffers nowMs serviceId).trans (registry.offers serviceId)
          | _ => exact registry.offers serviceId
    · obtain ⟨events, history, kinds⟩ := step.observes
      have noCalls : ∀ event ∈ events, event.kind ≠ .perform :=
        Event.kind_ne kinds calls (by simp)
      exact registry.of_same tracked (step.registry calls writes) history
        (isBuiltIn_append noCalls) (@isOffered_append _ _ events before.history noCalls).1

theorem of_steps {clientId : UInt16} {w : World cfg}
    (steps : Steps env (World.initial cfg clientId) w) : RegistryTracked w := by
  induction steps with
  | refl => exact .initial clientId
  | tail _ step ih =>
      obtain ⟨kind, step⟩ := step
      exact ih.step step

end RegistryTracked

/-! ## When the answer is true -/

theorem EnablesTruthfully.of_enables {nowMs : UInt32} {authRequired : Bool} {w : World cfg}
    (already : w.rt.diagEnabled = true →
      w.rt.dispatcher.hasBuiltIn = true ∧ w.rt.sd.offers diagServiceId = true) :
    EnablesTruthfully nowMs authRequired w := by
  have enables := w.enableDiagnostics_enables nowMs authRequired
  constructor
  · intro answer
    generalize w.enableDiagnostics nowMs authRequired = result at enables answer
    cases enables with
    | already enabled => exact already enabled
    | refused => cases answer
    | enabled disabled history builtIn offers =>
        refine ⟨builtIn, ?_⟩
        rw [offers, beq_self_eq_true, Bool.true_or]
  · intro answer
    generalize w.enableDiagnostics nowMs authRequired = result at enables answer
    cases enables with
    | already | enabled => cases answer
    | refused disabled history dispatcher sd =>
        exact ⟨dispatcher, congrArg ServiceDiscovery.providers sd⟩

/-- Whenever diagnostics may be enabled, the answer is true exactly if the application has left
alone what an earlier success has registered and offered. -/
theorem enables_truthfully_iff {clientId : UInt16} {w : World cfg}
    (steps : Steps env (World.initial cfg clientId) w) (nowMs : UInt32) (authRequired : Bool) :
    EnablesTruthfully nowMs authRequired w ↔ LeavesDiagnostics w.history := by
  have registry := RegistryTracked.of_steps steps
  have stands : (w.rt.diagEnabled = true →
      w.rt.dispatcher.hasBuiltIn = true ∧ w.rt.sd.offers diagServiceId = true) ↔
      LeavesDiagnostics w.history := by
    rw [registry.tracked.diag, registry.builtIn, registry.offers, LeavesDiagnostics]
  rw [← stands]
  constructor
  · intro truthful enabled
    have answer : w.enableDiagnostics nowMs authRequired = (true, w) := by
      rw [World.enableDiagnostics, if_pos enabled]
    have told := truthful.enabled (congrArg Prod.fst answer)
    rw [answer] at told
    exact told
  · exact .of_enables

/-! Diagnostics that are withdrawn and offered again, and diagnostics that are unregistered. -/

def enableCall : Move embeddedConfig :=
  .api (.enableDiagnostics 0 false)

theorem enables_truthfully_iff_offered_again :
    let w := World.run (.benign _)
      [enableCall, .api (.stopOffer 0xFFFE), .api (.offerService 0xFFFE 5 0)]
      (World.initial embeddedConfig 1)
    EnablesTruthfully 0 false w ↔ LeavesDiagnostics w.history :=
  enables_truthfully_iff (World.run_steps _ _) 0 false

theorem enabled_without_service :
    let w := World.run (.benign _) [enableCall, .api (.unregisterService 0xFFFE)]
      (World.initial embeddedConfig 1)
    World.Reachable (.benign _) w ∧ (w.enableDiagnostics 0 false).1 = true ∧
      (w.enableDiagnostics 0 false).2.rt.dispatcher.find 0xFFFE = none ∧
      ¬EnablesTruthfully 0 false w := by
  intro w
  have answer : (w.enableDiagnostics 0 false).1 = true := by decide
  have absent : (w.enableDiagnostics 0 false).2.rt.dispatcher.find 0xFFFE = none := by decide
  refine ⟨⟨1, _, rfl⟩, answer, absent, ?_⟩
  intro truthful
  have builtIn := (truthful.enabled answer).1
  rw [MethodDispatcher.hasBuiltIn, show MethodDispatcher.find _ diagServiceId = none from
    absent] at builtIn
  cases builtIn

end Sero
