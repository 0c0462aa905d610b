import Sero.Properties.FrameOrigins
import Sero.Properties.Registrations

/-!
# Why the application is called

A request handler is entered, and an event handler or a callback of discovery called, for a
datagram that has been dispatched before, and it is the one the application has registered
last.  The callbacks of requests are accounted for with the requests.
-/

namespace Sero

open Library ServiceDiscovery

variable {n : Nat} {cfg : Config n} {env : Env cfg}

/-- A frame that is not about discovery has been dispatched, with this header and payload. -/
def Handled (history : History cfg) (source : Address n) (data : Bytes) (hdr : MessageHeader)
    (payload : Bytes) : Prop :=
  .dispatched source data ∈ history ∧ checkFrame cfg data = .ok hdr ∧
    hdr.serviceId ≠ sdServiceId ∧ payloadOf hdr data = payload

/-- What the past of an event tells of why the application is called. -/
def Event.Caused : Event cfg → History cfg → Prop
  | .onRequest entry _ methodId payload capacity, past =>
      (∃ source data hdr, Handled past source data hdr payload ∧
        hdr.serviceId = entry.serviceId ∧ hdr.methodEventId = methodId ∧
        Asks cfg hdr capacity) ∧
      registration entry.serviceId past = some entry
  | .callback (.event context serviceId eventId payload), past =>
      (∃ source data hdr, Handled past source data hdr payload ∧ hdr.serviceId = serviceId ∧
        hdr.methodEventId = eventId ∧
        MessageType.ofByte hdr.messageType = some .notification) ∧
      lastHandler serviceId eventId past = some context
  | .callback (.serviceFound serviceId provider), past => Announced past serviceId provider
  | .callback (.subscriptionAck serviceId eventId result grantedTtl), past =>
      ∃ source data, .dispatched source data ∈ past ∧
        heard cfg source data = some (.ack result ⟨serviceId, eventId, grantedTtl⟩)
  | _, _ => True

/-- Only entering a handler and calling back has something to explain. -/
theorem caused_of_kind {event : Event cfg} (notEntered : event.kind ≠ .enterHandler)
    (notCalled : event.kind ≠ .callback) (past : History cfg) : event.Caused past := by
  cases event with
  | onRequest => exact absurd rfl notEntered
  | callback callback =>
      cases callback with
      | request | serviceLost => trivial
      | _ => exact absurd rfl notCalled
  | _ => trivial

theorem Occasion.caused {before : World cfg} {callback : Callback n}
    (tracked : RegistrationsTracked before) (occasion : Occasion before callback) :
    Event.Caused (.callback callback) before.history := by
  cases occasion with
  | @event source data hdr entry accepted notSd type found =>
      exact ⟨⟨source, data, hdr, ⟨List.mem_of_mem_head? accepted.current, accepted.checked, notSd,
        rfl⟩, rfl, rfl, type⟩, tracked.handlers _ _ entry found⟩
  | @serviceFound source data offer dispatched offers =>
      exact ⟨source, data, offer, dispatched, offers, rfl, rfl⟩
  | serviceLost => trivial
  | @subscriptionAck source data result granted dispatched acks =>
      exact ⟨source, data, dispatched, acks⟩

/-- Each time the application is called there is a reason. -/
structure CallsCaused (w : World cfg) : Prop where
  tracked : RegistrationsTracked w
  caused : ∀ event past, (event :: past) <:+ w.history → event.Caused past

namespace CallsCaused

theorem initial (clientId : UInt16) : CallsCaused (World.initial cfg clientId) where
  tracked := RegistrationsTracked.initial clientId
  caused := by
    intro event past occurs
    simp [World.initial] at occurs

variable {before after : World cfg}

theorem deed {kind : StepKind} (known : CallsCaused before) (deed : Deed env kind before after) :
    CallsCaused after where
  tracked := known.tracked.deed deed
  caused := by
    intro event past occurs
    by_cases entered : event.kind = .enterHandler
    · by_cases own : kind = .enterHandler
      · subst own
        cases deed with
        | @enterHandler source data hdr entry capacity _ accepted notSd asks found =>
            rcases List.suffix_cons_iff.mp occurs with now | earlier
            · cases now
              have key := MethodDispatcher.find_serviceId found
              have current := known.tracked.services hdr.serviceId
              rw [found, ← key] at current
              exact ⟨⟨source, data, hdr, ⟨List.mem_of_mem_head? accepted.current,
                accepted.checked, notSd, rfl⟩, key.symm, rfl, asks⟩, current.symm⟩
            · exact known.caused event past earlier
      · refine known.caused event past (deed.earlier occurs ?_ ?_ ?_)
        · rw [entered]
          exact Ne.symm own
        · rw [entered]
          decide
        · rw [entered]
          decide
    · by_cases called : event.kind = .callback
      · by_cases own : kind = .callback
        · subst own
          cases deed with
          | callback occasion =>
              rcases List.suffix_cons_iff.mp occurs with now | earlier
              · cases now
                exact occasion.caused known.tracked
              · exact known.caused event past earlier
        · refine known.caused event past (deed.earlier occurs ?_ ?_ ?_)
          · rw [called]
            exact Ne.symm own
          · rw [called]
            decide
          · rw [called]
            decide
      · exact caused_of_kind entered called past

end CallsCaused

theorem World.Reachable.callsCaused {w : World cfg} (reachable : World.Reachable env w) :
    CallsCaused w :=
  reachable.deedsInvariant CallsCaused.initial fun _ _ _ known deed => known.deed deed

/-- In every run, a handler is entered, an event delivered and discovery reported for a frame
that was dispatched before, to what was registered at that moment. -/
theorem World.callbacks_have_cause {w : World cfg} (reachable : World.Reachable env w)
    {event : Event cfg} {past : History cfg} (occurs : (event :: past) <:+ w.history) :
    event.Caused past :=
  reachable.callsCaused.caused event past occurs

/-- The handlers a device has entered, newest first. -/
def handlersEntered (history : History cfg) : List (ServiceEntry × UInt16 × Bytes × Option Nat) :=
  history.filterMap fun
    | .onRequest entry _ methodId payload capacity => some (entry, methodId, payload, capacity)
    | _ => none

theorem mem_handlersEntered {history : History cfg} {entry : ServiceEntry} {methodId : UInt16}
    {payload : Bytes} {capacity : Option Nat}
    (entered : (entry, methodId, payload, capacity) ∈ handlersEntered history) :
    ∃ keys, .onRequest entry keys methodId payload capacity ∈ history := by
  obtain ⟨event, occurs, selected⟩ := List.mem_filterMap.mp entered
  cases event with
  | onRequest entry keys methodId payload capacity =>
      cases selected
      exact ⟨keys, occurs⟩
  | _ => cases selected

/-- What the provider of a word has registered. -/
def wordService : ServiceEntry where
  serviceId := 0x1000
  majorVersion := 1
  minorVersion := 0
  context := .application 0

theorem World.callbacks_have_cause_word :
    ∃ past, past <:+ (Devices.wordNetwork Devices.wordProvider).history ∧
      (∃ source data hdr, Handled past source data hdr [5] ∧ hdr.serviceId = 0x1000 ∧
        hdr.methodEventId = 1 ∧
        Asks (Devices.wordDevices.cfg Devices.wordProvider) hdr (some 256)) ∧
      registration 0x1000 past = some wordService := by
  have entered : (wordService, 1, [5], some 256) ∈
      handlersEntered (Devices.wordNetwork Devices.wordProvider).history := by
    decide +kernel
  obtain ⟨keys, occurs⟩ := mem_handlersEntered entered
  obtain ⟨past, suffix⟩ := Runs.exists_suffix occurs
  have caused := callbacks_have_cause (Devices.wordNetwork_reachable.device _) suffix
  exact ⟨past, (List.suffix_cons _ past).trans suffix, caused⟩

end Sero
