import Sero.Library.Backoff
import Sero.Properties.IgnoredOffer
import Sero.Properties.RetrySchedule
import Sero.Properties.EndedSubscription

/-!
# The end of a search

A service that is looked for is asked for at once and then as often as the configuration
has it, each time a growing delay after the time before.  If it is not offered, the last
time ends the search, and the application is told once that the service is lost.
-/

namespace Sero

open Library ServiceDiscovery

variable {n : Nat} {cfg : Config n} {env : Env cfg} {serviceId clientId : UInt16}

/-! ## What is observed of a search -/

/-- The service a frame asks for. -/
def soughtIn (data : Bytes) : Option UInt16 :=
  let hdr := MessageHeader.deserialize data
  if hdr.serviceId = sdServiceId ∧ hdr.methodEventId = SdMethod.findService.toId then
    SdPayload.deserializeFind (payloadOf hdr data)
  else none

/-- The application has set `on_service_lost`. -/
def Listens (w : World cfg) : Prop :=
  w.rt.sd.callbacks.onServiceLost = true

/-- Is it a frame that asks for the service? -/
def Event.seeks (serviceId : UInt16) (event : Event cfg) : Bool :=
  event.sdFrame.any fun sent => soughtIn sent.2 == some serviceId

/-- Is the application told that the service is lost? -/
def Event.loses (serviceId : UInt16) : Event cfg → Bool
  | .callback (.serviceLost lost) => lost == serviceId
  | _ => false

/-- Has the application stopped listening for lost services? -/
def Event.deafens : Event cfg → Bool
  | .returned (.setSdCallbacks callbacks) _ => !callbacks.onServiceLost
  | _ => false

theorem payloadOf_serializeFind {hdr : MessageHeader} (declared : hdr.payloadLength = 4)
    (wanted : UInt16) :
    payloadOf hdr (messageFrame hdr (SdPayload.serializeFind wanted) []) =
      SdPayload.serializeFind wanted := by
  apply payloadOf_messageFrame
  rw [declared]
  rfl

theorem soughtIn_find (wanted clientId : UInt16) (sequenceCounter : UInt8) :
    soughtIn ((SdMessage.find (n := n) wanted).frame clientId sequenceCounter) =
      some wanted := by
  rw [soughtIn, SdMessage.frame, deserialize_messageFrame, if_pos ⟨rfl, rfl⟩, SdMessage.payload,
    payloadOf_serializeFind rfl, SdPayload.deserializeFind_serializeFind]

/-- What happens while a service is looked for: a pass of `process_finds`, an offer that
is handled, or a call of the application. -/
inductive SearchMove (cfg : Config n) where
  | finds (timeMs : Nat)
  | offer (offered : SdPayload.Offer n) (nowMs : UInt32)
  | api (call : ApiCall cfg)

namespace SearchMove

def timeMs : SearchMove cfg → Option Nat
  | finds timeMs => some timeMs
  | _ => none

def offered : SearchMove cfg → Option (SdPayload.Offer n)
  | offer offered _ => some offered
  | _ => none

end SearchMove

namespace World

def search (env : Env cfg) (w : World cfg) : SearchMove cfg → World cfg
  | .finds timeMs => processFinds sdLens (sdHooks env) (clock 0 timeMs) w
  | .offer offered nowMs => w.handleOffer env offered nowMs
  | .api call => w.perform env (react env) call

def searchRun (env : Env cfg) (moves : List (SearchMove cfg)) (w : World cfg) : World cfg :=
  moves.foldl (search env) w

end World

/-- No offer of the service is accepted, and the application does not look for it again. -/
structure Unanswered (env : Env cfg) (serviceId : UInt16) (w : World cfg)
    (move : SearchMove cfg) : Prop where
  ignores : ∀ offered nowMs, move = .offer offered nowMs → offered.serviceId = serviceId →
    w.rt.sd.Ignores offered
  leaves : finds serviceId ((w.search env move).since w) = false

/-- The longest time between two passes. -/
def maxPassGapMs : Nat := 0x40000000

theorem maxPassGapMs_le : maxPassGapMs ≤ UInt32.size := by
  simp only [maxPassGapMs, UInt32.size]
  omega

/-- The clock of the passes does not go back and does not stop for long. -/
def SearchMove.Paced (lastMs : Nat) (move : SearchMove cfg) : Prop :=
  ∀ timeMs ∈ move.timeMs, lastMs ≤ timeMs ∧ timeMs < lastMs + maxPassGapMs

/-- A run in which a search goes unanswered, with the time of the pass before it. -/
def UnansweredRun (env : Env cfg) (serviceId : UInt16) :
    World cfg → Nat → List (SearchMove cfg) → Prop
  | _, _, [] => True
  | w, lastMs, move :: rest =>
      Unanswered env serviceId w move ∧ move.Paced lastMs ∧
        UnansweredRun env serviceId (w.search env move) (move.timeMs.getD lastMs) rest

instance (sd : ServiceDiscovery cfg) (offer : SdPayload.Offer n) : Decidable (sd.Ignores offer) :=
  decidable_of_iff (offer.ttlSeconds = 0 ∨ (sd.findConsumer offer.serviceId).all
      (fun entry => offer.majorVersion != entry.expectedMajor) = true) <| by
    rw [ServiceDiscovery.Ignores]
    cases sd.findConsumer offer.serviceId <;> simp

theorem unanswered_iff {w : World cfg} {move : SearchMove cfg} :
    Unanswered env serviceId w move ↔
      (∀ offered ∈ move.offered, offered.serviceId = serviceId → w.rt.sd.Ignores offered) ∧
        finds serviceId ((w.search env move).since w) = false := by
  constructor
  · rintro ⟨ignores, leaves⟩
    refine ⟨?_, leaves⟩
    intro offered handled
    cases move with
    | offer _ nowMs =>
        cases handled
        exact ignores offered nowMs rfl
    | _ => cases handled
  · rintro ⟨ignores, leaves⟩
    refine ⟨?_, leaves⟩
    rintro offered nowMs rfl
    exact ignores offered rfl

instance (w : World cfg) (move : SearchMove cfg) : Decidable (Unanswered env serviceId w move) :=
  decidable_of_iff _ unanswered_iff.symm

instance decidableUnansweredRun : (w : World cfg) → (lastMs : Nat) →
    (moves : List (SearchMove cfg)) → Decidable (UnansweredRun env serviceId w lastMs moves)
  | _, _, [] => instDecidableTrue
  | w, lastMs, move :: rest =>
      have := decidableUnansweredRun (w.search env move) (move.timeMs.getD lastMs) rest
      have : Decidable (move.Paced lastMs) :=
        inferInstanceAs (Decidable (∀ timeMs ∈ move.timeMs, _))
      instDecidableAnd

/-- The application listens for lost services throughout a run. -/
def StaysListening (env : Env cfg) : World cfg → List (SearchMove cfg) → Prop
  | _, [] => True
  | w, move :: rest =>
      Listens w ∧ ((w.search env move).since w).any Event.deafens = false ∧
        StaysListening env (w.search env move) rest

/-- The passes in which something is observed, once for each observation. -/
def observedPasses (env : Env cfg) (observes : Event cfg → Bool) :
    World cfg → List (SearchMove cfg) → List (Option Nat)
  | _, [] => []
  | w, move :: rest =>
      let after := w.search env move
      List.replicate ((after.since w).countP observes) move.timeMs ++
        observedPasses env observes after rest

/-! ## Steps around the entry -/

/-- A device at work on the search of a service, with its entry and its place. -/
structure Seeking (serviceId clientId : UInt16) (index : Nat) (entry : ConsumerEntry n)
    (w : World cfg) : Prop where
  here : w.rt.sd.consumers[index]? = some entry
  service : entry.serviceId = serviceId
  distinct : w.rt.sd.DistinctConsumers
  own : w.rt.sd.clientId = clientId

/-- Unless the application looks for the service again the entry becomes what is next, the
service having been asked for so often, and reported so often if the application listens. -/
def Advances (serviceId clientId : UInt16) (index : Nat) (entry next : ConsumerEntry n)
    (asked lost : Nat) (before after : World cfg) : Prop :=
  ∃ events, after.history = events ++ before.history ∧
    (finds serviceId events = false →
      Seeking serviceId clientId index entry before →
      Seeking serviceId clientId index next after ∧
        events.countP (Event.seeks serviceId) = asked ∧
        (events.any Event.deafens = false → Listens before →
          Listens after ∧ events.countP (Event.loses serviceId) = lost))

/-- The entry stays as it is, and nothing is heard of the service. -/
abbrev Spares (serviceId clientId : UInt16) (index : Nat) (entry : ConsumerEntry n)
    (before after : World cfg) : Prop :=
  Advances serviceId clientId index entry entry 0 0 before after

theorem countP_seeks_eq_zero {events : History cfg}
    (silent : events.filterMap Event.sdFrame = []) :
    events.countP (Event.seeks serviceId) = 0 := by
  have counted := countP_sdFrame (fun data => soughtIn data == some serviceId) events
  rw [silent] at counted
  exact counted

theorem countP_loses_eq_zero {events : History cfg}
    (quiet : ∀ event ∈ events, event.kind ≠ .callback) :
    events.countP (Event.loses serviceId) = 0 := by
  rw [List.countP_eq_zero]
  intro event member loses
  cases event with
  | callback told =>
      cases told with
      | serviceLost => exact quiet _ member rfl
      | _ => cases loses
  | _ => cases loses

namespace Advances

variable {index : Nat} {entry middle next : ConsumerEntry n} {asked lost moreAsked moreLost : Nat}
variable {first second third : World cfg}

theorem trans
    (left : Advances serviceId clientId index entry middle asked lost first second)
    (right : Advances serviceId clientId index middle next moreAsked moreLost second third) :
    Advances serviceId clientId index entry next (moreAsked + asked) (moreLost + lost)
      first third := by
  obtain ⟨older, olderEq, leftKeeps⟩ := left
  obtain ⟨newer, newerEq, rightKeeps⟩ := right
  refine ⟨newer ++ older, ?_, ?_⟩
  · rw [newerEq, olderEq, List.append_assoc]
  · intro leaves seeking
    rw [finds_append, Bool.or_eq_false_iff] at leaves
    obtain ⟨between, olderAsked, olderLost⟩ := leftKeeps leaves.2 seeking
    obtain ⟨after, newerAsked, newerLost⟩ := rightKeeps leaves.1 between
    rw [List.countP_append, newerAsked, olderAsked]
    refine ⟨after, rfl, ?_⟩
    intro hears listens
    rw [List.any_append, Bool.or_eq_false_iff] at hears
    obtain ⟨still, olderLost⟩ := olderLost hears.2 listens
    obtain ⟨final, newerLost⟩ := newerLost hears.1 still
    rw [List.countP_append, newerLost, olderLost]
    exact ⟨final, rfl⟩

/-- A stretch without discovery frames and discovery callbacks. -/
theorem of_silent {events : History cfg} (history : second.history = events ++ first.history)
    (traffic : second.traffic = first.traffic)
    (quiet : ∀ event ∈ events, event.kind ≠ .callback)
    (keeps : finds serviceId events = false → Seeking serviceId clientId index entry first →
      Seeking serviceId clientId index next second)
    (hears : events.any Event.deafens = false → Listens first → Listens second) :
    Advances serviceId clientId index entry next 0 0 first second := by
  have silent : events.filterMap Event.sdFrame = [] :=
    List.append_cancel_right ((World.traffic_append history).symm.trans
      (traffic.trans (List.nil_append _).symm))
  refine ⟨events, history, ?_⟩
  intro leaves seeking
  refine ⟨keeps leaves seeking, countP_seeks_eq_zero silent, ?_⟩
  exact fun listening listens => ⟨hears listening listens, countP_loses_eq_zero quiet⟩

theorem refl (w : World cfg) : Spares serviceId clientId index entry w w :=
  of_silent (List.nil_append _).symm rfl (by simp) (fun _ => id) fun _ => id

/-- A write of discovery's tables. -/
theorem write {update : ServiceDiscovery cfg → ServiceDiscovery cfg} {w : World cfg}
    (callbacks : (update w.rt.sd).callbacks = w.rt.sd.callbacks)
    (keeps : Seeking serviceId clientId index entry w →
      Seeking serviceId clientId index next (World.sdLens.modify update w)) :
    Advances serviceId clientId index entry next 0 0 w (World.sdLens.modify update w) := by
  have history : (World.sdLens.modify update w).history = [] ++ w.history := rfl
  refine of_silent history rfl (by simp) (fun _ => keeps) fun _ listens => ?_
  exact (congrArg SdCallbacks.onServiceLost callbacks).trans listens

/-- What is known of the entry may be used to show what becomes of it. -/
theorem of_seeking (grown : first.history <:+ second.history)
    (advances : Seeking serviceId clientId index entry first →
      Advances serviceId clientId index entry next asked lost first second) :
    Advances serviceId clientId index entry next asked lost first second := by
  obtain ⟨events, history⟩ := grown
  refine ⟨events, history.symm, ?_⟩
  intro leaves seeking
  obtain ⟨same, sameHistory, keeps⟩ := advances seeking
  cases List.append_cancel_right (sameHistory.symm.trans history.symm)
  exact keeps leaves seeking

end Advances

/-- Looking for another service. -/
theorem getElem?_find {sd : ServiceDiscovery cfg} {index : Nat} {entry : ConsumerEntry n}
    (here : sd.consumers[index]? = some entry) {wanted : UInt16}
    (other : entry.serviceId ≠ wanted) (major : UInt8) (nowMs : UInt32) :
    (sd.find wanted major nowMs).2.consumers[index]? = some entry := by
  rw [find]
  cases written : Table.upsert (fun entry => entry.serviceId == wanted)
      (ConsumerEntry.search wanted major nowMs) {} cfg.maxKnownServices sd.consumers with
  | none => exact here
  | some consumers => exact Table.getElem?_upsert written here (beq_false_of_ne other)

namespace World

theorem offer_callbacks (sd : ServiceDiscovery cfg) (serviceId : UInt16) (major minor : UInt8)
    (ttlSeconds : UInt16) (nowMs : UInt32) :
    (sd.offer serviceId major minor ttlSeconds nowMs).2.callbacks = sd.callbacks := by
  simp only [offer]
  split <;> rfl

/-- One call sets the discovery callbacks. -/
theorem apiCall_callbacks (body : World cfg → World cfg) {call : ApiCall cfg}
    (isLocal : call.isLocal = true) (other : ∀ callbacks, call ≠ .setSdCallbacks callbacks)
    (w : World cfg) : (w.apiCall env body call).2.rt.sd.callbacks = w.rt.sd.callbacks := by
  cases call with
  | request | fireAndForget | notifyEvent => cases isLocal
  | setSdCallbacks callbacks => exact absurd rfl (other callbacks)
  | offerService serviceId ttl now =>
      obtain ⟨sd, written, offer⟩ := w.offerService_rt serviceId ttl now
      change (w.offerService serviceId ttl now).2.rt.sd.callbacks = _
      rw [written]
      rcases offer with rfl | ⟨major, minor, rfl⟩
      · rfl
      · exact offer_callbacks ..
  | enableDiagnostics now auth =>
      obtain ⟨_, _, sd, _, written, offer⟩ := w.enableDiagnostics_rt now auth
      change (w.enableDiagnostics now auth).2.rt.sd.callbacks = _
      rw [written]
      rcases offer with rfl | ⟨major, minor, rfl⟩
      · rfl
      · exact offer_callbacks ..
  | findService wanted major now =>
      change (w.rt.sd.find wanted major now).2.callbacks = _
      rw [ServiceDiscovery.find]
      split <;> rfl
  | subscribeEvent service event context ttl now =>
      change (w.subscribeEvent service event context ttl now).2.rt.sd.callbacks = _
      rcases w.subscribeEvent_sd service event context ttl now with same | written
      · rw [same]
      · rw [written, ServiceDiscovery.subscribeEvent]
        split <;> rfl
  | reportDtc code severity now =>
      exact congrArg ServiceDiscovery.callbacks (w.reportDtc_sd code severity now)
  | _ => rfl

end World

section Spares

variable {index : Nat} {entry : ConsumerEntry n}

theorem Seeking.of_sd {first second : World cfg}
    (seeking : Seeking serviceId clientId index entry first)
    (same : second.rt.sd = first.rt.sd) : Seeking serviceId clientId index entry second := by
  constructor
  · rw [same]
    exact seeking.here
  · exact seeking.service
  · rw [same]
    exact seeking.distinct
  · rw [same]
    exact seeking.own

theorem Listens.of_sd {first second : World cfg} (listens : Listens first)
    (same : second.rt.sd = first.rt.sd) : Listens second := by
  rw [Listens, same]
  exact listens

/-- A call that does not look for the service. -/
theorem Seeking.perform {w : World cfg} {call : ApiCall cfg} {result : ApiResult}
    (seeking : Seeking serviceId clientId index entry w) (isLocal : call.isLocal = true)
    (other : finds serviceId [.returned call result] = false) :
    Seeking serviceId clientId index entry (w.perform env id call) := by
  constructor
  · change (w.apiCall env id call).2.rt.sd.consumers[index]? = some entry
    by_cases isFind : ∃ wanted major nowMs, call = .findService wanted major nowMs
    · obtain ⟨wanted, major, nowMs, rfl⟩ := isFind
      apply getElem?_find seeking.here
      rw [seeking.service]
      rw [finds, List.any_cons, Bool.or_eq_false_iff] at other
      exact Ne.symm (beq_eq_false_iff_ne.mp other.1)
    · have notFind : ∀ wanted major nowMs, call ≠ .findService wanted major nowMs :=
        fun wanted major nowMs same => isFind ⟨wanted, major, nowMs, same⟩
      rw [World.apiCall_consumers id isLocal notFind]
      exact seeking.here
  · exact seeking.service
  · exact (Atomic.perform isLocal w).distinctConsumers seeking.distinct
  · exact (World.apiCall_sdClientId id isLocal w).trans seeking.own

/-- A call that does not take `on_service_lost` away. -/
theorem Listens.perform {w : World cfg} {call : ApiCall cfg} {result : ApiResult}
    (listens : Listens w) (isLocal : call.isLocal = true)
    (hears : Event.deafens (.returned call result) = false) :
    Listens (w.perform env id call) := by
  change (w.apiCall env id call).2.rt.sd.callbacks.onServiceLost = true
  by_cases isSet : ∃ callbacks, call = .setSdCallbacks callbacks
  · obtain ⟨callbacks, rfl⟩ := isSet
    exact (Bool.not_eq_false' _).mp hears
  · have notSet : ∀ callbacks, call ≠ .setSdCallbacks callbacks :=
      fun callbacks same => isSet ⟨callbacks, same⟩
    rw [World.apiCall_callbacks id isLocal notSet]
    exact listens

theorem perform_spares {call : ApiCall cfg} (isLocal : call.isLocal = true) (w : World cfg) :
    Spares serviceId clientId index entry w (w.perform env id call) := by
  obtain ⟨quiet, called, kinds⟩ := (@World.apiCall_same _ _ env id call isLocal w).history
  have history : (w.perform env id call).history =
      (.returned call (w.apiCall env id call).1 :: quiet) ++ w.history :=
    congrArg (List.cons _) called
  have traffic : (w.perform env id call).traffic = w.traffic :=
    (World.traffic_emit rfl _).trans (World.apiCall_traffic id isLocal w)
  refine .of_silent history traffic ?_ ?_ ?_
  · intro event member told
    rcases List.mem_cons.mp member with rfl | member
    · rw [Event.kind, if_pos isLocal] at told
      cases told
    · exact Event.kind_ne kinds (by simp) (by simp) event member told
  · intro leaves seeking
    rw [← List.singleton_append, finds_append, Bool.or_eq_false_iff] at leaves
    exact seeking.perform isLocal leaves.1
  · intro hears listens
    rw [List.any_cons, Bool.or_eq_false_iff] at hears
    exact listens.perform isLocal hears.1

/-- A step that leaves discovery alone and runs no discovery callback. -/
theorem spares_of_sd {events : History cfg} {before after : World cfg}
    (history : after.history = events ++ before.history)
    (traffic : after.traffic = before.traffic)
    (quiet : ∀ event ∈ events, event.kind ≠ .callback)
    (same : after.rt.sd = before.rt.sd) :
    Spares serviceId clientId index entry before after :=
  .of_silent history traffic quiet (fun _ seeking => seeking.of_sd same)
    fun _ listens => listens.of_sd same

theorem CallStep.spares {before after : World cfg} (step : CallStep env before after) :
    Spares serviceId clientId index entry before after := by
  have plain : PlainSteps env before after := CallSteps.plainSteps (.single step)
  cases step with
  | count counter header =>
      have core := World.increment_core counter header before
      obtain ⟨events, history, kinds⟩ := core.history
      exact spares_of_sd history plain.traffic (Event.kind_ne kinds (by simp) (by simp))
        core.sd
  | @own kind _ _ isCall step =>
      have same := step.frame.sd
      obtain ⟨events, history, kinds⟩ := step.observes
      have quiet : ∀ event ∈ events, event.kind ≠ .callback := by
        apply Event.kind_ne kinds _ (by simp)
        rintro rfl
        cases isCall
      cases step with
      | perform isLocal => exact perform_spares isLocal before
      | background | validate | enterHandler | reply | callback | resetPeer | sdWrite
      | markRenewals => cases isCall
      | finish | submit | transmit | returned =>
          exact spares_of_sd history plain.traffic quiet (same (by simp))

theorem CallSteps.spares {before after : World cfg} (steps : CallSteps env before after) :
    Spares serviceId clientId index entry before after := by
  induction steps with
  | refl => exact .refl before
  | tail _ step ih => exact ih.trans step.spares

/-- Telling the application something else, and what it does then. -/
theorem callback_spares {callback : Callback n}
    (other : callback ≠ .serviceLost serviceId) (w : World cfg) :
    Spares serviceId clientId index entry w (w.callback env callback) := by
  have entered : Spares serviceId clientId index entry w (w.emit (.callback callback)) := by
    refine ⟨[.callback callback], rfl, ?_⟩
    intro _ seeking
    refine ⟨seeking.of_sd rfl, rfl, fun _ listens => ⟨listens, ?_⟩⟩
    rw [List.countP_singleton, if_neg]
    cases callback with
    | serviceLost lost =>
        change ¬(lost == serviceId) = true
        rw [beq_iff_eq]
        rintro rfl
        exact other rfl
    | _ => exact Bool.false_ne_true
  exact entered.trans (World.react_steps _).spares

theorem callServiceLost_spares {lost : UInt16} (other : lost ≠ serviceId) (w : World cfg) :
    Spares serviceId clientId index entry w
      (callServiceLost World.sdLens (World.sdHooks env) lost w) := by
  rw [callServiceLost]
  split
  · exact callback_spares (fun same => other (Callback.serviceLost.inj same)) w
  · exact .refl w

theorem callServiceFound_spares (found : UInt16) (provider : Address n) (w : World cfg) :
    Spares serviceId clientId index entry w
      (callServiceFound World.sdLens (World.sdHooks env) found provider w) := by
  rw [callServiceFound]
  split
  · exact callback_spares (by simp) w
  · exact .refl w

theorem resetPeer_spares (addr : Address n) (w : World cfg) :
    Spares serviceId clientId index entry w (w.resetPeer addr) := by
  have history : (w.resetPeer addr).history = [.peerReset addr] ++ w.history := rfl
  refine spares_of_sd history rfl ?_ rfl
  intro event member
  rw [List.mem_singleton.mp member]
  simp [Event.kind]

/-- Writing the entry of another service. -/
theorem updateConsumer_spares {other : UInt16} (differs : other ≠ serviceId)
    {update : ConsumerEntry n → ConsumerEntry n}
    (keeps : ∀ entry, (update entry).serviceId = entry.serviceId) (w : World cfg) :
    Spares serviceId clientId index entry w
      (World.sdLens.modify (fun sd => sd.updateConsumer other update) w) := by
  apply Advances.write rfl
  intro seeking
  have elsewhere : (entry.serviceId == other) = false := by
    rw [seeking.service]
    exact beq_false_of_ne (Ne.symm differs)
  exact {
    here := Table.getElem?_updateFirst update seeking.here elsewhere
    service := seeking.service
    distinct := seeking.distinct.updateConsumer other keeps
    own := seeking.own }

/-- Treating an offer of another service. -/
theorem treatOffer_spares {offer : SdPayload.Offer n} (other : offer.serviceId ≠ serviceId)
    (nowMs : UInt32) (w : World cfg) (kind : OfferKind) :
    Spares serviceId clientId index entry w (w.treatOffer env offer nowMs kind) := by
  have recorded : ∀ w : World cfg,
      Spares serviceId clientId index entry w (w.recordOffer offer nowMs) :=
    updateConsumer_spares other fun _ => rfl
  have found : ∀ w : World cfg,
      Spares serviceId clientId index entry w (w.markFound offer.serviceId) :=
    updateConsumer_spares other fun _ => rfl
  have flagged : ∀ w : World cfg,
      Spares serviceId clientId index entry w (w.flagResubscribe offer.serviceId nowMs) :=
    fun w => .write rfl fun seeking => ⟨seeking.here, seeking.service, seeking.distinct,
      seeking.own⟩
  have lost : ∀ w : World cfg,
      Spares serviceId clientId index entry w (w.notifyLost env offer.serviceId) :=
    callServiceLost_spares other
  have told : ∀ w : World cfg,
      Spares serviceId clientId index entry w (w.notifyFound env offer) :=
    callServiceFound_spares offer.serviceId offer.providerAddr
  cases kind with
  | reboot =>
      have down := ((resetPeer_spares offer.providerAddr w).trans (recorded _)).trans (lost _)
      exact ((down.trans (found _)).trans (told _)).trans (flagged _)
  | newlyFound => exact (((recorded w).trans (found _)).trans (flagged _)).trans (told _)
  | providerChange => exact ((recorded w).trans (flagged _)).trans (told _)
  | renewal => exact recorded w

theorem handleOffer_spares {offer : SdPayload.Offer n} {w : World cfg}
    (unanswered : offer.serviceId = serviceId → w.rt.sd.Ignores offer) (nowMs : UInt32) :
    Spares serviceId clientId index entry w (w.handleOffer env offer nowMs) := by
  have ignores : w.rt.sd.Ignores offer →
      Spares serviceId clientId index entry w (w.handleOffer env offer nowMs) := by
    intro ignored
    rw [World.handleOffer_eq_of_ignored ignored]
    split
    · exact resetPeer_spares offer.providerAddr w
    · exact .refl w
  by_cases same : offer.serviceId = serviceId
  · exact ignores (unanswered same)
  · rcases World.accepted_or_ignored offer w with ⟨entry, accepted⟩ | ignored
    · rw [World.handleOffer_accepted accepted]
      exact treatOffer_spares same nowMs w _
    · exact ignores ignored

end Spares

section Pass

variable {index : Nat} {entry : ConsumerEntry n} (roomy : 8 + n ≤ cfg.maxPayloadSize)

/-- Is the service asked for in a pass? -/
def ConsumerEntry.isSought (nowMs : UInt32) (entry : ConsumerEntry n) : Bool :=
  decide (entry.state = .searching) && timeAfterOrEq nowMs entry.nextRetryMs

/-- Is that the last time? -/
def ConsumerEntry.isGivenUp (cfg : Config n) (nowMs : UInt32) (entry : ConsumerEntry n) : Bool :=
  ConsumerEntry.isSought nowMs entry && decide (cfg.sdFindRetryCount < entry.retryCount + 1)

/-- What a pass makes of an entry. -/
def ConsumerEntry.pursue (sd : ServiceDiscovery cfg) (nowMs : UInt32)
    (entry : ConsumerEntry n) : ConsumerEntry n :=
  let retryCount := entry.retryCount + 1
  if ConsumerEntry.isGivenUp cfg nowMs entry then { entry with retryCount, state := .notFound }
  else if ConsumerEntry.isSought nowMs entry then
    { entry with retryCount, nextRetryMs := sd.nextRetry entry.serviceId retryCount nowMs }
  else entry

/-- The schedule depends on the device by its client id only. -/
theorem pursue_congr {sd other : ServiceDiscovery cfg} (same : other.clientId = sd.clientId)
    (nowMs : UInt32) (entry : ConsumerEntry n) :
    ConsumerEntry.pursue other nowMs entry = ConsumerEntry.pursue sd nowMs entry := by
  rw [ConsumerEntry.pursue, ConsumerEntry.pursue, nextRetry_congr same]

include roomy in
/-- Asking for a service. -/
theorem broadcastFind_advances (wanted : UInt16) (w : World cfg) :
    Advances serviceId clientId index entry entry (decide (wanted = serviceId)).toNat 0 w
      (w.sendSdBroadcast env (.find wanted)) := by
  have core := @World.sendSdBroadcast_core _ _ env (.find wanted) w
  have traffic : (w.sendSdBroadcast env (.find wanted)).traffic = _ :=
    sendSdBroadcast_traffic (SdMessage.fits roomy _ _)
  obtain ⟨events, history, kinds⟩ := core.history
  have frames : events.filterMap Event.sdFrame =
      [(none, (SdMessage.find wanted).frame w.rt.sd.clientId w.rt.sdSeq)] :=
    List.append_cancel_right ((World.traffic_append history).symm.trans traffic)
  refine ⟨events, history, ?_⟩
  intro _ seeking
  refine ⟨seeking.of_sd core.sd, ?_, fun _ listens => ⟨listens.of_sd core.sd, ?_⟩⟩
  · have counted := countP_sdFrame (fun data => soughtIn data == some serviceId) events
    rw [frames, List.countP_singleton, soughtIn_find] at counted
    refine Eq.trans counted ?_
    by_cases same : wanted = serviceId <;> simp [same]
  · exact countP_loses_eq_zero (Event.kind_ne kinds (by simp) (by simp))

section Writes

variable {write : ServiceDiscovery cfg → ServiceDiscovery cfg}
variable {change : ConsumerEntry n → ConsumerEntry n} {position : Nat} {w : World cfg}

theorem Seeking.modify {next : ConsumerEntry n}
    (seeking : Seeking serviceId clientId index entry w)
    (consumers : (write w.rt.sd).consumers = w.rt.sd.consumers.modify position change)
    (own : (write w.rt.sd).clientId = w.rt.sd.clientId)
    (keeps : ∀ entry, (change entry).serviceId = entry.serviceId)
    (written : (w.rt.sd.consumers.modify position change)[index]? = some next)
    (service : next.serviceId = serviceId) :
    Seeking serviceId clientId index next (World.sdLens.modify write w) where
  here := by
    change (write w.rt.sd).consumers[index]? = some next
    rw [consumers]
    exact written
  service := service
  distinct := by
    change (write w.rt.sd).DistinctConsumers
    rw [DistinctConsumers, consumers]
    exact Table.Distinct.modify seeking.distinct keeps position
  own := own.trans seeking.own

/-- Writing the entry itself. -/
theorem modify_advances
    (consumers : (write w.rt.sd).consumers = w.rt.sd.consumers.modify index change)
    (callbacks : (write w.rt.sd).callbacks = w.rt.sd.callbacks)
    (own : (write w.rt.sd).clientId = w.rt.sd.clientId)
    (keeps : ∀ entry, (change entry).serviceId = entry.serviceId) :
    Advances serviceId clientId index entry (change entry) 0 0 w
      (World.sdLens.modify write w) := by
  apply Advances.write callbacks
  intro seeking
  apply seeking.modify consumers own keeps
  · rw [List.getElem?_modify_eq, seeking.here]
    rfl
  · exact (keeps entry).trans seeking.service

/-- Writing another entry. -/
theorem modify_spares (elsewhere : position ≠ index)
    (consumers : (write w.rt.sd).consumers = w.rt.sd.consumers.modify position change)
    (callbacks : (write w.rt.sd).callbacks = w.rt.sd.callbacks)
    (own : (write w.rt.sd).clientId = w.rt.sd.clientId)
    (keeps : ∀ entry, (change entry).serviceId = entry.serviceId) :
    Spares serviceId clientId index entry w (World.sdLens.modify write w) := by
  apply Advances.write callbacks
  intro seeking
  apply seeking.modify consumers own keeps
  · rw [List.getElem?_modify_ne _ _ elsewhere]
    exact seeking.here
  · exact seeking.service

theorem giveUpFind_spares (elsewhere : position ≠ index) (retryCount : UInt8) (w : World cfg) :
    Spares serviceId clientId index entry w
      (World.sdLens.modify (fun sd => sd.giveUpFind position retryCount) w) := by
  have consumers : (w.rt.sd.giveUpFind position retryCount).consumers =
    w.rt.sd.consumers.modify position
      fun entry => { entry with retryCount, state := .notFound } := rfl
  apply modify_spares elsewhere consumers
  · rfl
  · rfl
  · exact fun _ => rfl

theorem scheduleRetry_spares (elsewhere : position ≠ index) (retryCount : UInt8)
    (nowMs : UInt32) (w : World cfg) :
    Spares serviceId clientId index entry w
      (World.sdLens.modify (fun sd => sd.scheduleRetry position retryCount nowMs) w) := by
  have consumers : (w.rt.sd.scheduleRetry position retryCount nowMs).consumers =
    w.rt.sd.consumers.modify position fun entry =>
      { entry with
        retryCount, nextRetryMs := w.rt.sd.nextRetry entry.serviceId retryCount nowMs } := rfl
  apply modify_spares elsewhere consumers
  · rfl
  · rfl
  · exact fun _ => rfl

theorem giveUpFind_advances (retryCount : UInt8) (w : World cfg) :
    Advances serviceId clientId index entry { entry with retryCount, state := .notFound } 0 0 w
      (World.sdLens.modify (fun sd => sd.giveUpFind index retryCount) w) := by
  have consumers : (w.rt.sd.giveUpFind index retryCount).consumers =
    w.rt.sd.consumers.modify index
      fun entry => { entry with retryCount, state := .notFound } := rfl
  apply modify_advances consumers
  · rfl
  · rfl
  · exact fun _ => rfl

theorem scheduleRetry_advances (retryCount : UInt8) (nowMs : UInt32) (w : World cfg) :
    Advances serviceId clientId index entry
      { entry with
        retryCount, nextRetryMs := w.rt.sd.nextRetry entry.serviceId retryCount nowMs } 0 0 w
      (World.sdLens.modify (fun sd => sd.scheduleRetry index retryCount nowMs) w) := by
  have consumers : (w.rt.sd.scheduleRetry index retryCount nowMs).consumers =
    w.rt.sd.consumers.modify index fun entry =>
      { entry with
        retryCount, nextRetryMs := w.rt.sd.nextRetry entry.serviceId retryCount nowMs } := rfl
  apply modify_advances consumers
  · rfl
  · rfl
  · exact fun _ => rfl

end Writes

/-- The application is told that the service is lost, if it listens. -/
theorem callServiceLost_advances (w : World cfg) :
    Advances serviceId clientId index entry entry 0 1 w
      (callServiceLost World.sdLens (World.sdHooks env) serviceId w) := by
  have entered : Advances serviceId clientId index entry entry 0 1 w
      (w.emit (.callback (.serviceLost serviceId))) := by
    refine ⟨[.callback (.serviceLost serviceId)], rfl, ?_⟩
    intro _ seeking
    refine ⟨seeking.of_sd rfl, rfl, fun _ listens => ⟨listens, ?_⟩⟩
    rw [List.countP_singleton, if_pos]
    exact beq_self_eq_true serviceId
  rw [callServiceLost, World.sdLens_get]
  by_cases listens : w.rt.sd.callbacks.onServiceLost = true
  · rw [if_pos listens]
    exact entered.trans (World.react_steps _).spares
  · rw [if_neg listens]
    exact ⟨[], rfl, fun _ seeking => ⟨seeking, rfl, fun _ hears => absurd hears listens⟩⟩

include roomy in
/-- The turn of the entry. -/
theorem processFind_advances (nowMs : UInt32) (w : World cfg) :
    Advances serviceId clientId index entry (ConsumerEntry.pursue w.rt.sd nowMs entry)
      (ConsumerEntry.isSought nowMs entry).toNat (ConsumerEntry.isGivenUp cfg nowMs entry).toNat
      w (processFind World.sdLens (World.sdHooks env) nowMs w index) := by
  apply Advances.of_seeking (World.processFind_steps nowMs w index).suffix
  intro seeking
  have service := seeking.service
  subst service
  have here : (World.sdLens.get w).consumers[index]? = some entry := seeking.here
  have sent := @broadcastFind_advances _ _ env entry.serviceId clientId index entry roomy
    entry.serviceId w
  rw [decide_eq_true rfl] at sent
  rw [processFind, here, ConsumerEntry.pursue, ConsumerEntry.isGivenUp]
  dsimp only
  cases sought : ConsumerEntry.isSought nowMs entry with
  | false =>
      have early : ¬(entry.state = .searching ∧
          timeAfterOrEq nowMs entry.nextRetryMs = true) := by
        simpa [ConsumerEntry.isSought] using sought
      rw [if_neg early]
      exact .refl w
  | true =>
      have due : entry.state = .searching ∧ timeAfterOrEq nowMs entry.nextRetryMs = true := by
        simpa [ConsumerEntry.isSought] using sought
      rw [if_pos due, Bool.true_and]
      by_cases exhausted : cfg.sdFindRetryCount < entry.retryCount + 1
      · rw [decide_eq_true exhausted, if_pos exhausted, if_pos rfl]
        have given := @giveUpFind_advances _ _ entry.serviceId clientId index entry
          (entry.retryCount + 1) (w.sendSdBroadcast env (.find entry.serviceId))
        exact sent.trans (given.trans (callServiceLost_advances _))
      · rw [decide_eq_false exhausted, if_neg exhausted, if_neg Bool.false_ne_true, if_pos rfl]
        have same : (w.sendSdBroadcast env (.find entry.serviceId)).rt.sd = w.rt.sd :=
          (World.sendSdBroadcast_core _ w).sd
        rw [← nextRetry_congr (congrArg ServiceDiscovery.clientId same)]
        exact sent.trans (scheduleRetry_advances _ nowMs _)

include roomy in
/-- The turn of another entry. -/
theorem processFind_spares {position : Nat} (elsewhere : position ≠ index) (nowMs : UInt32)
    (w : World cfg) :
    Spares serviceId clientId index entry w
      (processFind World.sdLens (World.sdHooks env) nowMs w position) := by
  apply Advances.of_seeking (World.processFind_steps nowMs w position).suffix
  intro seeking
  rw [processFind, World.sdLens_get]
  cases here : w.rt.sd.consumers[position]? with
  | none => exact .refl w
  | some other =>
      have differs : other.serviceId ≠ serviceId := by
        intro same
        have within := (List.getElem?_eq_some_iff.mp seeking.here).1
        have inTable : index < (w.rt.sd.consumers.map ConsumerEntry.serviceId).length := by
          rw [List.length_map]
          exact within
        apply elsewhere
        apply Eq.symm
        rw [← List.getElem?_inj inTable seeking.distinct, List.getElem?_map, List.getElem?_map,
          seeking.here, here, Option.map_some, Option.map_some, same, seeking.service]
      have sent := @broadcastFind_advances _ _ env serviceId clientId index entry roomy
        other.serviceId w
      rw [decide_eq_false differs] at sent
      dsimp only
      split
      · split
        · have given := @giveUpFind_spares _ _ serviceId clientId index entry _ elsewhere
            (other.retryCount + 1) (w.sendSdBroadcast env (.find other.serviceId))
          exact sent.trans (given.trans (callServiceLost_spares differs _))
        · exact sent.trans (scheduleRetry_spares elsewhere _ nowMs _)
      · exact .refl w

include roomy in
theorem processFinds_spares {positions : List Nat} (elsewhere : index ∉ positions)
    (nowMs : UInt32) (w : World cfg) :
    Spares serviceId clientId index entry w
      (positions.foldl (processFind World.sdLens (World.sdHooks env) nowMs) w) := by
  induction positions generalizing w with
  | nil => exact .refl w
  | cons position rest ih =>
      rw [List.mem_cons, not_or] at elsewhere
      exact (processFind_spares roomy (Ne.symm elsewhere.1) nowMs w).trans (ih elsewhere.2 _)

include roomy in
/-- A pass comes to the entry once. -/
theorem processFinds_advances (inTable : index < cfg.maxKnownServices) (nowMs : UInt32)
    (w : World cfg) :
    Advances serviceId clientId index entry (ConsumerEntry.pursue w.rt.sd nowMs entry)
      (ConsumerEntry.isSought nowMs entry).toNat (ConsumerEntry.isGivenUp cfg nowMs entry).toNat
      w (processFinds World.sdLens (World.sdHooks env) nowMs w) := by
  obtain ⟨earlier, later, split⟩ := List.append_of_mem (List.mem_range.mpr inTable)
  have distinct : (earlier ++ index :: later).Nodup := split ▸ List.nodup_range
  have notEarlier : index ∉ earlier := fun member =>
    (List.nodup_append.mp distinct).2.2 index member index (.head _) rfl
  have notLater : index ∉ later :=
    (List.nodup_cons.mp (List.nodup_append.mp distinct).2.1).1
  rw [processFinds, split, List.foldl_append, List.foldl_cons]
  have before := @processFinds_spares _ _ env serviceId clientId index entry roomy _ notEarlier
    nowMs w
  have ids := (Steps.clientIds (Runs.foldl
    (fun w position => @World.processFind_steps _ _ env nowMs w position) earlier w)).2
  have turn := @processFind_advances _ _ env serviceId clientId index entry roomy nowMs
    (earlier.foldl (processFind World.sdLens (World.sdHooks env) nowMs) w)
  rw [pursue_congr ids] at turn
  have after := @processFinds_spares _ _ env serviceId clientId index
    (ConsumerEntry.pursue w.rt.sd nowMs entry) roomy _ notLater nowMs
    (processFind World.sdLens (World.sdHooks env) nowMs
      (earlier.foldl (processFind World.sdLens (World.sdHooks env) nowMs) w) index)
  have whole := (before.trans turn).trans after
  simpa only [Nat.add_zero, Nat.zero_add] using whole

end Pass

/-- An entry whose search stands where the attempts stand. -/
structure Mirrors (cfg : Config n) (attempts : Attempts) (entry : ConsumerEntry n) : Prop where
  state : entry.state =
    if attempts.made ≤ cfg.sdFindRetryCount.toNat then .searching else .notFound
  made : entry.retryCount.toNat = attempts.made
  due : attempts.made ≤ cfg.sdFindRetryCount.toNat →
    entry.nextRetryMs = clock 0 attempts.dueMs

namespace Mirrors

variable {attempts : Attempts} {entry : ConsumerEntry n} {lastMs timeMs : Nat}
variable (mirrors : Mirrors cfg attempts entry)
  (punctual : attempts.Punctual cfg.sdFindRetryCount.toNat maxPassGapMs lastMs)
  (paced : lastMs ≤ timeMs ∧ timeMs < lastMs + maxPassGapMs)

include mirrors punctual paced

/-- The service is asked for when an attempt is due. -/
theorem isSought : ConsumerEntry.isSought (clock 0 timeMs) entry =
    attempts.isDue cfg.sdFindRetryCount.toNat timeMs := by
  rw [ConsumerEntry.isSought, mirrors.state, Attempts.isDue]
  by_cases within : attempts.made ≤ cfg.sdFindRetryCount.toNat
  · obtain ⟨afterLast, soon⟩ := punctual within
    rw [maxPassGapMs] at soon paced
    have compared := @timeAfterOrEq_clock 0 timeMs attempts.dueMs (by omega) (by omega)
    rw [if_pos within, mirrors.due within, decide_eq_true rfl, decide_eq_true within,
      Bool.true_and, Bool.true_and]
    by_cases due : attempts.dueMs ≤ timeMs
    · rw [decide_eq_true due]
      exact compared.mpr due
    · rw [decide_eq_false due]
      exact Bool.eq_false_iff.mpr (mt compared.mp due)
  · rw [if_neg within, decide_eq_false within]
    rfl

theorem isGivenUp (counted : cfg.sdFindRetryCount.toNat < 255) :
    ConsumerEntry.isGivenUp cfg (clock 0 timeMs) entry =
      (attempts.isDue cfg.sdFindRetryCount.toNat timeMs &&
        decide (attempts.made = cfg.sdFindRetryCount.toNat)) := by
  rw [ConsumerEntry.isGivenUp, mirrors.isSought punctual paced]
  cases due : attempts.isDue cfg.sdFindRetryCount.toNat timeMs with
  | false => rfl
  | true =>
      have within := (Attempts.isDue_iff.mp due).1
      have made := mirrors.made
      have next : (entry.retryCount + 1).toNat = attempts.made + 1 := by
        rw [UInt8.toNat_add, made]
        change (attempts.made + 1) % 256 = _
        omega
      rw [Bool.true_and, Bool.true_and, decide_eq_decide, UInt8.lt_iff_toNat_lt, next]
      omega

/-- A pass makes of the entry what it makes of the attempts. -/
theorem pursue (ends : SearchesEnd maxPassGapMs cfg) (sd : ServiceDiscovery cfg) :
    Mirrors cfg
      (attempts.look cfg.sdFindRetryCount.toNat (sd.retryWaitMs entry.serviceId) timeMs)
      (ConsumerEntry.pursue sd (clock 0 timeMs) entry) := by
  have counted := ends.counted
  rw [ConsumerEntry.pursue, mirrors.isGivenUp punctual paced counted,
    mirrors.isSought punctual paced]
  by_cases due : attempts.isDue cfg.sdFindRetryCount.toNat timeMs = true
  · have within := (Attempts.isDue_iff.mp due).1
    have next : (entry.retryCount + 1).toNat = attempts.made + 1 := by
      rw [UInt8.toNat_add, mirrors.made]
      change (attempts.made + 1) % 256 = _
      omega
    rw [Attempts.look_of_due due, due, Bool.true_and]
    by_cases last : attempts.made = cfg.sdFindRetryCount.toNat
    · have exhausted : ¬attempts.made + 1 ≤ cfg.sdFindRetryCount.toNat := by omega
      rw [decide_eq_true last, if_pos rfl]
      exact ⟨(if_neg exhausted).symm, next, fun within => absurd within exhausted⟩
    · have more : attempts.made + 1 ≤ cfg.sdFindRetryCount.toNat := by omega
      have isWithin : entry.retryCount + 1 ≤ cfg.sdFindRetryCount := by
        rw [UInt8.le_iff_toNat_le, next]
        exact more
      rw [decide_eq_false last, if_neg Bool.false_ne_true, if_pos rfl]
      refine ⟨?_, next, fun _ => ?_⟩
      · rw [if_pos more]
        exact mirrors.state.trans (if_pos within)
      · have scheduled := nextRetry_clock ends maxPassGapMs_le sd entry.serviceId isWithin 0
          timeMs
        rw [next] at scheduled
        dsimp only
        exact scheduled
  · rw [Attempts.look_of_early due, Bool.eq_false_iff.mpr due, Bool.false_and,
      if_neg Bool.false_ne_true, if_neg Bool.false_ne_true]
    exact mirrors

end Mirrors

/-! ## Whole runs of the search -/

/-- No step overfills the table of the services looked for. -/
theorem Atomic.consumers_length_le {kind : StepKind} {before after : World cfg}
    (fits : before.rt.sd.consumers.length ≤ cfg.maxKnownServices)
    (step : Atomic env kind before after) :
    after.rt.sd.consumers.length ≤ cfg.maxKnownServices := by
  have same := step.frame.sd
  cases step with
  | @perform call isLocal w =>
      change (before.apiCall env id call).2.rt.sd.consumers.length ≤ _
      by_cases isFind : ∃ wanted major nowMs, call = .findService wanted major nowMs
      · obtain ⟨wanted, major, nowMs, rfl⟩ := isFind
        exact find_length _ wanted major nowMs fits
      · have notFind : ∀ wanted major nowMs, call ≠ .findService wanted major nowMs :=
          fun wanted major nowMs equal => isFind ⟨wanted, major, nowMs, equal⟩
        rw [World.apiCall_consumers id isLocal notFind]
        exact fits
  | sdWrite write =>
      cases write with
      | recordOffer | markFound => exact (Table.updateFirst_length _ _ _).trans_le fits
      | giveUpFind | scheduleRetry | expireConsumer =>
          exact (List.length_modify _ _ _).trans_le fits
      | flagResubscribe | recordAck | processOffers => exact fits
  | markRenewals => exact fits
  | _ =>
      rw [same (by simp)]
      exact fits

section Run

variable {sd : ServiceDiscovery cfg} {index lastMs : Nat} {attempts : Attempts} {w : World cfg}

theorem retryWaitMs_congr {sd other : ServiceDiscovery cfg} (same : other.clientId = sd.clientId)
    (wanted : UInt16) : other.retryWaitMs wanted = sd.retryWaitMs wanted := by
  funext retry
  rw [retryWaitMs, retryWaitMs, computeJitter, computeJitter, same]

/-- The search of a device stands where the attempts stand. -/
structure Pursues (sd : ServiceDiscovery cfg) (serviceId : UInt16) (index lastMs : Nat)
    (attempts : Attempts) (w : World cfg) : Prop where
  entry : ∃ entry, Seeking serviceId sd.clientId index entry w ∧ Mirrors cfg attempts entry
  punctual : attempts.Punctual cfg.sdFindRetryCount.toNat maxPassGapMs lastMs

/-- What a move makes of the attempts. -/
def SearchMove.advance (sd : ServiceDiscovery cfg) (serviceId : UInt16) (move : SearchMove cfg)
    (attempts : Attempts) : Attempts :=
  attempts.after cfg.sdFindRetryCount.toNat (sd.retryWaitMs serviceId) move.timeMs.toList

/-- Is the service asked for in a move, given the attempts so far? -/
def SearchMove.asks (attempts : Attempts) (move : SearchMove cfg) : Bool :=
  move.timeMs.any (attempts.isDue cfg.sdFindRetryCount.toNat)

theorem World.search_advances (roomy : 8 + n ≤ cfg.maxPayloadSize)
    (ends : SearchesEnd maxPassGapMs cfg) (inTable : index < cfg.maxKnownServices)
    (pursues : Pursues sd serviceId index lastMs attempts w) {move : SearchMove cfg}
    (unanswered : Unanswered env serviceId w move) (paced : move.Paced lastMs) :
    Pursues sd serviceId index (move.timeMs.getD lastMs) (move.advance sd serviceId attempts)
        (w.search env move) ∧
      ((w.search env move).since w).countP (Event.seeks serviceId) =
        (move.asks attempts).toNat ∧
      (((w.search env move).since w).any Event.deafens = false → Listens w →
        Listens (w.search env move) ∧
        ((w.search env move).since w).countP (Event.loses serviceId) =
          (move.asks attempts && decide (attempts.made = cfg.sdFindRetryCount.toNat)).toNat) := by
  obtain ⟨entry, seeking, mirrors⟩ := pursues.entry
  have advanced : ∀ {next asked lost},
      Advances serviceId sd.clientId index entry next asked lost w (w.search env move) →
      Seeking serviceId sd.clientId index next (w.search env move) ∧
        ((w.search env move).since w).countP (Event.seeks serviceId) = asked ∧
        (((w.search env move).since w).any Event.deafens = false → Listens w →
          Listens (w.search env move) ∧
            ((w.search env move).since w).countP (Event.loses serviceId) = lost) := by
    rintro next asked lost ⟨events, history, keeps⟩
    rw [World.since_eq history]
    exact keeps (World.since_eq history ▸ unanswered.leaves) seeking
  cases move with
  | finds timeMs =>
      have within := paced timeMs rfl
      have service := seeking.service
      have waits : ∀ made, made ≤ cfg.sdFindRetryCount.toNat →
          sd.retryWaitMs serviceId made < maxPassGapMs :=
        fun made => retryWaitMs_lt ends sd serviceId
      obtain ⟨after, asked, lost⟩ := advanced
        (processFinds_advances roomy inTable (clock 0 timeMs) w)
      have next := mirrors.pursue pursues.punctual within ends w.rt.sd
      rw [retryWaitMs_congr seeking.own, service] at next
      rw [mirrors.isSought pursues.punctual within] at asked
      rw [mirrors.isGivenUp pursues.punctual within ends.counted] at lost
      exact ⟨⟨⟨_, after, next⟩, pursues.punctual.look waits within.1⟩, asked, lost⟩
  | offer offered nowMs =>
      obtain ⟨after, asked, lost⟩ := advanced
        (handleOffer_spares (unanswered.ignores offered nowMs rfl) nowMs)
      exact ⟨⟨⟨entry, after, mirrors⟩, pursues.punctual⟩, asked, lost⟩
  | api call =>
      obtain ⟨after, asked, lost⟩ := advanced
        (World.perform_steps World.react_steps call w).spares
      exact ⟨⟨⟨entry, after, mirrors⟩, pursues.punctual⟩, asked, lost⟩

/-- The time of the last pass. -/
def lastPass (lastMs : Nat) (moves : List (SearchMove cfg)) : Nat :=
  moves.foldl (fun lastMs move => move.timeMs.getD lastMs) lastMs

theorem unansweredRun_append (earlier later : List (SearchMove cfg)) :
    UnansweredRun env serviceId w lastMs (earlier ++ later) ↔
      UnansweredRun env serviceId w lastMs earlier ∧
        UnansweredRun env serviceId (World.searchRun env earlier w) (lastPass lastMs earlier)
          later := by
  induction earlier generalizing w lastMs with
  | nil => exact Iff.of_eq (true_and _).symm
  | cons move rest ih =>
      rw [List.cons_append, UnansweredRun, UnansweredRun, ih, and_assoc, and_assoc]
      rfl

theorem World.searchRun_advances (roomy : 8 + n ≤ cfg.maxPayloadSize)
    (ends : SearchesEnd maxPassGapMs cfg) (inTable : index < cfg.maxKnownServices)
    {moves : List (SearchMove cfg)} (pursues : Pursues sd serviceId index lastMs attempts w)
    (run : UnansweredRun env serviceId w lastMs moves) :
    let limit := cfg.sdFindRetryCount.toNat
    let passes := moves.filterMap SearchMove.timeMs
    Pursues sd serviceId index (lastPass lastMs moves)
        (attempts.after limit (sd.retryWaitMs serviceId) passes) (World.searchRun env moves w) ∧
      observedPasses env (Event.seeks serviceId) w moves =
        (attempts.times limit (sd.retryWaitMs serviceId) passes).map some ∧
      (StaysListening env w moves →
        observedPasses env (Event.loses serviceId) w moves =
          (attempts.endings limit (sd.retryWaitMs serviceId) passes).map some) := by
  intro limit passes
  induction moves generalizing w lastMs attempts with
  | nil => exact ⟨pursues, rfl, fun _ => rfl⟩
  | cons move rest ih =>
      obtain ⟨unanswered, paced, others⟩ := run
      obtain ⟨after, asked, lost⟩ := search_advances roomy ends inTable pursues unanswered paced
      obtain ⟨final, laterAsked, laterLost⟩ := ih after others
      rw [observedPasses, asked, laterAsked]
      have ticks : passes = move.timeMs.toList ++ rest.filterMap SearchMove.timeMs := by
        cases move <;> rfl
      have whole : attempts.after limit (sd.retryWaitMs serviceId) passes =
          (move.advance sd serviceId attempts).after limit (sd.retryWaitMs serviceId)
            (rest.filterMap SearchMove.timeMs) := by
        rw [ticks, Attempts.after_append]
        rfl
      rw [whole]
      refine ⟨final, ?_, ?_⟩
      · rw [ticks, SearchMove.asks, SearchMove.advance]
        cases move.timeMs with
        | none => rfl
        | some timeMs =>
            rw [Option.any_some, Option.toList_some, List.singleton_append, Attempts.times]
            cases attempts.isDue cfg.sdFindRetryCount.toNat timeMs <;> rfl
      · rintro ⟨listens, hears, stays⟩
        rw [observedPasses, (lost hears listens).2, laterLost stays]
        rw [ticks, SearchMove.asks, SearchMove.advance]
        cases move.timeMs with
        | none => rfl
        | some timeMs =>
            rw [Option.any_some, Option.toList_some, List.singleton_append, Attempts.endings]
            cases attempts.isDue cfg.sdFindRetryCount.toNat timeMs &&
              decide (attempts.made = cfg.sdFindRetryCount.toNat) <;> rfl

end Run

/-- `find_service`. -/
def World.lookFor (env : Env cfg) (serviceId : UInt16) (major : UInt8) (startMs : Nat)
    (w : World cfg) : World cfg :=
  w.perform env (World.react env) (.findService serviceId major (clock 0 startMs))

/-- A search that starts at a time, left to the schedule. -/
def ServiceDiscovery.scheduled (sd : ServiceDiscovery cfg) (serviceId : UInt16) (startMs : Nat)
    (moves : List (SearchMove cfg)) : Attempts :=
  Attempts.after cfg.sdFindRetryCount.toNat (sd.retryWaitMs serviceId) ⟨0, startMs⟩
    (moves.filterMap SearchMove.timeMs)

/-- A search so far: the service is asked for in the passes in which that is due, as long as
it is searched for, and reported lost in the last of them if the application listens. -/
structure SearchSoFar (env : Env cfg) (serviceId : UInt16) (startMs : Nat) (start : World cfg)
    (moves : List (SearchMove cfg)) : Prop where
  asked : observedPasses env (Event.seeks serviceId) start moves =
    (Attempts.times cfg.sdFindRetryCount.toNat (start.rt.sd.retryWaitMs serviceId) ⟨0, startMs⟩
      (moves.filterMap SearchMove.timeMs)).map some
  few : (observedPasses env (Event.seeks serviceId) start moves).length ≤
    cfg.sdFindRetryCount.toNat + 1
  entry : ∃ entry, (World.searchRun env moves start).rt.sd.findConsumer serviceId = some entry ∧
    entry.state = (if (observedPasses env (Event.seeks serviceId) start moves).length ≤
      cfg.sdFindRetryCount.toNat then .searching else .notFound) ∧
    (entry.state = .searching →
      entry.nextRetryMs = clock 0 (start.rt.sd.scheduled serviceId startMs moves).dueMs)
  lost : StaysListening env start moves →
    observedPasses env (Event.loses serviceId) start moves =
      (observedPasses env (Event.seeks serviceId) start moves).drop cfg.sdFindRetryCount.toNat
  notEarly : ∀ earlier timeMs later, moves = earlier ++ .finds timeMs :: later →
    let before := World.searchRun env earlier start
    ((before.search env (.finds timeMs)).since before).any (Event.seeks serviceId) = true →
    (start.rt.sd.scheduled serviceId startMs earlier).dueMs ≤ timeMs

section End

variable {w : World cfg} {startMs index : Nat}

theorem Pursues.findConsumer {sd : ServiceDiscovery cfg} {lastMs : Nat} {attempts : Attempts}
    (pursues : Pursues sd serviceId index lastMs attempts w) :
    ∃ entry, w.rt.sd.findConsumer serviceId = some entry ∧ Mirrors cfg attempts entry := by
  obtain ⟨entry, seeking, mirrors⟩ := pursues.entry
  have found : w.rt.sd.findConsumer entry.serviceId = some entry :=
    seeking.distinct.lookup_of_mem (List.mem_of_getElem? seeking.here)
  rw [seeking.service] at found
  exact ⟨entry, found, mirrors⟩

/-- `find_service` puts the search where no attempt has been made yet. -/
theorem World.lookFor_pursues (reachable : World.Reachable env w) {major : UInt8}
    (room : (w.rt.sd.find serviceId major (clock 0 startMs)).1 = true) :
    let start := w.lookFor env serviceId major startMs
    ∃ index < cfg.maxKnownServices,
      Pursues start.rt.sd serviceId index startMs ⟨0, startMs⟩ start := by
  intro start
  have written : start.rt.sd = (w.rt.sd.find serviceId major (clock 0 startMs)).2 := rfl
  have steps : Steps env w start := (perform_steps react_steps _ w).steps
  have fits : w.rt.sd.consumers.length ≤ cfg.maxKnownServices :=
    reachable.invariant (fun _ => Nat.zero_le _) fun _ _ _ fits step =>
      step.consumers_length_le fits
  have startFits := find_length w.rt.sd serviceId major (clock 0 startMs) fits
  have looked : ∃ fresh, start.rt.sd.findConsumer serviceId =
      some (ConsumerEntry.search serviceId major (clock 0 startMs) fresh) := by
    rw [written]
    rw [ServiceDiscovery.find] at room ⊢
    cases upserted : Table.upsert (fun entry => entry.serviceId == serviceId)
        (ConsumerEntry.search serviceId major (clock 0 startMs)) {} cfg.maxKnownServices
        w.rt.sd.consumers with
    | none =>
        rw [upserted] at room
        cases room
    | some consumers =>
        have found := Table.lookup_upsert
          (ConsumerEntry.search_serviceId serviceId major (clock 0 startMs)) upserted serviceId
        rw [if_pos rfl] at found
        exact ⟨_, found⟩
  obtain ⟨fresh, found⟩ := looked
  obtain ⟨index, here⟩ := List.getElem?_of_mem (Table.lookup_mem found)
  have within := (List.getElem?_eq_some_iff.mp here).1
  rw [written] at within
  refine ⟨index, Nat.lt_of_lt_of_le within startFits, ⟨_, ⟨here, rfl, ?_, rfl⟩, ?_⟩, ?_⟩
  · exact steps.distinctConsumers reachable.distinctConsumers
  · exact ⟨(if_pos (Nat.zero_le _)).symm, rfl, fun _ => rfl⟩
  · intro _
    exact ⟨Nat.le_refl _, Nat.lt_add_of_pos_right (by decide)⟩

/-- As many attempts have been made as passes have asked. -/
theorem length_of_asked {start : World cfg} {passes : List (Option Nat)}
    {moves : List (SearchMove cfg)}
    (asked : passes = (Attempts.times cfg.sdFindRetryCount.toNat
      (start.rt.sd.retryWaitMs serviceId) ⟨0, startMs⟩
      (moves.filterMap SearchMove.timeMs)).map some) :
    passes.length = (start.rt.sd.scheduled serviceId startMs moves).made := by
  rw [asked, List.length_map, scheduled, Attempts.made_after, Nat.zero_add]

variable {start : World cfg} (roomy : 8 + n ≤ cfg.maxPayloadSize)
  (ends : SearchesEnd maxPassGapMs cfg) (inTable : index < cfg.maxKnownServices)
  (pursues : Pursues start.rt.sd serviceId index startMs ⟨0, startMs⟩ start)

include roomy ends inTable pursues

theorem searchSoFar {moves : List (SearchMove cfg)}
    (run : UnansweredRun env serviceId start startMs moves) :
    SearchSoFar env serviceId startMs start moves := by
  obtain ⟨final, asked, lost⟩ := World.searchRun_advances roomy ends inTable pursues run
  obtain ⟨entry, found, mirrors⟩ := final.findConsumer
  have few := @Attempts.made_after_le cfg.sdFindRetryCount.toNat
    (start.rt.sd.retryWaitMs serviceId) ⟨0, startMs⟩ (Nat.zero_le _)
    (moves.filterMap SearchMove.timeMs)
  have count := length_of_asked asked
  refine ⟨asked, ?_, ⟨entry, found, ?_, ?_⟩, ?_, ?_⟩
  · rw [count]
    exact few
  · rw [count]
    exact mirrors.state
  · intro searching
    apply mirrors.due
    by_contra exhausted
    have state := mirrors.state
    rw [if_neg exhausted, searching] at state
    cases state
  · intro stays
    rw [lost stays, asked, ← List.map_drop, Attempts.endings_eq (Nat.zero_le _), Nat.sub_zero]
  · rintro earlier timeMs later rfl before sought
    rw [unansweredRun_append] at run
    obtain ⟨soFar, unanswered, paced, -⟩ := run
    have reached := (World.searchRun_advances roomy ends inTable pursues soFar).1
    have counted := (World.search_advances roomy ends inTable reached unanswered paced).2.1
    cases asks : (SearchMove.finds timeMs : SearchMove cfg).asks
        (start.rt.sd.scheduled serviceId startMs earlier) with
    | true => exact (Attempts.isDue_iff.mp asks).2
    | false =>
        obtain ⟨event, member, seeks⟩ := List.any_eq_true.mp sought
        have some := List.countP_pos_iff.mpr ⟨event, member, seeks⟩
        rw [scheduled] at asks
        rw [counted, asks] at some
        cases some

omit roomy ends inTable pursues in
/-- The first moves of a schedule that goes on forever. -/
def firstMoves (schedule : Nat → SearchMove cfg) (count : Nat) : List (SearchMove cfg) :=
  (List.range count).map schedule

/-- As long as the service is searched for, a pass comes at or after the time of the next
retry. -/
def KeepsTicking (env : Env cfg) (serviceId : UInt16) (start : World cfg)
    (schedule : Nat → SearchMove cfg) : Prop :=
  ∀ count entry,
    (World.searchRun env (firstMoves schedule count) start).rt.sd.findConsumer serviceId =
      some entry →
    entry.state = .searching →
    ∃ later ≥ count, ∃ timeMs, schedule later = .finds timeMs ∧
      timeAfterOrEq (clock 0 timeMs) entry.nextRetryMs = true

omit roomy ends inTable pursues in
theorem firstMoves_succ (schedule : Nat → SearchMove cfg) (count : Nat) :
    firstMoves schedule (count + 1) = firstMoves schedule count ++ [schedule count] := by
  rw [firstMoves, List.range_succ, List.map_append]
  rfl

omit roomy ends inTable pursues in
theorem scheduled_append (sd : ServiceDiscovery cfg) (earlier later : List (SearchMove cfg)) :
    sd.scheduled serviceId startMs (earlier ++ later) =
      (sd.scheduled serviceId startMs earlier).after cfg.sdFindRetryCount.toNat
        (sd.retryWaitMs serviceId) (later.filterMap SearchMove.timeMs) := by
  rw [scheduled, List.filterMap_append, Attempts.after_append]
  rfl

/-- From any point of a schedule that keeps ticking, another attempt is made before long. -/
theorem attempt_follows {schedule : Nat → SearchMove cfg}
    (runs : ∀ count, UnansweredRun env serviceId start startMs (firstMoves schedule count))
    (ticking : KeepsTicking env serviceId start schedule) (count : Nat)
    (searching : (start.rt.sd.scheduled serviceId startMs (firstMoves schedule count)).made ≤
      cfg.sdFindRetryCount.toNat) :
    ∃ later, (start.rt.sd.scheduled serviceId startMs (firstMoves schedule count)).made <
      (start.rt.sd.scheduled serviceId startMs (firstMoves schedule later)).made := by
  let sd := start.rt.sd
  let limit := cfg.sdFindRetryCount.toNat
  have reached : ∀ count, Pursues sd serviceId index (lastPass startMs (firstMoves schedule count))
      (sd.scheduled serviceId startMs (firstMoves schedule count))
      (World.searchRun env (firstMoves schedule count) start) :=
    fun count => (World.searchRun_advances roomy ends inTable pursues (runs count)).1
  obtain ⟨entry, found, mirrors⟩ := (reached count).findConsumer
  obtain ⟨later, notBefore, timeMs, isPass, past⟩ := ticking count entry found
    (mirrors.state.trans (if_pos searching))
  obtain ⟨more, rfl⟩ := Nat.exists_eq_add_of_le notBefore
  have between : firstMoves schedule (count + more) = firstMoves schedule count ++
      (List.range more).map fun step => schedule (count + step) := by
    rw [firstMoves, List.range_add, List.map_append, List.map_map]
    rfl
  have grown := @scheduled_append _ _ serviceId startMs sd (firstMoves schedule count)
    ((List.range more).map fun step => schedule (count + step))
  rw [← between] at grown
  by_cases same : (sd.scheduled serviceId startMs (firstMoves schedule (count + more))).made =
      (sd.scheduled serviceId startMs (firstMoves schedule count)).made
  · -- Nothing has been asked up to that pass, so it asks.
    have unchanged : sd.scheduled serviceId startMs (firstMoves schedule (count + more)) =
        sd.scheduled serviceId startMs (firstMoves schedule count) := by
      rw [grown] at same ⊢
      exact Attempts.after_eq_self same
    have next := runs (count + more + 1)
    rw [firstMoves_succ, unansweredRun_append, isPass] at next
    have within := next.2.2.1 timeMs rfl
    have isDue := mirrors.isSought (unchanged ▸ (reached (count + more)).punctual) within
    rw [ConsumerEntry.isSought, mirrors.state, if_pos searching, past] at isDue
    have due : (sd.scheduled serviceId startMs (firstMoves schedule count)).isDue limit timeMs =
      true := isDue.symm
    refine ⟨count + more + 1, ?_⟩
    rw [firstMoves_succ, scheduled_append, isPass, unchanged]
    have looked : (sd.scheduled serviceId startMs (firstMoves schedule count)).after limit
        (sd.retryWaitMs serviceId) [timeMs] = _ := Attempts.look_of_due due
    change _ < ((sd.scheduled serviceId startMs (firstMoves schedule count)).after limit
      (sd.retryWaitMs serviceId) [timeMs]).made
    rw [looked]
    exact Nat.lt_succ_self _
  · refine ⟨count + more, ?_⟩
    have counted := @Attempts.made_after limit (sd.retryWaitMs serviceId)
      (sd.scheduled serviceId startMs (firstMoves schedule count))
      (((List.range more).map fun step => schedule (count + step)).filterMap SearchMove.timeMs)
    rw [← grown] at counted
    change (sd.scheduled serviceId startMs (firstMoves schedule count)).made <
      (sd.scheduled serviceId startMs (firstMoves schedule (count + more))).made
    omega

/-- A schedule that keeps ticking brings the search to its end. -/
theorem search_reaches_end {schedule : Nat → SearchMove cfg}
    (runs : ∀ count, UnansweredRun env serviceId start startMs (firstMoves schedule count))
    (ticking : KeepsTicking env serviceId start schedule) :
    ∃ count entry,
      (World.searchRun env (firstMoves schedule count) start).rt.sd.findConsumer serviceId =
        some entry ∧ entry.state = .notFound := by
  have many : ∀ attempts ≤ cfg.sdFindRetryCount.toNat + 1, ∃ count, attempts ≤
      (start.rt.sd.scheduled serviceId startMs (firstMoves schedule count)).made := by
    intro attempts
    induction attempts with
    | zero => exact fun _ => ⟨0, Nat.zero_le _⟩
    | succ attempts ih =>
        intro within
        obtain ⟨count, made⟩ := ih (Nat.le_of_succ_le within)
        by_cases searching : (start.rt.sd.scheduled serviceId startMs
            (firstMoves schedule count)).made ≤ cfg.sdFindRetryCount.toNat
        · obtain ⟨later, more⟩ :=
            attempt_follows roomy ends inTable pursues runs ticking count searching
          exact ⟨later, Nat.lt_of_le_of_lt made more⟩
        · exact ⟨count, Nat.le_trans within (Nat.lt_of_not_le searching)⟩
  obtain ⟨count, exhausted⟩ := many _ (Nat.le_refl _)
  have final := (World.searchRun_advances roomy ends inTable pursues (runs count)).1
  obtain ⟨entry, found, mirrors⟩ := final.findConsumer
  exact ⟨count, entry, found, mirrors.state.trans (if_neg (Nat.not_le.mpr exhausted))⟩

end End

/-- A search that is not answered asks for the service at most once more than it retries,
never early, searching until the last time and not found from it on, and tells an
application that listens once, at the last time; and if time goes on it ends. -/
theorem search_ends {cfg : Config 8} {env : Env cfg}
    (standard : cfg = defaultConfig ∨ cfg = embeddedConfig) {w : World cfg}
    (reachable : World.Reachable env w) {major : UInt8} {startMs : Nat}
    (room : (w.rt.sd.find serviceId major (clock 0 startMs)).1 = true) :
    let start := w.lookFor env serviceId major startMs
    (∀ moves, UnansweredRun env serviceId start startMs moves →
      SearchSoFar env serviceId startMs start moves) ∧
    ∀ schedule,
      (∀ count, UnansweredRun env serviceId start startMs (firstMoves schedule count)) →
      KeepsTicking env serviceId start schedule →
      ∃ count entry,
        (World.searchRun env (firstMoves schedule count) start).rt.sd.findConsumer serviceId =
          some entry ∧ entry.state = .notFound := by
  intro start
  have ends : SearchesEnd maxPassGapMs cfg := searchesEnd_standard standard
  have roomy : 8 + 8 ≤ cfg.maxPayloadSize := by
    rcases standard with rfl | rfl <;> decide
  obtain ⟨index, inTable, pursues⟩ := World.lookFor_pursues reachable room
  constructor
  · intro moves run
    exact searchSoFar roomy ends inTable pursues run
  · intro schedule runs ticking
    exact search_reaches_end roomy ends inTable pursues runs ticking

/-- A device that listens for lost services. -/
def listeningWorld : World embeddedConfig :=
  World.run (.benign _) [.api (.setSdCallbacks { onServiceLost := true })] (World.initial _ 1)

theorem search_ends_unanswered :
    SearchSoFar (.benign _) 7 100 (listeningWorld.lookFor (.benign _) 7 1 100)
      ([100, 200, 600, 2600, 5000, 9000].map .finds) :=
  (search_ends (.inr rfl) ⟨1, _, rfl⟩ rfl).1 _ (by decide +kernel)

example : let start := listeningWorld.lookFor (.benign _) 7 1 100
    let passes := [100, 200, 600, 2600, 5000, 9000].map SearchMove.finds
    observedPasses (.benign _) (Event.seeks 7) start passes =
        [some 100, some 600, some 2600, some 5000] ∧
      observedPasses (.benign _) (Event.loses 7) start passes = [some 5000] := by
  decide +kernel

end Sero
