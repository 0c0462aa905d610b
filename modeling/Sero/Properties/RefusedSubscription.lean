import Sero.Properties.EndedSubscription
import Sero.Properties.IgnoredOffer

/-!
# A refusal stands

A refusal makes the tracker of its event inactive, and the device says nothing more about
the event.  The reconnection logic goes by another flag, by which the application still
wants the event: an offer that is new, of another provider or of a provider that has
rebooted makes the device ask again for what has been refused.
-/

namespace Sero

open Library ServiceDiscovery

variable {n : Nat} {cfg : Config n} {env : Env cfg} {serviceId eventId : UInt16}

/-! ## Runs in which nothing is flagged -/

/-- Does the application want the event? -/
def ServiceDiscovery.wants (serviceId eventId : UInt16) (sd : ServiceDiscovery cfg) : Bool :=
  (sd.findSubTracker serviceId eventId).any SubTracker.appRegistered

namespace World

/-- Where the treatment of an offer flags the subscriptions of its service. -/
def beforeFlag (env : Env cfg) (offer : SdPayload.Offer n) (nowMs : UInt32) (w : World cfg) :
    OfferKind → Option (World cfg)
  | .reboot =>
      some (((w.rebootLost env offer nowMs).markFound offer.serviceId).notifyFound env offer)
  | .newlyFound => some ((w.recordOffer offer nowMs).markFound offer.serviceId)
  | .providerChange => some (w.recordOffer offer nowMs)
  | .renewal => none

/-- Does an offer flag the event while the application wants it? -/
def flagsEvent (env : Env cfg) (serviceId eventId : UInt16) (offer : SdPayload.Offer n)
    (nowMs : UInt32) (w : World cfg) : Bool :=
  offer.serviceId == serviceId && offer.ttlSeconds != 0 &&
    (w.rt.sd.findConsumer offer.serviceId).any fun entry =>
      offer.majorVersion == entry.expectedMajor &&
        (w.beforeFlag env offer nowMs (offerKind entry offer)).any fun flagging =>
          flagging.rt.sd.wants serviceId eventId

end World

/-- Does a move flag the event while the application wants it? -/
def Move.flagsEvent (env : Env cfg) (serviceId eventId : UInt16) (w : World cfg) :
    Move cfg → Bool
  | .deliver source data nowMs =>
      match w.validate source data, heard cfg source data with
      | (some _, validated), some (.offer offer) =>
          validated.flagsEvent env serviceId eventId offer nowMs
      | _, _ => false
  | _ => false

/-- In none of the moves is the event flagged while the application wants it. -/
def Unflagged (env : Env cfg) (serviceId eventId : UInt16) : World cfg → List (Move cfg) → Prop
  | _, [] => True
  | w, move :: rest =>
      move.flagsEvent env serviceId eventId w = false ∧
        Unflagged env serviceId eventId (w.step env move) rest

/-- What discovery does in answer to what was heard, without flagging the event. -/
inductive CalmMove (env : Env cfg) (serviceId eventId : UInt16) (asked : Option (SdRequest n)) :
    World cfg → World cfg → Prop where
  | step {nowMs : UInt32} {other : Option (SdRequest n)} {before after : World cfg}
      (step : DiscoveryStep env nowMs other before after)
      (notOffer : ∀ offer, other ≠ some (.offer offer))
      (notAck : ∀ result granted, other ≠ some (.ack result granted)) :
      CalmMove env serviceId eventId asked before after
  | write {write : ServiceDiscovery cfg → ServiceDiscovery cfg} {w : World cfg}
      (trackers : (write w.rt.sd).subTrackers = w.rt.sd.subTrackers)
      (clientId : (write w.rt.sd).clientId = w.rt.sd.clientId) :
      CalmMove env serviceId eventId asked w (World.sdLens.modify write w)
  | flag {offer : SdPayload.Offer n} (nowMs : UInt32) {w : World cfg}
      (unwanted : offer.serviceId = serviceId → w.rt.sd.wants serviceId eventId = false) :
      CalmMove env serviceId eventId asked w (w.flagResubscribe offer.serviceId nowMs)
  | answer {result : ReturnCode} {granted : SdPayload.Subscribe}
      (acks : asked = some (.ack result granted)) (w : World cfg) :
      CalmMove env serviceId eventId asked w (World.sdLens.modify (fun sd =>
        sd.recordAck granted.serviceId granted.eventId result granted.ttlSeconds) w)

abbrev CalmMoves (env : Env cfg) (serviceId eventId : UInt16) (asked : Option (SdRequest n)) :
    World cfg → World cfg → Prop :=
  Relation.ReflTransGen (CalmMove env serviceId eventId asked)

section Calm

variable {asked : Option (SdRequest n)} {nowMs : UInt32}

theorem DiscoverySteps.calm {other : Option (SdRequest n)} {before after : World cfg}
    (steps : DiscoverySteps env nowMs other before after)
    (notOffer : ∀ offer, other ≠ some (.offer offer))
    (notAck : ∀ result granted, other ≠ some (.ack result granted)) :
    CalmMoves env serviceId eventId asked before after :=
  steps.lift id fun _ _ step => .step step notOffer notAck

theorem PlainSteps.calm {before after : World cfg} (steps : PlainSteps env before after) :
    CalmMoves env serviceId eventId asked before after := by
  have quiet : DiscoverySteps env 0 none before after := steps.discoverySteps
  exact quiet.calm (by simp) (by simp)

namespace World

/-- Treating an offer, as long as it does not flag the event. -/
theorem treatOffer_calm {offer : SdPayload.Offer n} {kind : OfferKind} {w : World cfg}
    (unwanted : ∀ flagging, w.beforeFlag env offer nowMs kind = some flagging →
      offer.serviceId = serviceId → flagging.rt.sd.wants serviceId eventId = false) :
    CalmMoves env serviceId eventId asked w (w.treatOffer env offer nowMs kind) := by
  have recorded : ∀ w : World cfg,
      CalmMove env serviceId eventId asked w (w.recordOffer offer nowMs) :=
    fun w => .write rfl rfl
  have found : ∀ w : World cfg,
      CalmMove env serviceId eventId asked w (w.markFound offer.serviceId) :=
    fun w => .write rfl rfl
  have lost : ∀ w : World cfg,
      CalmMoves env serviceId eventId asked w (w.notifyLost env offer.serviceId) :=
    fun w => (callServiceLost_steps offer.serviceId w).calm
  have told : ∀ w : World cfg,
      CalmMoves env serviceId eventId asked w (w.notifyFound env offer) :=
    fun w => (callServiceFound_steps offer.serviceId offer.providerAddr w).calm
  have reset : CalmMoves env serviceId eventId asked w (w.resetPeer offer.providerAddr) :=
    ((Atomic.resetPeer offer.providerAddr w).plainSteps rfl).calm
  cases kind with
  | reboot =>
      have rebooted := (((reset.tail (recorded _)).trans (lost _)).tail (found _)).trans (told _)
      exact rebooted.tail (.flag nowMs (unwanted _ rfl))
  | newlyFound =>
      have marked := Relation.ReflTransGen.single (recorded w) |>.tail (found _)
      exact (marked.tail (.flag nowMs (unwanted _ rfl))).trans (told _)
  | providerChange =>
      exact (Relation.ReflTransGen.single (recorded w) |>.tail
        (.flag nowMs (unwanted _ rfl))).trans (told _)
  | renewal => exact .single (recorded w)

theorem handleOffer_calm {offer : SdPayload.Offer n} {w : World cfg}
    (unflagged : w.flagsEvent env serviceId eventId offer nowMs = false) :
    CalmMoves env serviceId eventId asked w (w.handleOffer env offer nowMs) := by
  rcases accepted_or_ignored offer w with ⟨entry, accepted⟩ | ignored
  · rw [handleOffer_accepted accepted]
    apply treatOffer_calm
    intro flagging reaches same
    rw [flagsEvent, accepted.tracked, Option.any_some, reaches, Option.any_some, same,
      accepted.major, bne_iff_ne.mpr accepted.ttl] at unflagged
    simpa using unflagged
  · rw [handleOffer_eq_of_ignored ignored]
    split
    · exact ((Atomic.resetPeer offer.providerAddr w).plainSteps rfl).calm
    · exact .refl

/-- Receiving a datagram, as long as it does not flag the event. -/
theorem receive_calm {source : Address n} {data : Bytes} {w : World cfg}
    (unflagged : (Move.deliver source data nowMs).flagsEvent env serviceId eventId w = false) :
    CalmMoves env serviceId eventId (heard cfg source data) w
      (w.validateAndDispatch env source data nowMs) := by
  by_cases asksNeither : (∀ offer, heard cfg source data ≠ some (.offer offer)) ∧
      ∀ result granted, heard cfg source data ≠ some (.ack result granted)
  · have received : DiscoverySteps env nowMs (heard cfg source data) w _ :=
      receive_discoverySteps source data w
    exact received.calm asksNeither.1 asksNeither.2
  · have validated : CalmMoves env serviceId eventId (heard cfg source data) w
        (w.validate source data).2 :=
      ((Atomic.validate source data w).plainSteps rfl).calm
    rw [validateAndDispatch]
    rw [Move.flagsEvent] at unflagged
    rcases outcome : w.validate source data with ⟨passed, after⟩
    rw [outcome] at validated unflagged
    refine validated.trans ?_
    cases passed with
    | none => exact .refl
    | some hdr =>
        have accepted := validate_accepted outcome
        have decoded : ∀ request, heard cfg source data = some request →
            after.dispatchMessage env source hdr (payloadOf hdr data) nowMs =
              request.handle env nowMs after := by
          intro request hears
          rw [heard, accepted.checked] at hears
          dsimp only at hears
          split at hears
          · next sd => simp only [dispatchMessage, if_pos sd, handleSdMessage_eq, hears]
          · cases hears
        cases hears : heard cfg source data with
        | none => simp [hears] at asksNeither
        | some request =>
            rw [hears] at unflagged
            have handled := decoded request hears
            change CalmMoves env serviceId eventId _ after
              (after.dispatchMessage env source hdr (payloadOf hdr data) nowMs)
            rw [handled]
            cases request with
            | offer offer => exact handleOffer_calm unflagged
            | ack result granted =>
                rw [SdRequest.handle, handleSubscribeAck]
                refine Relation.ReflTransGen.head (.answer rfl after) ?_
                split
                · exact (callback_steps (by simp) _).calm
                · exact .refl
            | _ => simp [hears] at asksNeither

/-- The first part of a cycle's rest, up to the two passes. -/
theorem timeOut_calm (w : World cfg) :
    CalmMoves env serviceId eventId asked w (w.timeOut env nowMs) := by
  have steps : DiscoverySteps env nowMs none w (w.timeOut env nowMs) := timeOut_discoverySteps w
  exact steps.calm (by simp) (by simp)

/-- What follows the two passes. -/
theorem housekeeping_calm (w : World cfg) :
    CalmMoves env serviceId eventId asked ((w.timeOut env nowMs).announce env nowMs)
      (w.housekeeping env nowMs) := by
  have steps : DiscoverySteps env nowMs none ((w.timeOut env nowMs).announce env nowMs)
    (w.housekeeping env nowMs) := housekeeping_discoverySteps w
  exact steps.calm (by simp) (by simp)

end World

end Calm

/-! ## Refusals -/

section Refused

variable {asked : Option (SdRequest n)} {nowMs : UInt32}

/-- Nothing is sent about the event until its tracker is active again. -/
def SubTracker.Inactive (tracker : SubTracker) : Prop :=
  tracker.active = false

/-- Flagging leaves alone what the application does not want. -/
theorem flagged_of_unwanted {service : UInt16} {w : World cfg} {tracker : SubTracker}
    (known : w.rt.sd.findSubTracker serviceId eventId = some tracker)
    (unwanted : service = serviceId → w.rt.sd.wants serviceId eventId = false) :
    SubTracker.flagged service nowMs tracker = tracker := by
  have key : SubTracker.key tracker = (serviceId, eventId) := Table.lookup_key known
  rw [wants, known, Option.any_some] at unwanted
  rw [SubTracker.flagged, if_neg]
  rw [Bool.and_eq_true, beq_iff_eq]
  rintro ⟨registered, rfl⟩
  rw [unwanted (congrArg Prod.fst key)] at registered
  cases registered

/-- A step that flags nothing and answers nothing leaves the tracker of the event alone. -/
theorem DiscoveryStep.writes {describes : SubTracker → Prop} {other : Option (SdRequest n)}
    {before after : World cfg} (step : DiscoveryStep env nowMs other before after)
    (notOffer : ∀ offer, other ≠ some (.offer offer))
    (notAck : ∀ result granted, other ≠ some (.ack result granted)) :
    Writes serviceId eventId describes before after := by
  intro events history others distinct
  have same : ∀ tracker, before.rt.sd.findSubTracker serviceId eventId = some tracker →
      after.rt.sd.findSubTracker serviceId eventId = some tracker := by
    intro tracker known
    have keeps := @DiscoveryStep.keepsTracker _ _ env serviceId eventId
      before.rt.sd.clientId (· = tracker) _ _ _ _
      step (fun offer offers => absurd offers (notOffer offer))
      fun result granted acks => absurd acks (notAck result granted)
    obtain ⟨_, sameHistory, keeps⟩ := keeps
    cases List.append_cancel_right (history.symm.trans sameHistory)
    obtain ⟨_, found, rfl⟩ := (keeps others ⟨distinct, ⟨tracker, known, rfl⟩, rfl⟩).1.tracks
    exact found
  refine ⟨id, ?_, fun _ _ described => described⟩
  cases known : before.rt.sd.findSubTracker serviceId eventId with
  | some tracker => exact same tracker known
  | none =>
      have any : Writes serviceId eventId (fun _ => True) before after :=
        (step.concerns notAck).writes fun _ _ _ _ => trivial
      obtain ⟨update, written, -⟩ := any events history others distinct
      rw [written, known]
      rfl

theorem CalmMove.upholds {before after : World cfg}
    (move : CalmMove env serviceId eventId asked before after) :
    Upholds serviceId eventId SubTracker.Inactive before after := by
  cases move with
  | step step notOffer notAck =>
      exact (step.concerns notAck).upholds step.steps.distinctTrackers
        (fun _ inactive => inactive) (step.writes notOffer notAck)
  | @write write _ trackers _ =>
      have same : (write before.rt.sd).findSubTracker serviceId eventId =
          before.rt.sd.findSubTracker serviceId eventId := by
        rw [findSubTracker, trackers, ← findSubTracker]
      apply Upholds.of_write before _ (same.trans Option.map_id'.symm)
      · exact fun _ _ inactive => inactive
      · rw [DistinctTrackers, DistinctTrackers, trackers]
        exact id
  | @flag offer time _ unwanted =>
      have looked := before.rt.sd.findSubTracker_flagResubscribe offer.serviceId time serviceId
        eventId
      apply Upholds.of_write before _ looked
      · intro tracker known inactive
        rw [flagged_of_unwanted known unwanted]
        exact inactive
      · exact fun distinct => distinct.map (SubTracker.flagged_key offer.serviceId time) rfl
  | answer =>
      apply Upholds.answer
      intro tracker inactive
      rw [SubTracker.acknowledge, if_neg (Bool.eq_false_iff.mp inactive)]
      exact inactive

theorem CalmMoves.upholds {before after : World cfg}
    (moves : CalmMoves env serviceId eventId asked before after) :
    Upholds serviceId eventId SubTracker.Inactive before after := by
  induction moves with
  | refl => exact .refl before
  | tail _ move ih => exact ih.trans move.upholds

namespace World

/-- A cycle's rest says nothing about an event whose tracker is inactive. -/
theorem housekeeping_upholds (nowMs : UInt32) (w : World cfg) :
    Upholds serviceId eventId SubTracker.Inactive w (w.housekeeping env nowMs) := by
  have timedOut : CalmMoves env serviceId eventId none w (w.timeOut env nowMs) := timeOut_calm w
  have rest : CalmMoves env serviceId eventId none ((w.timeOut env nowMs).announce env nowMs)
    (w.housekeeping env nowMs) := housekeeping_calm w
  have offers : Upholds serviceId eventId SubTracker.Inactive (w.timeOut env nowMs)
      ((w.timeOut env nowMs).broadcastOffers env nowMs) :=
    World.broadcastOffers_upholds nowMs (fun _ inactive => inactive) _
  have renewals : Upholds serviceId eventId SubTracker.Inactive
      ((w.timeOut env nowMs).broadcastOffers env nowMs)
      ((w.timeOut env nowMs).announce env nowMs) := by
    apply renewSubscriptions_upholds
    · intro tracker inactive active
      rw [inactive] at active
      cases active
    · intro sd tracker inactive
      rw [renew, inactive]
      exact inactive
  exact ((timedOut.upholds.trans offers).trans renewals).trans rest.upholds

/-- Nor does any other move, as long as it does not flag the event. -/
theorem step_upholds {w : World cfg} {move : Move cfg}
    (unflagged : move.flagsEvent env serviceId eventId w = false) :
    Upholds serviceId eventId SubTracker.Inactive w (w.step env move) := by
  cases move with
  | api call =>
      have steps : DiscoverySteps env 0 none w _ := perform_discoverySteps call w
      have calm : CalmMoves env serviceId eventId none w _ := steps.calm (by simp) (by simp)
      exact calm.upholds
  | start nowMs =>
      have step : DiscoveryStep env nowMs none w (w.startCycle nowMs) := .startCycle w
      have calm : CalmMove env serviceId eventId none w _ := .step step (by simp) (by simp)
      exact calm.upholds
  | deliver source data nowMs => exact (receive_calm unflagged).upholds
  | housekeeping nowMs => exact w.housekeeping_upholds nowMs

theorem run_upholds {moves : List (Move cfg)} {w : World cfg}
    (unflagged : Unflagged env serviceId eventId w moves) :
    Upholds serviceId eventId SubTracker.Inactive w (run env moves w) := by
  induction moves generalizing w with
  | nil => exact .refl w
  | cons move rest ih => exact (step_upholds unflagged.1).trans (ih unflagged.2)

/-- Receiving a refusal makes the tracker inactive. -/
theorem receive_refusal {source : Address n} {data : Bytes} {w : World cfg}
    (distinct : w.rt.sd.DistinctTrackers)
    (handled : (w.validate source data).1.isSome = true)
    (rejects : (Event.dispatched source data : Event cfg).rejects serviceId eventId = true) :
    ∃ refused : World cfg, refused.history = (w.validate source data).2.history ∧
      Rests serviceId eventId SubTracker.Inactive refused ∧
      CalmMoves env serviceId eventId none refused
        (w.validateAndDispatch env source data nowMs) := by
  have same := (@Atomic.validate _ _ env source data w).frame.sd (by simp)
  rw [validateAndDispatch]
  rcases outcome : w.validate source data with ⟨passed, after⟩
  rw [outcome] at handled same
  cases passed with
  | none => cases handled
  | some hdr =>
      have accepted := validate_accepted outcome
      rw [Event.rejects] at rejects
      split at rejects
      · next result granted hears =>
          rw [Bool.and_eq_true, Bool.and_eq_true, beq_iff_eq, beq_iff_eq, bne_iff_ne] at rejects
          obtain ⟨⟨rfl, rfl⟩, refuses⟩ := rejects
          have decoded := hears
          rw [heard, accepted.checked] at decoded
          dsimp only at decoded
          split at decoded
          · next sd =>
              refine ⟨sdLens.modify (fun sd => sd.recordAck granted.serviceId granted.eventId
                result granted.ttlSeconds) after, rfl, ⟨?_, ?_⟩, ?_⟩
              · have filed : after.rt.sd.DistinctTrackers := same ▸ distinct
                exact filed.updateSubTracker _ _ (SubTracker.acknowledge_key _ _)
              · intro tracker known
                have looked := findSubTracker_recordAck after.rt.sd granted.serviceId
                  granted.eventId result granted.ttlSeconds granted.serviceId granted.eventId
                rw [if_pos rfl] at looked
                obtain ⟨old, -, rfl⟩ := Option.map_eq_some_iff.mp (looked.symm.trans known)
                rw [SubTracker.Inactive, SubTracker.acknowledge, if_neg refuses]
                split
                · rfl
                · next inactive => exact Bool.eq_false_iff.mpr inactive
              · simp only [dispatchMessage, if_pos sd, handleSdMessage_eq, decoded]
                rw [SdRequest.handle, handleSubscribeAck]
                split
                · exact (callback_steps (by simp) _).calm
                · exact .refl
          · cases decoded
      · cases rejects

end World

end Refused

/-- From the moment a datagram has been accepted, and whatever follows it, the event is not
asked for until the application subscribes to it. -/
def StaysRefused (env : Env cfg) (serviceId eventId : UInt16) (source : Address n) (data : Bytes)
    (nowMs : UInt32) (moves : List (Move cfg)) (w : World cfg) : Prop :=
  ∃ newer, (World.run env (.deliver source data nowMs :: moves) w).history =
      newer ++ (w.validate source data).2.history ∧
    (newer.any (Event.subscribes serviceId eventId) = false →
      ∀ sent ∈ newer.filterMap Event.sdFrame,
        mentions [.subscribeEvent] serviceId eventId sent.2 = false)

/-- A refusal stands in every run in which no offer flags the event while the application
wants it. -/
theorem refusal_stands {w : World cfg} (reachable : World.Reachable env w)
    {source : Address n} {data : Bytes} (handled : (w.validate source data).1.isSome = true)
    (rejects : (Event.dispatched source data : Event cfg).rejects serviceId eventId = true)
    (nowMs : UInt32) {moves : List (Move cfg)}
    (unflagged : Unflagged env serviceId eventId
      (w.step env (.deliver source data nowMs)) moves) :
    StaysRefused env serviceId eventId source data nowMs moves w := by
  obtain ⟨refused, unheard, rests, calm⟩ :=
    @World.receive_refusal _ _ env _ _ nowMs _ _ _ reachable.distinctTrackers handled rejects
  obtain ⟨newer, history, upheld⟩ := calm.upholds.trans (World.run_upholds unflagged)
  refine ⟨newer, ?_, ?_⟩
  · rw [← unheard]
    exact history
  · exact fun silent => (upheld silent rests).2

/-- A consumer that has asked for an event. -/
def askingWorld : World embeddedConfig :=
  World.run (.benign _) (findingMoves ++ [subscribeCall, .housekeeping 0]) (World.initial _ 2)

/-- It is refused the event, and the provider goes on offering the service. -/
theorem refusal_stands_while_offered :
    StaysRefused (.benign _) 0x1000 0x8001 (Address.filled 8 1) eventlessRefusal 1
      [.deliver (Address.filled 8 1) eventlessOffer 2, .housekeeping 3000] askingWorld := by
  have reachable : World.Reachable (.benign _) askingWorld := ⟨2, _, rfl⟩
  apply refusal_stands reachable (by decide +kernel) (by decide +kernel)
  exact ⟨by decide +kernel, by decide +kernel, trivial⟩

/-- It is refused the event and asks for it again, once the service has been lost and is
found again. -/
theorem refusal_is_retried :
    World.Reachable (.benign _) askingWorld ∧
      (askingWorld.validate (Address.filled 8 1) eventlessRefusal).1.isSome = true ∧
      (Event.dispatched (Address.filled 8 1) eventlessRefusal :
        Event embeddedConfig).rejects 0x1000 0x8001 = true ∧
      ¬StaysRefused (.benign _) 0x1000 0x8001 (Address.filled 8 1) eventlessRefusal 1
        [.housekeeping 6000, .deliver (Address.filled 8 1) eventlessOffer 6001,
          .housekeeping 6002] askingWorld := by
  refine ⟨⟨2, _, rfl⟩, by decide +kernel, by decide +kernel, ?_⟩
  rintro ⟨newer, history, silent⟩
  have since := World.since_eq history
  rw [← since] at silent
  have frames := silent (by decide +kernel)
  revert frames
  decide +kernel

end Sero
