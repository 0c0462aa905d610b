import Sero.Core.Clock
import Sero.Properties.ConsumerDiscovery
import Sero.Runtime.DiscoverySteps

/-!
# Keeping a service found

A service that is found stays found, with the lease it has, as long as no pass comes
after the end of the lease, nothing offers the service and the application does not look
for it again.  A service that is not found becomes so through an offer only.
-/

namespace Sero

open Library ServiceDiscovery

variable {n : Nat} {cfg : Config n} {env : Env cfg}

/-- The service is in state `FOUND`. -/
def HasFound (serviceId : UInt16) (w : World cfg) : Prop :=
  ∃ entry, w.rt.sd.findConsumer serviceId = some entry ∧ entry.state = .found

theorem hasFound_iff {serviceId : UInt16} {w : World cfg} :
    HasFound serviceId w ↔ (w.rt.sd.getProviderAddress serviceId).isSome := by
  rw [HasFound, getProviderAddress]
  cases w.rt.sd.findConsumer serviceId with
  | none => simp
  | some entry => by_cases found : entry.state = .found <;> simp [found]

/-- Looking for a service does not find it. -/
theorem not_hasFound_find {serviceId wanted : UInt16} {major : UInt8} {nowMs : UInt32}
    {before after : World cfg} (written : after.rt.sd = (before.rt.sd.find wanted major nowMs).2)
    (unfound : ¬HasFound serviceId before) : ¬HasFound serviceId after := by
  rw [hasFound_iff, getProviderAddress_eq] at unfound ⊢
  rw [written, tracked_find, track]
  split
  · simp
  · exact unfound

/-- What a stretch of a run does to a consumer, offers of its service apart. -/
structure KeepsConsumer (serviceId : UInt16) (nowMs : UInt32) (before after : World cfg) :
    Prop where
  distinct : before.rt.sd.DistinctConsumers → after.rt.sd.DistinctConsumers
  found : ∃ events, after.history = events ++ before.history ∧
    (finds serviceId events = false → before.rt.sd.DistinctConsumers → ∀ entry,
      before.rt.sd.findConsumer serviceId = some entry → entry.state = .found →
      timeAfter nowMs entry.ttlExpiryMs = false →
      after.rt.sd.findConsumer serviceId = some entry)
  unfound : ¬HasFound serviceId before → ¬HasFound serviceId after

namespace KeepsConsumer

variable {serviceId : UInt16} {nowMs : UInt32} {first second third : World cfg}

theorem trans (left : KeepsConsumer serviceId nowMs first second)
    (right : KeepsConsumer serviceId nowMs second third) :
    KeepsConsumer serviceId nowMs first third := by
  obtain ⟨older, olderEq, leftKeeps⟩ := left.found
  obtain ⟨newer, newerEq, rightKeeps⟩ := right.found
  refine ⟨right.distinct ∘ left.distinct, ⟨newer ++ older, ?_, ?_⟩,
    right.unfound ∘ left.unfound⟩
  · rw [newerEq, olderEq, List.append_assoc]
  · intro noFind distinct entry tracked found unexpired
    rw [finds_append, Bool.or_eq_false_iff] at noFind
    have middle := leftKeeps noFind.2 distinct entry tracked found unexpired
    exact rightKeeps noFind.1 (left.distinct distinct) entry middle found unexpired

/-- A step that leaves the consumers alone. -/
theorem of_consumers {events : History cfg} (history : second.history = events ++ first.history)
    (same : second.rt.sd.consumers = first.rt.sd.consumers) :
    KeepsConsumer serviceId nowMs first second := by
  have looked : second.rt.sd.findConsumer serviceId = first.rt.sd.findConsumer serviceId := by
    rw [findConsumer, same, findConsumer]
  constructor
  · intro distinct
    rw [DistinctConsumers, same]
    exact distinct
  · refine ⟨events, history, ?_⟩
    intro _ _ entry tracked _ _
    rw [looked]
    exact tracked
  · rintro unfound ⟨entry, tracked, found⟩
    rw [looked] at tracked
    exact unfound ⟨entry, tracked, found⟩

/-- A write at the index of an entry that is not found, or whose lease has ended. -/
theorem modify {index : Nat} {entry : ConsumerEntry n}
    {update : ConsumerEntry n → ConsumerEntry n}
    (history : second.history = first.history)
    (written : second.rt.sd.consumers = first.rt.sd.consumers.modify index update)
    (keeps : ∀ entry, (update entry).serviceId = entry.serviceId)
    (still : ∀ entry, (update entry).state = .found → entry.state = .found)
    (here : first.rt.sd.consumers[index]? = some entry)
    (mayChange : entry.state ≠ .found ∨ timeAfter nowMs entry.ttlExpiryMs = true) :
    KeepsConsumer serviceId nowMs first second := by
  constructor
  · intro distinct
    rw [DistinctConsumers, written]
    exact Table.Distinct.modify distinct keeps index
  · refine ⟨[], history, ?_⟩
    intro _ distinct known tracked found unexpired
    rw [findConsumer, written]
    rw [Table.lookup_modify_of_ne keeps here]
    · exact tracked
    · rintro rfl
      have same : Table.lookup ConsumerEntry.serviceId entry.serviceId
          first.rt.sd.consumers = some entry :=
        distinct.lookup_of_mem (List.mem_of_getElem? here)
      cases same.symm.trans tracked
      rcases mayChange with notFound | expired
      · exact notFound found
      · rw [unexpired] at expired
        cases expired
  · rintro unfound ⟨known, tracked, found⟩
    rw [findConsumer, written] at tracked
    rcases Table.lookup_modify keeps serviceId first.rt.sd.consumers index with same | updated
    · exact unfound ⟨known, same.symm.trans tracked, found⟩
    · rw [updated] at tracked
      obtain ⟨old, here, rfl⟩ := Option.map_eq_some_iff.mp tracked
      exact unfound ⟨old, here, still old found⟩

/-- A local call. -/
theorem perform {call : ApiCall cfg} (isLocal : call.isLocal = true) (w : World cfg) :
    KeepsConsumer serviceId nowMs w (w.perform env id call) := by
  constructor
  · intro distinct
    exact (Atomic.perform isLocal w).distinctConsumers distinct
  · obtain ⟨events, history, leaves⟩ :=
      @LeavesConsumer.perform _ _ env serviceId call isLocal w
    refine ⟨events, history, ?_⟩
    intro noFind _ entry tracked _ _
    have kept := leaves entry tracked
    rw [if_neg (by rw [noFind]; simp)] at kept
    exact kept
  · by_cases isFind : ∃ wanted major laterMs, call = .findService wanted major laterMs
    · obtain ⟨wanted, major, laterMs, rfl⟩ := isFind
      exact not_hasFound_find rfl
    · have notFind : ∀ wanted major laterMs, call ≠ .findService wanted major laterMs :=
        fun wanted major laterMs equal => isFind ⟨wanted, major, laterMs, equal⟩
      have same := @World.apiCall_consumers _ _ env id call isLocal notFind w
      rintro unfound ⟨entry, tracked, found⟩
      have before : w.rt.sd.findConsumer serviceId = some entry := by
        rw [findConsumer, ← same]
        exact tracked
      exact unfound ⟨entry, before, found⟩

end KeepsConsumer

theorem PlainStep.keepsConsumer (serviceId : UInt16) (nowMs : UInt32) {before after : World cfg}
    (step : PlainStep env before after) : KeepsConsumer serviceId nowMs before after := by
  obtain ⟨events, history⟩ := (PlainSteps.steps (.single step)).suffix
  have silent : after.rt.sd = before.rt.sd → KeepsConsumer serviceId nowMs before after :=
    fun same => .of_consumers history.symm (by rw [same])
  cases step with
  | count counter header => exact silent (World.increment_core counter header before).sd
  | storeDtcs | fillResponse => exact silent rfl
  | own isPlain step =>
      have same := step.frame.sd
      cases step with
      | background | sdWrite | markRenewals => cases isPlain
      | perform isLocal => exact .perform isLocal before
      | _ => exact silent (same (by simp))

/-- A step that answers no offer of the service. -/
theorem DiscoveryStep.keepsConsumer {serviceId : UInt16} {nowMs : UInt32}
    {asked : Option (SdRequest n)} {before after : World cfg}
    (step : DiscoveryStep env nowMs asked before after)
    (other : ∀ offer, asked = some (.offer offer) → offer.serviceId ≠ serviceId) :
    KeepsConsumer serviceId nowMs before after := by
  obtain ⟨events, history⟩ := step.steps.suffix
  have silent : after.rt.sd = before.rt.sd → KeepsConsumer serviceId nowMs before after :=
    fun same => .of_consumers history.symm (by rw [same])
  have updates : ∀ {offer : SdPayload.Offer n} {update : ConsumerEntry n → ConsumerEntry n},
      asked = some (.offer offer) →
      after.rt.sd = before.rt.sd.updateConsumer offer.serviceId update →
      (∀ entry, (update entry).serviceId = entry.serviceId) →
      KeepsConsumer serviceId nowMs before after := by
    intro offer update offers written keeps
    have looked : after.rt.sd.findConsumer serviceId = before.rt.sd.findConsumer serviceId := by
      rw [written, findConsumer_updateConsumer _ keeps, if_neg (Ne.symm (other offer offers))]
    constructor
    · exact step.steps.distinctConsumers
    · refine ⟨events, history.symm, ?_⟩
      intro _ _ entry tracked _ _
      rw [looked]
      exact tracked
    · rintro unfound ⟨entry, tracked, found⟩
      rw [looked] at tracked
      exact unfound ⟨entry, tracked, found⟩
  cases step with
  | plain step => exact step.keepsConsumer serviceId nowMs
  | sendFind serviceId => exact silent (World.sendSdBroadcast_core _ before).sd
  | answerFind => exact silent (World.sendSdUnicast_core _ _ before).sd
  | subscribeRequest => exact silent (World.handleSubscribeRequest_core _ _ _ _ before).sd
  | startCycle | evictSubscribers | unsubscribeRequest => exact silent rfl
  | flagResubscribe | recordAck => exact .of_consumers history.symm rfl
  | recordOffer offers => exact updates offers rfl fun _ => rfl
  | markFound offers => exact updates offers rfl fun _ => rfl
  | expireConsumer here found expired =>
      refine .modify rfl rfl (fun _ => rfl) ?_ here (.inr expired)
      intro entry found
      cases found
  | giveUpFind here searching retryCount =>
      refine .modify rfl rfl (fun _ => rfl) ?_ here (.inl (by rw [searching]; simp))
      intro entry found
      cases found
  | scheduleRetry here searching retryCount =>
      refine .modify rfl rfl (fun _ => rfl) ?_ here (.inl (by rw [searching]; simp))
      exact fun _ found => found

theorem DiscoverySteps.keepsConsumer {serviceId : UInt16} {nowMs : UInt32}
    {asked : Option (SdRequest n)} {before after : World cfg}
    (steps : DiscoverySteps env nowMs asked before after)
    (other : ∀ offer, asked = some (.offer offer) → offer.serviceId ≠ serviceId) :
    KeepsConsumer serviceId nowMs before after := by
  induction steps with
  | refl => exact .of_consumers (List.nil_append _).symm rfl
  | tail _ step ih => exact ih.trans (step.keepsConsumer other)

/-! ## Moves -/

namespace World

variable {serviceId : UInt16} {nowMs : UInt32}

theorem announce_keepsConsumer (w : World cfg) :
    KeepsConsumer serviceId nowMs w (w.announce env nowMs) := by
  obtain ⟨events, history⟩ := (@announce_steps _ _ env nowMs w).suffix
  apply KeepsConsumer.of_consumers history.symm
  rw [announce, renewSubscriptions_sd, processSubscriptionRenewals, broadcastOffers_sd]
  rfl

theorem housekeeping_keepsConsumer (w : World cfg) :
    KeepsConsumer serviceId nowMs w (w.housekeeping env nowMs) := by
  have noOffer : ∀ offer : SdPayload.Offer n, none = some (SdRequest.offer offer) →
      offer.serviceId ≠ serviceId := by
    intro offer asked
    cases asked
  have timedOut : DiscoverySteps env nowMs none w (w.timeOut env nowMs) :=
    timeOut_discoverySteps w
  exact (timedOut.keepsConsumer noOffer).trans ((announce_keepsConsumer _).trans
    ((housekeeping_discoverySteps w).keepsConsumer noOffer))

theorem receive_keepsConsumer {source : Address n} {data : Bytes} (w : World cfg)
    (other : ∀ offer, heard cfg source data = some (.offer offer) →
      offer.serviceId ≠ serviceId) :
    KeepsConsumer serviceId nowMs w (w.validateAndDispatch env source data nowMs) :=
  (receive_discoverySteps source data w).keepsConsumer other

/-! ## Offers -/

/-- What an accepted offer makes of an entry. -/
def acceptOffer (offer : SdPayload.Offer n) (nowMs : UInt32) (entry : ConsumerEntry n) :
    ConsumerEntry n :=
  { entry with
    state := .found
    providerAddr := offer.providerAddr
    ttlExpiryMs := leaseEnd offer nowMs
    sessionId := offer.sessionId
    sessionValid := true }

/-- A callback run on an entry does not touch it unless it looks for the service. -/
theorem notifyFound_keeps {offer : SdPayload.Offer n} {entry : ConsumerEntry n}
    {w : World cfg} (tracked : w.rt.sd.findConsumer offer.serviceId = some entry)
    {events : History cfg}
    (history : (w.notifyFound env offer).history = events ++ w.history)
    (noFind : finds offer.serviceId events = false) :
    (w.notifyFound env offer).rt.sd.findConsumer offer.serviceId = some entry := by
  obtain ⟨same, sameEq, leaves⟩ := @notifyFound_leaves _ _ env offer.serviceId offer w
  cases List.append_cancel_right (history.symm.trans sameEq)
  have kept := leaves entry tracked
  rw [if_neg (by rw [noFind]; simp)] at kept
  exact kept

/-- An accepted offer of the session known finds the service for a whole lease, unless
the application looks for it again at once. -/
theorem handleOffer_accepts {offer : SdPayload.Offer n} {entry : ConsumerEntry n}
    {w : World cfg} (accepted : AcceptedOffer offer entry w)
    (sameSession : entry.state = .found → entry.sessionId = offer.sessionId)
    {events : History cfg}
    (history : (w.handleOffer env offer nowMs).history = events ++ w.history)
    (noFind : finds offer.serviceId events = false) :
    (w.handleOffer env offer nowMs).rt.sd.findConsumer offer.serviceId =
      some (acceptOffer offer nowMs entry) := by
  have recorded := findConsumer_recordOffer accepted.tracked nowMs
  rw [handleOffer_accepted accepted] at history ⊢
  rw [offerKind] at history ⊢
  split at history
  · next reboot => exact absurd (sameSession reboot.2.1) reboot.2.2
  · next noReboot =>
      rw [if_neg noReboot]
      split at history
      · next lost =>
          rw [if_pos lost]
          have marked := findConsumer_markFound recorded
          have flagged : (((w.recordOffer offer nowMs).markFound offer.serviceId).flagResubscribe
              offer.serviceId nowMs).rt.sd.findConsumer offer.serviceId =
              some (acceptOffer offer nowMs entry) := marked
          exact notifyFound_keeps flagged history noFind
      · next found =>
          have isFound : entry.state = .found := not_not.mp found
          have whole : { entry with
              providerAddr := offer.providerAddr
              ttlExpiryMs := leaseEnd offer nowMs
              sessionId := offer.sessionId
              sessionValid := true } = acceptOffer offer nowMs entry := by
            rw [acceptOffer, ← isFound]
          rw [if_neg found]
          rw [whole] at recorded
          split at history
          · next moved =>
              rw [if_pos moved]
              have flagged : ((w.recordOffer offer nowMs).flagResubscribe offer.serviceId
                  nowMs).rt.sd.findConsumer offer.serviceId =
                  some (acceptOffer offer nowMs entry) := recorded
              exact notifyFound_keeps flagged history noFind
          · next same =>
              rw [if_neg same]
              exact recorded

/-- An offer that is not for what is looked for finds nothing. -/
theorem handleOffer_refuses {offer : SdPayload.Offer n} {w : World cfg}
    (hasTtl : offer.ttlSeconds ≠ 0)
    (refused : ∀ entry, ¬AcceptedOffer offer entry w) :
    (w.handleOffer env offer nowMs).rt.sd.consumers = w.rt.sd.consumers := by
  have reset : ∀ w' : World cfg, w'.rt.sd = w.rt.sd →
      ServiceDiscovery.handleOffer sdLens (sdHooks env) offer.serviceId offer.majorVersion
        offer.ttlSeconds offer.sessionId offer.providerAddr nowMs w' = w' := by
    intro w' same
    rw [ServiceDiscovery.handleOffer, if_neg hasTtl, sdLens_get, same]
    cases tracked : w.rt.sd.findConsumer offer.serviceId with
    | none => rfl
    | some entry =>
        have differs : offer.majorVersion ≠ entry.expectedMajor :=
          fun major => refused entry ⟨hasTtl, tracked, major⟩
        exact if_pos differs
  rw [handleOffer]
  split
  · have same : (w.resetPeer offer.providerAddr).rt.sd = w.rt.sd := rfl
    rw [reset _ same]
    rfl
  · rw [reset w rfl]

end World

end Sero
