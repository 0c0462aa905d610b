import Sero.Properties.OfferHandling

/-!
# The lease of a found service

An accepted offer grants a lease.  Handling it runs application callbacks, which may
call `find_service` and so put the entry back to searching with no lease.  Only on a
reboot does the runtime write the entry again behind a callback.
-/

namespace Sero

open Library ServiceDiscovery

variable {n : Nat} {cfg : Config n} {env : Env cfg}

/-- Has `find_service` been called for this service? -/
def finds (serviceId : UInt16) (events : History cfg) : Bool :=
  events.any fun
    | .returned (.findService wanted _ _) _ => wanted == serviceId
    | _ => false

theorem finds_append (serviceId : UInt16) (newer older : History cfg) :
    finds serviceId (newer ++ older) = (finds serviceId newer || finds serviceId older) :=
  List.any_append

/-- `find_service` is a local call. -/
theorem finds_of_kind (serviceId : UInt16) {events : History cfg}
    (kinds : ∀ event ∈ events, event.kind ≠ .perform) : finds serviceId events = false := by
  rw [finds, List.any_eq_false]
  intro event member
  cases event with
  | returned call result =>
      cases call with
      | findService => exact absurd rfl (kinds _ member)
      | _ => simp
  | _ => simp

/-- Between two worlds a tracked consumer is left alone, or `find_service` has put it
back to searching. -/
def LeavesConsumer (serviceId : UInt16) (before after : World cfg) : Prop :=
  ∃ events, after.history = events ++ before.history ∧
    ∀ entry, before.rt.sd.findConsumer serviceId = some entry →
      if finds serviceId events = true then
        ∃ searching, after.rt.sd.findConsumer serviceId = some searching ∧
          searching.state = .searching ∧ searching.ttlExpiryMs = 0
      else after.rt.sd.findConsumer serviceId = some entry

namespace LeavesConsumer

variable {serviceId : UInt16} {first second third : World cfg}

theorem trans (left : LeavesConsumer serviceId first second)
    (right : LeavesConsumer serviceId second third) :
    LeavesConsumer serviceId first third := by
  obtain ⟨older, olderEq, leftLeaves⟩ := left
  obtain ⟨newer, newerEq, rightLeaves⟩ := right
  refine ⟨newer ++ older, by rw [newerEq, olderEq, List.append_assoc], ?_⟩
  intro entry tracked
  have early := leftLeaves entry tracked
  rw [finds_append]
  cases foundOlder : finds serviceId older with
  | false =>
      simp only [foundOlder, Bool.false_eq_true, if_false] at early
      simpa using rightLeaves entry early
  | true =>
      simp only [foundOlder, if_true] at early
      obtain ⟨searching, mid, state, expiry⟩ := early
      have late := rightLeaves searching mid
      rw [Bool.or_true, if_pos rfl]
      split at late
      · exact late
      · exact ⟨searching, late, state, expiry⟩

theorem since {entry : ConsumerEntry n} (leaves : LeavesConsumer serviceId first second)
    (tracked : first.rt.sd.findConsumer serviceId = some entry) :
    if finds serviceId (second.since first) = true then
      ∃ searching, second.rt.sd.findConsumer serviceId = some searching ∧
        searching.state = .searching ∧ searching.ttlExpiryMs = 0
    else second.rt.sd.findConsumer serviceId = some entry := by
  obtain ⟨events, history, leaves⟩ := leaves
  rw [World.since_eq history]
  exact leaves entry tracked

theorem of_sd {events : History cfg} (history : second.history = events ++ first.history)
    (quiet : ∀ event ∈ events, event.kind ≠ .perform)
    (consumers : second.rt.sd.consumers = first.rt.sd.consumers) :
    LeavesConsumer serviceId first second := by
  refine ⟨events, history, ?_⟩
  intro entry tracked
  rw [finds_of_kind serviceId quiet, findConsumer, consumers]
  exact tracked

/-- A local call. -/
theorem perform {call : ApiCall cfg} (isLocal : call.isLocal = true) (w : World cfg) :
    LeavesConsumer serviceId w (w.perform env id call) := by
  have same := @World.apiCall_same _ _ env id call isLocal w
  obtain ⟨events, history, kinds⟩ := same.history
  have quiet : finds serviceId events = false := by
    exact finds_of_kind _ (Event.kind_ne kinds (by simp) (by simp))
  refine ⟨.returned call (w.apiCall env id call).1 :: events, ?_, ?_⟩
  · rw [World.perform, List.cons_append, ← history]
    rfl
  · intro entry tracked
    have after : (w.perform env id call).rt = (w.apiCall env id call).2.rt := rfl
    by_cases isFind : ∃ wanted major nowMs, call = .findService wanted major nowMs
    · obtain ⟨wanted, major, nowMs, rfl⟩ := isFind
      have written : (w.perform env id (.findService wanted major nowMs)).rt.sd =
          (w.rt.sd.find wanted major nowMs).2 := rfl
      rw [written]
      by_cases same : wanted = serviceId
      · subst same
        rw [if_pos (by simp [finds])]
        exact ⟨_, findConsumer_find tracked major nowMs, rfl, rfl⟩
      · rw [if_neg, findConsumer_find_of_ne _ (Ne.symm same)]
        · exact tracked
        · rw [finds, List.any_cons]
          change ¬(wanted == serviceId || finds serviceId events) = true
          simp [same, quiet]
    · have notFind : ∀ wanted major nowMs, call ≠ .findService wanted major nowMs :=
        fun wanted major nowMs equal => isFind ⟨wanted, major, nowMs, equal⟩
      have consumers := @World.apiCall_consumers _ _ env id call isLocal notFind w
      have noFind : finds serviceId (.returned call (w.apiCall env id call).1 :: events) =
          false := by
        rw [finds, List.any_cons]
        change (_ || finds serviceId events) = false
        rw [quiet, Bool.or_false]
        cases call with
        | findService wanted major nowMs => exact absurd rfl (notFind wanted major nowMs)
        | _ => rfl
      rw [noFind, after, findConsumer, consumers]
      exact tracked

theorem ofApiSteps (steps : ApiSteps env first second) :
    LeavesConsumer serviceId first second := by
  induction steps with
  | refl => exact of_sd (List.nil_append _).symm (by simp) rfl
  | tail _ step ih =>
      obtain ⟨kind, isApi, step⟩ := step
      apply ih.trans
      have same := step.frame.sd
      obtain ⟨events, history, kinds⟩ := step.observes
      cases step with
      | perform isLocal => exact perform isLocal _
      | sdWrite | markRenewals => cases isApi
      | _ =>
          apply of_sd history
          · exact Event.kind_ne kinds (by simp) (by simp)
          · rw [same (by simp)]

end LeavesConsumer

/-! ## Handling an offer -/

/-- When the lease an offer grants ends. -/
def leaseEnd (offer : SdPayload.Offer n) (nowMs : UInt32) : UInt32 :=
  nowMs + offer.ttlSeconds.toUInt32 * 1000

namespace World

theorem notify_leaves (serviceId : UInt16) {w : World cfg} (isSet : Bool)
    (callback : Callback n) :
    LeavesConsumer serviceId w (if isSet then w.callback env callback else w) := by
  split
  · have history : (w.emit (.callback callback)).history = [.callback callback] ++ w.history :=
      rfl
    have entered : LeavesConsumer serviceId w (w.emit (.callback callback)) :=
      .of_sd history (by cases callback <;> simp [Event.kind]) rfl
    exact entered.trans (.ofApiSteps (react_steps _).apiSteps)
  · exact .of_sd (List.nil_append _).symm (by simp) rfl

theorem notifyLost_leaves (serviceId lost : UInt16) (w : World cfg) :
    LeavesConsumer serviceId w (w.notifyLost env lost) :=
  notify_leaves serviceId _ (.serviceLost lost)

theorem notifyFound_leaves (serviceId : UInt16) (offer : SdPayload.Offer n) (w : World cfg) :
    LeavesConsumer serviceId w (w.notifyFound env offer) :=
  notify_leaves serviceId _ (.serviceFound offer.serviceId offer.providerAddr)

variable (env) in
/-- Told that the provider has rebooted, does the application look for the service
again? -/
def lostFinds (offer : SdPayload.Offer n) (nowMs : UInt32) (w : World cfg) : Bool :=
  finds offer.serviceId ((w.rebootLost env offer nowMs).since
    ((w.resetPeer offer.providerAddr).recordOffer offer nowMs))

variable (env) in
/-- Told right after that it is found, does it look for the service again? -/
def foundFinds (offer : SdPayload.Offer n) (nowMs : UInt32) (w : World cfg) : Bool :=
  let marked := (w.rebootLost env offer nowMs).markFound offer.serviceId
  finds offer.serviceId ((marked.notifyFound env offer).since marked)

/-- The service is tracked, and if it is found its lease is the one the offer grants. -/
def Leased (offer : SdPayload.Offer n) (nowMs : UInt32) (w : World cfg) : Prop :=
  ∃ entry, w.rt.sd.findConsumer offer.serviceId = some entry ∧
    (entry.state = .found → entry.ttlExpiryMs = leaseEnd offer nowMs)

namespace Leased

variable {offer : SdPayload.Offer n} {nowMs : UInt32} {before after : World cfg}

theorem of_leaves (leased : before.Leased offer nowMs)
    (leaves : LeavesConsumer offer.serviceId before after) : after.Leased offer nowMs := by
  obtain ⟨entry, tracked, lease⟩ := leased
  obtain ⟨events, -, leaves⟩ := leaves
  have kept := leaves entry tracked
  split at kept
  · obtain ⟨searching, refound, state, -⟩ := kept
    exact ⟨searching, refound, by simp [state]⟩
  · exact ⟨entry, kept, lease⟩

theorem of_consumers (leased : before.Leased offer nowMs)
    (same : after.rt.sd.consumers = before.rt.sd.consumers) : after.Leased offer nowMs := by
  obtain ⟨entry, tracked, lease⟩ := leased
  refine ⟨entry, ?_, lease⟩
  rw [findConsumer, same]
  exact tracked

/-- A write by index that neither finds a service nor moves a lease. -/
theorem modify (leased : before.Leased offer nowMs) {index : Nat}
    {update : ConsumerEntry n → ConsumerEntry n}
    (written : after.rt.sd.consumers = before.rt.sd.consumers.modify index update)
    (keeps : ∀ entry, (update entry).serviceId = entry.serviceId)
    (still : ∀ entry, (update entry).state = .found →
      entry.state = .found ∧ (update entry).ttlExpiryMs = entry.ttlExpiryMs) :
    after.Leased offer nowMs := by
  obtain ⟨entry, tracked, lease⟩ := leased
  rw [Leased, findConsumer, written]
  rcases Table.lookup_modify keeps offer.serviceId before.rt.sd.consumers index with
    same | updated
  · exact ⟨entry, same.trans tracked, lease⟩
  · refine ⟨update entry, updated.trans (congrArg (Option.map update) tracked), ?_⟩
    intro found
    obtain ⟨wasFound, sameExpiry⟩ := still entry found
    rw [sameExpiry]
    exact lease wasFound

end Leased

theorem findConsumer_recordOffer {offer : SdPayload.Offer n} {entry : ConsumerEntry n}
    {w : World cfg} (tracked : w.rt.sd.findConsumer offer.serviceId = some entry)
    (nowMs : UInt32) :
    (w.recordOffer offer nowMs).rt.sd.findConsumer offer.serviceId =
      some { entry with
        providerAddr := offer.providerAddr
        ttlExpiryMs := leaseEnd offer nowMs
        sessionId := offer.sessionId
        sessionValid := true } := by
  have written := @findConsumer_updateConsumer _ _ w.rt.sd offer.serviceId (fun entry =>
    { entry with
      providerAddr := offer.providerAddr
      ttlExpiryMs := leaseEnd offer nowMs
      sessionId := offer.sessionId
      sessionValid := true }) (fun _ => rfl) offer.serviceId
  rw [if_pos rfl, tracked] at written
  exact written

theorem findConsumer_markFound {serviceId : UInt16} {entry : ConsumerEntry n} {w : World cfg}
    (tracked : w.rt.sd.findConsumer serviceId = some entry) :
    (w.markFound serviceId).rt.sd.findConsumer serviceId =
      some { entry with state := .found } := by
  have written := @findConsumer_updateConsumer _ _ w.rt.sd serviceId
    (fun entry => { entry with state := .found }) (fun _ => rfl) serviceId
  rw [if_pos rfl, tracked] at written
  exact written

/-! ## While nothing is received -/

section Silence

variable {offer : SdPayload.Offer n} {nowMs : UInt32} {w : World cfg}

theorem Leased.expireConsumer (leased : w.Leased offer nowMs) (index : Nat) :
    (sdLens.modify (fun sd => sd.expireConsumer index) w).Leased offer nowMs := by
  have written : (sdLens.modify (fun sd => sd.expireConsumer index) w).rt.sd.consumers =
      w.rt.sd.consumers.modify index
        fun entry => { entry with state := .notFound, sessionValid := false } := rfl
  apply leased.modify written
  · exact fun _ => rfl
  · intro entry found
    cases found

theorem Leased.giveUpFind (leased : w.Leased offer nowMs) (index : Nat)
    (retryCount : UInt8) :
    (sdLens.modify (fun sd => sd.giveUpFind index retryCount) w).Leased offer nowMs := by
  have written : (sdLens.modify (fun sd => sd.giveUpFind index retryCount)
      w).rt.sd.consumers = w.rt.sd.consumers.modify index
        fun entry => { entry with retryCount, state := .notFound } := rfl
  apply leased.modify written
  · exact fun _ => rfl
  · intro entry found
    cases found

theorem Leased.scheduleRetry (leased : w.Leased offer nowMs) (index : Nat)
    (retryCount : UInt8) (laterMs : UInt32) :
    (sdLens.modify (fun sd => sd.scheduleRetry index retryCount laterMs) w).Leased offer
      nowMs := by
  have written : (sdLens.modify (fun sd => sd.scheduleRetry index retryCount laterMs)
      w).rt.sd.consumers = w.rt.sd.consumers.modify index
        fun entry => { entry with
          retryCount
          nextRetryMs := w.rt.sd.nextRetry entry.serviceId retryCount laterMs } := rfl
  apply leased.modify written
  · exact fun _ => rfl
  · exact fun entry found => ⟨found, rfl⟩

theorem Leased.processConsumerTtl (leased : w.Leased offer nowMs) (laterMs : UInt32)
    (index : Nat) :
    (processConsumerTtl sdLens (sdHooks env) laterMs w index).Leased offer nowMs := by
  rw [ServiceDiscovery.processConsumerTtl]
  split
  · exact leased
  · next entry here =>
      split
      · have reset : (World.resetPeer entry.providerAddr
            (sdLens.modify (fun sd => sd.expireConsumer index) w)).Leased offer nowMs :=
          Leased.of_consumers (leased.expireConsumer index) rfl
        exact reset.of_leaves (notifyLost_leaves _ entry.serviceId _)
      · exact leased

theorem Leased.processFind (leased : w.Leased offer nowMs) (laterMs : UInt32)
    (index : Nat) :
    (processFind sdLens (sdHooks env) laterMs w index).Leased offer nowMs := by
  rw [ServiceDiscovery.processFind]
  split
  · exact leased
  · next entry here =>
      split
      · have sent : (w.sendSdBroadcast env (.find entry.serviceId)).Leased offer nowMs :=
          leased.of_leaves (.ofApiSteps (Background.sdBroadcast _ w).apiSteps)
        dsimp only
        split
        · have given := Leased.giveUpFind sent index (entry.retryCount + 1)
          exact given.of_leaves (notifyLost_leaves _ entry.serviceId _)
        · exact Leased.scheduleRetry sent index (entry.retryCount + 1) laterMs
      · exact leased

theorem Leased.foldl {β : Type} {body : World cfg → β → World cfg}
    (each : ∀ state item, World.Leased offer nowMs state →
      (body state item).Leased offer nowMs) (leased : w.Leased offer nowMs)
    (items : List β) : (items.foldl body w).Leased offer nowMs :=
  List.foldlRecOn items body leased fun state holds item _ => each state item holds

variable (env) in
theorem Leased.broadcastOffers (leased : w.Leased offer nowMs) (laterMs : UInt32) :
    (w.broadcastOffers env laterMs).Leased offer nowMs := by
  rw [World.broadcastOffers]
  apply Leased.foldl
  · intro state message leased
    exact leased.of_leaves (.ofApiSteps (Background.sdBroadcast message state).apiSteps)
  · exact leased.of_consumers rfl

variable (env) in
theorem Leased.renewSubscriptions (leased : w.Leased offer nowMs) (laterMs : UInt32) :
    (w.renewSubscriptions env laterMs).Leased offer nowMs := by
  rw [World.renewSubscriptions]
  apply Leased.foldl
  · intro state send leased
    exact leased.of_leaves (.ofApiSteps (Background.sdUnicast send.1 send.2 state).apiSteps)
  · exact leased.of_consumers rfl

theorem Leased.housekeeping (leased : w.Leased offer nowMs) (laterMs : UInt32) :
    (w.housekeeping env laterMs).Leased offer nowMs := by
  have requests : (w.evictRequests env laterMs).Leased offer nowMs :=
    leased.of_leaves (.ofApiSteps (evictRequests_steps laterMs w).apiSteps)
  have subscribers : ((w.evictRequests env laterMs).evictSubscribers laterMs).Leased offer
      nowMs := requests.of_consumers rfl
  have offers := subscribers.broadcastOffers env laterMs
  have renewals := offers.renewSubscriptions env laterMs
  rw [World.housekeeping, processFinds, processConsumerTtls]
  apply Leased.foldl
  · exact fun state index leased => leased.processFind laterMs index
  · apply Leased.foldl
    · exact fun state index leased => leased.processConsumerTtl laterMs index
    · exact renewals

end Silence

end World

/-- A move that delivers no datagram. -/
def Move.isSilent : Move cfg → Bool
  | .deliver .. => false
  | _ => true

namespace World

variable {offer : SdPayload.Offer n} {nowMs : UInt32}

theorem Leased.run {moves : List (Move cfg)} (silent : ∀ move ∈ moves, move.isSilent = true)
    {w : World cfg} (leased : w.Leased offer nowMs) : (run env moves w).Leased offer nowMs := by
  apply List.foldlRecOn moves (step env) leased
  intro state leased move member
  cases move with
  | api call => exact leased.of_leaves (.ofApiSteps (perform_steps react_steps call state).apiSteps)
  | start laterMs => exact leased.of_consumers rfl
  | deliver => cases silent _ member
  | housekeeping laterMs => exact leased.housekeeping laterMs

end World

/-- No step files a service twice. -/
theorem Atomic.distinctConsumers {kind : StepKind} {before after : World cfg}
    (distinct : before.rt.sd.DistinctConsumers) (step : Atomic env kind before after) :
    after.rt.sd.DistinctConsumers := by
  have same := step.frame.sd
  cases step with
  | @perform call isLocal w =>
      change (before.apiCall env id call).2.rt.sd.DistinctConsumers
      by_cases isFind : ∃ serviceId major nowMs, call = .findService serviceId major nowMs
      · obtain ⟨serviceId, major, nowMs, rfl⟩ := isFind
        exact distinct.find serviceId major nowMs
      · have notFind : ∀ serviceId major nowMs, call ≠ .findService serviceId major nowMs :=
          fun serviceId major nowMs equal => isFind ⟨serviceId, major, nowMs, equal⟩
        rw [DistinctConsumers, World.apiCall_consumers id isLocal notFind]
        exact distinct
  | sdWrite write =>
      cases write with
      | recordOffer | markFound => exact distinct.updateConsumer _ fun _ => rfl
      | giveUpFind | scheduleRetry | expireConsumer =>
          exact distinct.updateConsumerAt _ fun _ => rfl
      | flagResubscribe | recordAck | processOffers => exact distinct
  | markRenewals => exact distinct
  | _ =>
      rw [same (by simp)]
      exact distinct

theorem Steps.distinctConsumers {before after : World cfg} (steps : Steps env before after)
    (distinct : before.rt.sd.DistinctConsumers) : after.rt.sd.DistinctConsumers := by
  induction steps with
  | refl => exact distinct
  | tail _ step ih =>
      obtain ⟨kind, step⟩ := step
      exact step.distinctConsumers ih

namespace World

theorem Reachable.distinctConsumers {w : World cfg} (reachable : Reachable env w) :
    w.rt.sd.DistinctConsumers := by
  obtain ⟨clientId, moves, rfl⟩ := reachable
  exact (run_steps moves _).distinctConsumers List.nodup_nil

section Pass

variable {offer : SdPayload.Offer n} {nowMs elapsed : UInt32} {w : World cfg}

/-- Within its lease the service does not expire. -/
theorem Leased.not_expired {entry : ConsumerEntry n} (leased : w.Leased offer nowMs)
    (tracked : w.rt.sd.findConsumer offer.serviceId = some entry)
    (found : entry.state = .found)
    (within : elapsed.toNat ≤ offer.ttlSeconds.toNat * 1000) :
    timeAfter (nowMs + elapsed) entry.ttlExpiryMs = false := by
  obtain ⟨leasedEntry, sameKey, lease⟩ := leased
  cases sameKey.symm.trans tracked
  have short := offer.ttlSeconds.toNat_lt
  rw [lease found, leaseEnd]
  apply timeAfter_add_of_le <;> rw [toNat_lifetime]
  · exact within
  · omega

/-- What a pass within the lease keeps since its start. -/
structure WithinLease (offer : SdPayload.Offer n) (nowMs : UInt32) (start w : World cfg) :
    Prop where
  leased : w.Leased offer nowMs
  distinct : w.rt.sd.DistinctConsumers
  unlost : ∃ events, w.history = events ++ start.history ∧
    .callback (.serviceLost offer.serviceId) ∉ events

theorem WithinLease.start (leased : w.Leased offer nowMs)
    (distinct : w.rt.sd.DistinctConsumers) : WithinLease offer nowMs w w :=
  ⟨leased, distinct, [], rfl, List.not_mem_nil⟩

/-- One turn of a pass does not report the service as lost. -/
theorem WithinLease.turn {first : World cfg} (holds : WithinLease offer nowMs first w)
    (within : elapsed.toNat ≤ offer.ttlSeconds.toNat * 1000) (index : Nat) :
    WithinLease offer nowMs first
      (processConsumerTtl sdLens (sdHooks env) (nowMs + elapsed) w index) := by
  refine ⟨holds.leased.processConsumerTtl _ index,
    (walk_steps.processConsumerTtl _ w index).distinctConsumers holds.distinct, ?_⟩
  obtain ⟨older, history, unlost⟩ := holds.unlost
  rw [processConsumerTtl]
  split
  · exact ⟨older, history, unlost⟩
  · next entry here =>
      split
      · next expired =>
          have tracked : w.rt.sd.findConsumer entry.serviceId = some entry :=
            holds.distinct.lookup_of_mem (List.mem_of_getElem? here)
          have other : offer.serviceId ≠ entry.serviceId := by
            intro same
            rw [← same] at tracked
            rw [holds.leased.not_expired tracked expired.1 within] at expired
            cases expired.2
          let reset := World.resetPeer entry.providerAddr
            (sdLens.modify (fun sd => sd.expireConsumer index) w)
          have resetHistory : reset.history =
              .peerReset entry.providerAddr :: (older ++ first.history) := by
            rw [← history]
            rfl
          dsimp only
          rw [callServiceLost]
          split
          · let entered := reset.emit (.callback (.serviceLost entry.serviceId))
            obtain ⟨newer, grown, isApi⟩ := (@react_steps _ _ env entered).apiSteps.observes
            refine ⟨newer ++ .callback (.serviceLost entry.serviceId) ::
              .peerReset entry.providerAddr :: older, ?_, ?_⟩
            · refine grown.trans ?_
              simp [entered, resetHistory]
            · intro member
              rcases List.mem_append.mp member with inBody | before
              · cases isApi _ inBody
              · simp [other, unlost] at before
          · exact ⟨.peerReset entry.providerAddr :: older, resetHistory, by simp [unlost]⟩
      · exact ⟨older, history, unlost⟩

/-- Nor does a whole pass. -/
theorem WithinLease.pass (leased : w.Leased offer nowMs)
    (distinct : w.rt.sd.DistinctConsumers)
    (within : elapsed.toNat ≤ offer.ttlSeconds.toNat * 1000) :
    WithinLease offer nowMs w
      (processConsumerTtls sdLens (sdHooks env) (nowMs + elapsed) w) :=
  List.foldlRecOn (List.range cfg.maxKnownServices) _ (WithinLease.start leased distinct)
    fun _ holds index _ => holds.turn within index

end Pass

/-! ## Whether an offer's lease is honoured -/

/-- A service that is found when an offer has been handled has the lease it grants, and
however the application and the clock go on while nothing is received, no pass within
the lease reports it as lost. -/
structure LeaseHonoured (env : Env cfg) (offer : SdPayload.Offer n) (nowMs : UInt32)
    (w : World cfg) : Prop where
  leased : (w.handleOffer env offer nowMs).Leased offer nowMs
  notLost : ∀ (moves : List (Move cfg)) (elapsed : UInt32),
    (∀ move ∈ moves, move.isSilent = true) →
    elapsed.toNat ≤ offer.ttlSeconds.toNat * 1000 →
      let later := run env moves (w.handleOffer env offer nowMs)
      .callback (.serviceLost offer.serviceId) ∉
        (processConsumerTtls sdLens (sdHooks env) (nowMs + elapsed) later).since later

section Treatments

variable {offer : SdPayload.Offer n} {nowMs : UInt32} {w : World cfg}
variable {entry : ConsumerEntry n}

theorem Leased.recordOffer (tracked : w.rt.sd.findConsumer offer.serviceId = some entry)
    (nowMs : UInt32) : (w.recordOffer offer nowMs).Leased offer nowMs :=
  ⟨_, findConsumer_recordOffer tracked nowMs, fun _ => rfl⟩

/-- Of a reboot, the lease is lost exactly if the application looks for the service
when it is lost, and not when it is found again. -/
theorem leased_reboot_iff (tracked : w.rt.sd.findConsumer offer.serviceId = some entry) :
    (w.treatOffer env offer nowMs .reboot).Leased offer nowMs ↔
      lostFinds env offer nowMs w = false ∨ foundFinds env offer nowMs w = true ∨
        leaseEnd offer nowMs = 0 := by
  let recorded := (w.resetPeer offer.providerAddr).recordOffer offer nowMs
  have written : recorded.rt.sd.findConsumer offer.serviceId = some _ :=
    findConsumer_recordOffer (w := w.resetPeer offer.providerAddr) tracked nowMs
  let marked := (w.rebootLost env offer nowMs).markFound offer.serviceId
  have found : LeavesConsumer offer.serviceId marked (marked.notifyFound env offer) :=
    notifyFound_leaves _ _ _
  have same : (w.treatOffer env offer nowMs .reboot).Leased offer nowMs ↔
      (marked.notifyFound env offer).Leased offer nowMs :=
    Iff.rfl
  have lost := (@notifyLost_leaves _ _ env offer.serviceId offer.serviceId recorded).since
    written
  rw [same]
  cases lookedLost : lostFinds env offer nowMs w with
  | false =>
      rw [if_neg (by rw [Bool.not_eq_true]; exact lookedLost)] at lost
      have leased : marked.Leased offer nowMs := ⟨_, findConsumer_markFound lost, fun _ => rfl⟩
      simp [leased.of_leaves found]
  | true =>
      rw [if_pos (by exact lookedLost)] at lost
      obtain ⟨searching, research, state, expiry⟩ := lost
      have last := found.since (findConsumer_markFound research)
      cases lookedFound : foundFinds env offer nowMs w with
      | true =>
          rw [if_pos (by exact lookedFound)] at last
          obtain ⟨again, refound, againState, -⟩ := last
          simp [Leased, refound, againState]
      | false =>
          rw [if_neg (by rw [Bool.not_eq_true]; exact lookedFound)] at last
          simp [Leased, last, expiry, eq_comm]

/-- Every other treatment honours the lease. -/
theorem leased_other (tracked : w.rt.sd.findConsumer offer.serviceId = some entry)
    {kind : OfferKind} (other : kind ≠ .reboot) :
    (w.treatOffer env offer nowMs kind).Leased offer nowMs := by
  have recorded := Leased.recordOffer tracked nowMs
  cases kind with
  | reboot => exact absurd rfl other
  | newlyFound =>
      have marked : ((w.recordOffer offer nowMs).markFound offer.serviceId).Leased offer
          nowMs :=
        ⟨_, findConsumer_markFound (findConsumer_recordOffer tracked nowMs), fun _ => rfl⟩
      have flagged : (((w.recordOffer offer nowMs).markFound
          offer.serviceId).flagResubscribe offer.serviceId nowMs).Leased offer nowMs :=
        marked.of_consumers rfl
      exact flagged.of_leaves (notifyFound_leaves _ _ _)
  | providerChange =>
      have flagged : ((w.recordOffer offer nowMs).flagResubscribe offer.serviceId
          nowMs).Leased offer nowMs :=
        recorded.of_consumers rfl
      exact flagged.of_leaves (notifyFound_leaves _ _ _)
  | renewal => exact recorded

/-- The lease is honoured unless a reboot was announced to an application that looks for
the service when it is lost and not when it is found again. -/
theorem leaseHonoured_iff (reachable : Reachable env w)
    (accepted : AcceptedOffer offer entry w) (nowMs : UInt32) :
    LeaseHonoured env offer nowMs w ↔
      offerKind entry offer ≠ .reboot ∨ lostFinds env offer nowMs w = false ∨
        foundFinds env offer nowMs w = true ∨ leaseEnd offer nowMs = 0 := by
  have treated := @handleOffer_accepted _ _ env _ _ _ accepted nowMs
  have leased_iff : (w.handleOffer env offer nowMs).Leased offer nowMs ↔
      offerKind entry offer ≠ .reboot ∨ lostFinds env offer nowMs w = false ∨
        foundFinds env offer nowMs w = true ∨ leaseEnd offer nowMs = 0 := by
    rw [treated]
    by_cases reboot : offerKind entry offer = .reboot
    · rw [reboot, leased_reboot_iff accepted.tracked]
      simp
    · simp [reboot, leased_other accepted.tracked reboot]
  rw [← leased_iff]
  constructor
  · exact LeaseHonoured.leased
  · intro leased
    constructor
    · exact leased
    · intro moves elapsed silent within later
      have laterLeased : later.Leased offer nowMs := leased.run silent
      have steps : Steps env w later :=
        (handleOffer_steps offer nowMs w).trans (run_steps moves _)
      have distinct := steps.distinctConsumers reachable.distinctConsumers
      obtain ⟨events, history, unlost⟩ := (WithinLease.pass laterLeased distinct within).unlost
      rw [since_eq history]
      exact unlost

end Treatments

end World

theorem leaseHonoured_renewal :
    World.LeaseHonoured (.benign _) (providerOffer 2 1) 2000 (consumerWorld (.benign _)) :=
  (World.leaseHonoured_iff ⟨1, _, rfl⟩ (accepted_consumer 2 1) 2000).mpr (.inl (by decide))

/-- An application that looks for a service again as soon as it is lost. -/
def seekingEnv : Env embeddedConfig :=
  { Env.benign _ with
    react := fun
      | .callback (.serviceLost serviceId) :: _ => .call (.findService serviceId 1 2000) .done .done
      | _ => .done }

/-- The provider reboots, and the service ends up found with the expiry `find` wrote. -/
theorem seeking_application_loses_lease :
    let w := consumerWorld seekingEnv
    World.Reachable seekingEnv w ∧ World.AcceptedOffer (providerOffer 2 2) foundEntry w ∧
      ¬World.LeaseHonoured seekingEnv (providerOffer 2 2) 2000 w := by
  intro w
  have accepted : World.AcceptedOffer (providerOffer 2 2) foundEntry w :=
    ⟨(by decide : (5 : UInt16) ≠ 0), by decide +kernel, rfl⟩
  have last : (w.handleOffer seekingEnv (providerOffer 2 2) 2000).rt.sd.findConsumer 0x2000 =
      some { foundEntry with ttlExpiryMs := 0, nextRetryMs := 2000, sessionId := 2 } := by
    decide +kernel
  refine ⟨⟨1, _, rfl⟩, accepted, ?_⟩
  intro honoured
  obtain ⟨entry, tracked, lease⟩ := honoured.leased
  cases last.symm.trans tracked
  exact absurd (lease rfl) (by decide)

end Sero
