import Sero.Properties.LastCallWins

/-!
# An unsubscribe is final

An unsubscribe is recorded at once and carried out by a later renewal pass, possibly after
the provider has been lost and found again.  Until then the tracker is active, but it is no
longer registered, which is what the reconnection logic looks at, and it asks for nothing.
-/

namespace Sero

open Library ServiceDiscovery

variable {n : Nat} {cfg : Config n} {env : Env cfg}

/-! ## Trackers that ask for nothing -/

/-- The device neither asks for the event nor renews it. -/
def SubTracker.Dormant (tracker : SubTracker) : Prop :=
  tracker.active = true → tracker.needsUnsubscribe = true

/-- Whatever the tracker of the event is, it is as described. -/
structure Rests (serviceId eventId : UInt16) (describes : SubTracker → Prop) (w : World cfg) :
    Prop where
  distinct : w.rt.sd.DistinctTrackers
  described : ∀ tracker, w.rt.sd.findSubTracker serviceId eventId = some tracker →
    describes tracker

/-- Unless the application subscribes, the tracker of the event stays as described and the
device does not ask for it. -/
def Upholds (serviceId eventId : UInt16) (describes : SubTracker → Prop)
    (before after : World cfg) : Prop :=
  ∃ events, after.history = events ++ before.history ∧
    (events.any (Event.subscribes serviceId eventId) = false →
      Rests serviceId eventId describes before →
      Rests serviceId eventId describes after ∧
        ∀ sent ∈ events.filterMap Event.sdFrame,
          mentions [.subscribeEvent] serviceId eventId sent.2 = false)

variable {serviceId eventId : UInt16} {describes : SubTracker → Prop}

namespace Upholds

theorem refl (w : World cfg) : Upholds serviceId eventId describes w w :=
  ⟨[], rfl, fun _ rests => ⟨rests, by simp⟩⟩

theorem trans {first second third : World cfg}
    (left : Upholds serviceId eventId describes first second)
    (right : Upholds serviceId eventId describes second third) :
    Upholds serviceId eventId describes first third := by
  obtain ⟨older, olderEq, leftUpholds⟩ := left
  obtain ⟨newer, newerEq, rightUpholds⟩ := right
  refine ⟨newer ++ older, by rw [newerEq, olderEq, List.append_assoc], ?_⟩
  intro silent rests
  rw [List.any_append, Bool.or_eq_false_iff] at silent
  obtain ⟨middle, olderFrames⟩ := leftUpholds silent.2 rests
  obtain ⟨last, newerFrames⟩ := rightUpholds silent.1 middle
  refine ⟨last, ?_⟩
  rw [List.filterMap_append]
  intro sent member
  exact (List.mem_append.mp member).elim (newerFrames sent) (olderFrames sent)

variable {before after : World cfg}

/-- A step that sends no frame about the event and writes its tracker so. -/
theorem of_silent {events : History cfg} {update : SubTracker → SubTracker}
    (history : after.history = events ++ before.history)
    (frames : ∀ sent ∈ events.filterMap Event.sdFrame, asksFor serviceId eventId sent.2 = false)
    (distinct : before.rt.sd.DistinctTrackers → after.rt.sd.DistinctTrackers)
    (tracker : after.rt.sd.findSubTracker serviceId eventId =
      (before.rt.sd.findSubTracker serviceId eventId).map update)
    (keeps : ∀ tracker, before.rt.sd.findSubTracker serviceId eventId = some tracker →
      describes tracker → describes (update tracker)) :
    Upholds serviceId eventId describes before after := by
  refine ⟨events, history, ?_⟩
  intro _ rests
  constructor
  · constructor
    · exact distinct rests.distinct
    · intro written found
      rw [tracker] at found
      obtain ⟨old, known, rfl⟩ := Option.map_eq_some_iff.mp found
      exact keeps old known (rests.described old known)
  · intro sent member
    exact mentions_eq_false (by simp) (frames sent member)

/-- A step that only writes discovery. -/
theorem of_write {write : ServiceDiscovery cfg → ServiceDiscovery cfg}
    {update : SubTracker → SubTracker} (w : World cfg)
    (distinct : w.rt.sd.DistinctTrackers → (write w.rt.sd).DistinctTrackers)
    (tracker : (write w.rt.sd).findSubTracker serviceId eventId =
      (w.rt.sd.findSubTracker serviceId eventId).map update)
    (keeps : ∀ tracker, w.rt.sd.findSubTracker serviceId eventId = some tracker →
      describes tracker → describes (update tracker)) :
    Upholds serviceId eventId describes w (World.sdLens.modify write w) :=
  @of_silent _ _ _ _ _ w (World.sdLens.modify write w) [] update (List.nil_append _).symm
    (by simp) distinct tracker keeps

end Upholds

/-- Unless the application calls about the event, a step writes its tracker so. -/
def Writes (serviceId eventId : UInt16) (describes : SubTracker → Prop)
    (before after : World cfg) : Prop :=
  ∀ events, after.history = events ++ before.history →
    resubscribes serviceId eventId events = false → before.rt.sd.DistinctTrackers →
    ∃ update, after.rt.sd.findSubTracker serviceId eventId =
        (before.rt.sd.findSubTracker serviceId eventId).map update ∧
      ∀ tracker, before.rt.sd.findSubTracker serviceId eventId = some tracker →
        describes tracker → describes (update tracker)

theorem Writes.of_same {before after : World cfg}
    (same : after.rt.sd.findSubTracker serviceId eventId =
      before.rt.sd.findSubTracker serviceId eventId) :
    Writes serviceId eventId describes before after :=
  fun _ _ _ _ => ⟨id, same.trans Option.map_id'.symm, fun _ _ described => described⟩

namespace Concerns

variable {before after : World cfg}

/-- A step may flag the event. -/
theorem writes (concerns : Concerns serviceId eventId before after)
    (flags : ∀ tracker service nowMs, describes tracker →
      describes (SubTracker.flagged service nowMs tracker)) :
    Writes serviceId eventId describes before after := by
  intro events history others _
  cases concerns with
  | silent _ _ tracker =>
      rcases tracker with same | ⟨service, nowMs, flagged⟩
      · exact ⟨id, same.trans Option.map_id'.symm, fun _ _ described => described⟩
      · exact ⟨_, flagged, fun tracker _ => flags tracker service nowMs⟩
  | subscribed _ _ _ called | refused _ _ _ called | unsubscribed called =>
      rw [called, ← List.singleton_append] at history
      cases List.append_cancel_right history
      simp [resubscribes] at others

theorem upholds (concerns : Concerns serviceId eventId before after)
    (distinct : before.rt.sd.DistinctTrackers → after.rt.sd.DistinctTrackers)
    (withdraws : ∀ tracker, describes tracker → describes (SubTracker.withdraw tracker))
    (writes : Writes serviceId eventId describes before after) :
    Upholds serviceId eventId describes before after := by
  cases concerns with
  | @silent events history silent _ =>
      refine ⟨events, history, ?_⟩
      intro quiet rests
      obtain ⟨update, written, keeps⟩ := writes events history silent.calls rests.distinct
      obtain ⟨_, same, upheld⟩ := Upholds.of_silent history silent.frames distinct written keeps
      cases List.append_cancel_right (history.symm.trans same)
      exact upheld quiet rests
  | subscribed context ttlSeconds nowMs history =>
      refine ⟨[_], history, ?_⟩
      intro silent
      simp [Event.subscribes] at silent
  | refused context ttlSeconds nowMs history tracker =>
      apply @Upholds.of_silent _ _ _ _ _ before after [_] id history
      · simp [Event.sdFrame]
      · exact distinct
      · exact tracker.trans Option.map_id'.symm
      · exact fun _ _ described => described
  | unsubscribed history tracker =>
      apply @Upholds.of_silent _ _ _ _ _ before after [_] _ history
      · simp [Event.sdFrame]
      · exact distinct
      · exact tracker
      · exact fun tracker _ => withdraws tracker

end Concerns

/-- An answer to a subscription. -/
theorem Upholds.answer (w : World cfg) (service event : UInt16) (result : ReturnCode)
    (grantedTtl : UInt16)
    (answers : ∀ tracker, describes tracker →
      describes (SubTracker.acknowledge result grantedTtl tracker)) :
    Upholds serviceId eventId describes w
      (World.sdLens.modify (fun sd => sd.recordAck service event result grantedTtl) w) := by
  have looked := findSubTracker_recordAck w.rt.sd service event result grantedTtl serviceId
    eventId
  have distinct : w.rt.sd.DistinctTrackers →
      (w.rt.sd.recordAck service event result grantedTtl).DistinctTrackers :=
    fun distinct => distinct.updateSubTracker service event
      (SubTracker.acknowledge_key result grantedTtl)
  split at looked
  · exact @Upholds.of_write _ _ _ _ describes _ _ w distinct looked
      fun tracker _ => answers tracker
  · exact @Upholds.of_write _ _ _ _ describes _ id w distinct
      (looked.trans Option.map_id'.symm) fun _ _ described => described

/-- The offers of a cycle. -/
theorem World.broadcastOffers_upholds (nowMs : UInt32)
    (withdraws : ∀ tracker, describes tracker → describes (SubTracker.withdraw tracker))
    (w : World cfg) : Upholds serviceId eventId describes w (w.broadcastOffers env nowMs) := by
  have trackers := @World.broadcastOffers_subTrackers _ _ env nowMs w
  apply (w.broadcastOffers_concerns nowMs).upholds _ withdraws
  · apply Writes.of_same
    rw [findSubTracker, trackers, ← findSubTracker]
  · rw [DistinctTrackers, DistinctTrackers, trackers]
    exact id

/-- A renewal pass does not ask for an event whose tracker is dormant. -/
theorem World.renewSubscriptions_upholds (nowMs : UInt32)
    (dormant : ∀ tracker, describes tracker → tracker.Dormant)
    (renews : ∀ (sd : ServiceDiscovery cfg) tracker, describes tracker →
      describes (sd.renew nowMs tracker).2) (w : World cfg) :
    Upholds serviceId eventId describes w (w.renewSubscriptions env nowMs) := by
  obtain ⟨burst, history, -, fromSends, -⟩ := @World.renewSubscriptions_burst _ _ env nowMs w
  have sd := @World.renewSubscriptions_sd _ _ env nowMs w
  let pass : Event cfg := .renewals (w.rt.sd.processSubscriptionRenewals nowMs).1 w.rt.sd
    (w.rt.sd.processSubscriptionRenewals nowMs).2
  have whole : (w.renewSubscriptions env nowMs).history = (burst ++ [pass]) ++ w.history := by
    rw [List.append_assoc]
    exact history
  refine ⟨burst ++ [pass], whole, ?_⟩
  intro _ rests
  constructor
  · constructor
    · rw [sd]
      exact rests.distinct.map (w.rt.sd.renew_key nowMs) rfl
    · intro tracker found
      rw [sd, findSubTracker_processSubscriptionRenewals] at found
      obtain ⟨old, known, rfl⟩ := Option.map_eq_some_iff.mp found
      exact renews _ old (rests.described old known)
  · have same : (burst ++ [pass]).filterMap Event.sdFrame = burst.filterMap Event.sdFrame := by
      rw [List.filterMap_append]
      exact List.append_nil _
    rw [same]
    intro sent member
    obtain ⟨⟨dest, message⟩, inSends, counter, rfl⟩ := fromSends sent member
    rw [← Bool.not_eq_true]
    intro named
    rcases asksFor_frame (asksFor_of_mentions (by simp) named) with ⟨ttlSeconds, rfl⟩ | rfl
    · obtain ⟨tracker, isTracker, active, -, sends⟩ := mem_processSubscriptionRenewals inSends
      have looked := Table.Distinct.lookup_of_mem rests.distinct isTracker
      rcases renewTracker_message sends with ⟨-, equal⟩ | ⟨kept, equal⟩
      · cases equal
      · cases equal
        have asking := dormant tracker (rests.described tracker looked) active
        rw [kept] at asking
        cases asking
    · rw [mentions_asks] at named
      cases named

/-! ## Giving an event up -/

/-- Is it a successful call that gives the event up? -/
def Event.unsubscribes (serviceId eventId : UInt16) : Event cfg → Bool
  | .returned (.unsubscribeEvent service event) (.bool true) =>
      service == serviceId && event == eventId
  | _ => false

/-- How many unsubscribe frames are still to be sent. -/
def ServiceDiscovery.unsubscribesDue (serviceId eventId : UInt16) (sd : ServiceDiscovery cfg) :
    Nat :=
  ((sd.findSubTracker serviceId eventId).any SubTracker.needsUnsubscribe).toNat

/-- Every unsubscribe frame is paid for by a call. -/
def Pays (serviceId eventId : UInt16) (before after : World cfg) : Prop :=
  ∃ events, after.history = events ++ before.history ∧
    (before.rt.sd.DistinctTrackers →
      after.rt.sd.DistinctTrackers ∧
        events.countP (Event.withdraws serviceId eventId) +
            after.rt.sd.unsubscribesDue serviceId eventId ≤
          before.rt.sd.unsubscribesDue serviceId eventId +
            events.countP (Event.unsubscribes serviceId eventId))

/-- What a list of events counts for is what its frames do. -/
theorem countP_sdFrame (reads : Bytes → Bool) (events : History cfg) :
    events.countP (fun event => event.sdFrame.any fun sent => reads sent.2) =
      (events.filterMap Event.sdFrame).countP fun sent => reads sent.2 := by
  rw [List.countP_filterMap]
  apply List.countP_congr
  intro event _
  cases event.sdFrame <;> rfl

/-- Frames that say nothing about the event count for nothing. -/
theorem countP_mentions_eq_zero {method : SdMethod}
    (asks : method ∈ [.subscribeEvent, .unsubscribe]) {events : History cfg}
    (frames : ∀ sent ∈ events.filterMap Event.sdFrame,
      asksFor serviceId eventId sent.2 = false) :
    events.countP (fun event => event.sdFrame.any fun sent =>
      mentions [method] serviceId eventId sent.2) = 0 := by
  rw [countP_sdFrame (mentions [method] serviceId eventId), List.countP_eq_zero]
  intro sent member
  rw [mentions_eq_false asks (frames sent member)]
  exact Bool.false_ne_true

/-! ## Counting what a renewal pass sends -/

theorem fits_unsubscribe (service event clientId : UInt16) :
    (SdMessage.unsubscribe (n := n) service event).Fits cfg clientId := by
  rw [SdMessage.Fits, SdMessage.encode_length, maxMsgSize]
  simp only [SdMessage.payload, SdPayload.serializeSubscribe, List.length_append,
    writeU16_length, List.length_cons, List.length_nil, headerSize, crcSize, hmacSize]
  omega

/-- A tracker is renewed for its own event only. -/
theorem renewal_key {nowMs : UInt32} {tracker : SubTracker} {message : SdMessage n}
    (sent : (renewTracker cfg nowMs tracker).1 = some message)
    (about : message.asks serviceId eventId = true ∨
      message.withdraws serviceId eventId = true) :
    SubTracker.key tracker = (serviceId, eventId) := by
  rcases renewTracker_message sent with ⟨-, rfl⟩ | ⟨-, rfl⟩
  · have same := about.resolve_left Bool.false_ne_true
    rw [SdMessage.withdraws, Bool.and_eq_true, beq_iff_eq, beq_iff_eq] at same
    exact Prod.ext same.1 same.2
  · have same := about.resolve_right Bool.false_ne_true
    rw [SdMessage.asks, Bool.and_eq_true, beq_iff_eq, beq_iff_eq] at same
    exact Prod.ext same.1 same.2

/-- A series of unicasts counts for as much as its messages do. -/
theorem World.foldl_unicast_count {reads : Bytes → Bool} {counts : SdMessage n → Bool}
    (agree : ∀ (message : SdMessage n) clientId sequenceCounter,
      reads (message.frame clientId sequenceCounter) = counts message)
    (sends : List (Address n × SdMessage n)) (w : World cfg)
    (fits : ∀ send ∈ sends, send.2.Fits cfg w.rt.sd.clientId) :
    ∃ events, (sends.foldl (fun w send => w.sendSdUnicast env send.1 send.2) w).history =
        events ++ w.history ∧
      events.countP (fun event => event.sdFrame.any fun sent => reads sent.2) =
        sends.countP fun send => counts send.2 := by
  induction sends generalizing w with
  | nil => exact ⟨[], rfl, rfl⟩
  | cons first rest ih =>
      have core := @World.sendSdUnicast_core _ _ env first.1 first.2 w
      obtain ⟨older, olderEq, -⟩ := core.history
      obtain ⟨newer, newerEq, counted⟩ := ih (w.sendSdUnicast env first.1 first.2)
        (by rw [core.sd]; exact fun send member => fits send (.tail _ member))
      have whole := World.traffic_append olderEq
      rw [sendSdUnicast_traffic first.1 (fits first (.head _)), ← List.singleton_append] at whole
      refine ⟨newer ++ older, by rw [List.foldl_cons, newerEq, olderEq, List.append_assoc], ?_⟩
      rw [List.countP_append, counted, List.countP_cons, countP_sdFrame,
        ← List.append_cancel_right whole, List.countP_singleton, agree]

/-- A pass sends about an event what the tracker of the event calls for. -/
theorem World.renewSubscriptions_count {reads : Bytes → Bool} {counts : SdMessage n → Bool}
    (agree : ∀ (message : SdMessage n) clientId sequenceCounter,
      reads (message.frame clientId sequenceCounter) = counts message)
    {nowMs : UInt32} (only : ∀ tracker message,
      (renewTracker cfg nowMs tracker).1 = some message → counts message = true →
      SubTracker.key tracker = (serviceId, eventId)) {w : World cfg}
    (distinct : w.rt.sd.DistinctTrackers) :
    ∃ burst, (w.renewSubscriptions env nowMs).history =
        burst ++ .renewals (w.rt.sd.processSubscriptionRenewals nowMs).1 w.rt.sd
          (w.rt.sd.processSubscriptionRenewals nowMs).2 :: w.history ∧
      burst.countP (fun event => event.sdFrame.any fun sent => reads sent.2) =
        ((w.rt.sd.findSubTracker serviceId eventId).any fun tracker =>
          (w.rt.sd.renew nowMs tracker).1.any fun send => counts send.2).toNat := by
  obtain ⟨burst, history, counted⟩ := @World.foldl_unicast_count _ _ env _ _ agree
    (w.rt.sd.processSubscriptionRenewals nowMs).1 (w.markRenewals nowMs) (by
      intro send inSends
      obtain ⟨tracker, -, -, -, sent⟩ := mem_processSubscriptionRenewals inSends
      rcases renewTracker_message sent with ⟨-, message⟩ | ⟨-, message⟩ <;> rw [message]
      · exact fits_unsubscribe _ _ _
      · exact fits_subscribe _ _ _ _)
  refine ⟨burst, history, counted.trans ?_⟩
  rw [processSubscriptionRenewals, List.countP_filterMap, findSubTracker]
  have about : ∀ tracker, ((w.rt.sd.renew nowMs tracker).1.map
      fun send => counts send.2).getD false =
        (w.rt.sd.renew nowMs tracker).1.any fun send => counts send.2 := by
    intro tracker
    cases (w.rt.sd.renew nowMs tracker).1 <;> rfl
  simp only [about]
  apply Table.Distinct.countP_eq distinct
  intro tracker _ sends
  obtain ⟨send, renewal, counted⟩ := (Option.any_eq_true _ _).mp sends
  rw [renew] at renewal
  split at renewal
  · obtain ⟨message, sent, rfl⟩ := Option.map_eq_some_iff.mp renewal
    exact only tracker message sent counted
  · cases renewal

/-- A pass gives an event up only if that is due, and then it no longer is. -/
theorem renew_withdraws {sd : ServiceDiscovery cfg} {nowMs : UInt32} {tracker : SubTracker}
    (sends : ((sd.renew nowMs tracker).1.any fun send =>
      send.2.withdraws serviceId eventId) = true) :
    tracker.needsUnsubscribe = true ∧ (sd.renew nowMs tracker).2.needsUnsubscribe = false := by
  rw [renew] at sends ⊢
  split at sends
  · have turn := @renewTracker_turn _ cfg nowMs tracker
    rcases result : renewTracker cfg nowMs tracker with ⟨message, after⟩
    rw [result] at turn sends
    cases turn with
    | unsubscribe wanted => exact ⟨wanted, rfl⟩
    | _ => cases sends
  · cases sends

namespace Pays

theorem trans {first second third : World cfg}
    (left : Pays serviceId eventId first second) (right : Pays serviceId eventId second third) :
    Pays serviceId eventId first third := by
  obtain ⟨older, olderEq, leftPays⟩ := left
  obtain ⟨newer, newerEq, rightPays⟩ := right
  refine ⟨newer ++ older, by rw [newerEq, olderEq, List.append_assoc], ?_⟩
  intro distinct
  obtain ⟨middle, olderBound⟩ := leftPays distinct
  obtain ⟨last, newerBound⟩ := rightPays middle
  refine ⟨last, ?_⟩
  rw [List.countP_append, List.countP_append]
  omega

/-- What is not a call about the event gives nothing up. -/
theorem countP_unsubscribes_eq_zero {events : History cfg}
    (others : resubscribes serviceId eventId events = false) :
    events.countP (Event.unsubscribes serviceId eventId) = 0 := by
  rw [resubscribes, List.any_eq_false] at others
  rw [List.countP_eq_zero]
  intro event member unsubscribes
  apply others event member
  cases event with
  | returned call result =>
      cases call with
      | unsubscribeEvent =>
          rcases result with _ | (_ | _) | _
          · cases unsubscribes
          · cases unsubscribes
          · exact unsubscribes
          · cases unsubscribes
      | _ => cases unsubscribes
  | _ => cases unsubscribes

theorem due_map (sd : ServiceDiscovery cfg) {after : ServiceDiscovery cfg}
    {update : SubTracker → SubTracker}
    (tracker : after.findSubTracker serviceId eventId =
      (sd.findSubTracker serviceId eventId).map update)
    (kept : ∀ tracker, (update tracker).needsUnsubscribe = tracker.needsUnsubscribe) :
    after.unsubscribesDue serviceId eventId = sd.unsubscribesDue serviceId eventId := by
  rw [unsubscribesDue, unsubscribesDue, tracker]
  cases sd.findSubTracker serviceId eventId with
  | none => rfl
  | some old => exact congrArg Bool.toNat (kept old)

theorem due_le_one (sd : ServiceDiscovery cfg) : sd.unsubscribesDue serviceId eventId ≤ 1 :=
  Bool.toNat_le _

theorem concerns {before after : World cfg}
    (concerns : Concerns serviceId eventId before after)
    (distinct : before.rt.sd.DistinctTrackers → after.rt.sd.DistinctTrackers) :
    Pays serviceId eventId before after := by
  cases concerns with
  | @silent events history silent tracker =>
      refine ⟨_, history, fun filed => ⟨distinct filed, ?_⟩⟩
      have unsent : events.countP (Event.withdraws serviceId eventId) = 0 :=
        countP_mentions_eq_zero (by simp) silent.frames
      rw [unsent, countP_unsubscribes_eq_zero silent.calls, Nat.zero_add, Nat.add_zero]
      apply Nat.le_of_eq
      rcases tracker with same | ⟨service, nowMs, flagged⟩
      · rw [unsubscribesDue, same, unsubscribesDue]
      · exact due_map _ flagged (Follows.flagged_needsUnsubscribe service nowMs)
  | subscribed context ttlSeconds nowMs history tracker =>
      refine ⟨[_], history, fun filed => ⟨distinct filed, ?_⟩⟩
      rw [unsubscribesDue, tracker, unsubscribesDue]
      cases before.rt.sd.findSubTracker serviceId eventId with
      | none => exact Nat.le_refl 0
      | some old => exact Nat.le_of_eq (Nat.zero_add _)
  | refused context ttlSeconds nowMs history tracker =>
      refine ⟨[_], history, fun filed => ⟨distinct filed, ?_⟩⟩
      rw [unsubscribesDue, tracker, ← unsubscribesDue]
      exact Nat.le_of_eq (Nat.zero_add _)
  | unsubscribed history tracker =>
      refine ⟨[_], history, fun filed => ⟨distinct filed, ?_⟩⟩
      rw [unsubscribesDue, tracker, unsubscribesDue]
      cases before.rt.sd.findSubTracker serviceId eventId with
      | none => exact Nat.zero_le _
      | some old =>
          have paid : [(Event.returned (.unsubscribeEvent serviceId eventId) (.bool true) :
              Event cfg)].countP (Event.unsubscribes serviceId eventId) = 1 := by
            simp [Event.unsubscribes]
          simp only [Option.isSome_some, paid]
          exact Nat.le_add_left 1 _

theorem renewals (nowMs : UInt32) (w : World cfg) :
    Pays serviceId eventId w (w.renewSubscriptions env nowMs) := by
  have sd := @World.renewSubscriptions_sd _ _ env nowMs w
  have looked := findSubTracker_processSubscriptionRenewals w.rt.sd nowMs serviceId eventId
  obtain ⟨burst, history, -⟩ := @World.renewSubscriptions_burst _ _ env nowMs w
  refine ⟨burst ++ [_], history.trans (List.append_cons ..), ?_⟩
  intro distinct
  obtain ⟨_, same, counted⟩ := @World.renewSubscriptions_count _ _ env serviceId eventId _ _
    mentions_withdraws nowMs (fun _ _ sent about => renewal_key sent (.inr about)) _ distinct
  cases List.append_cancel_right (history.symm.trans same)
  constructor
  · rw [sd]
    exact distinct.map (w.rt.sd.renew_key nowMs) rfl
  · have sent : burst.countP (Event.withdraws serviceId eventId) = _ := counted
    rw [List.countP_append, sent, sd, unsubscribesDue, unsubscribesDue, looked]
    refine Nat.le_trans ?_ (Nat.le_add_right _ _)
    cases known : w.rt.sd.findSubTracker serviceId eventId with
    | none => exact Nat.le_refl 0
    | some tracker =>
        simp only [Option.map_some, Option.any_some]
        cases sends : (w.rt.sd.renew nowMs tracker).1.any fun send =>
            send.2.withdraws serviceId eventId with
        | true =>
            obtain ⟨due, done⟩ := renew_withdraws sends
            rw [due, done]
            exact Nat.le_refl 1
        | false =>
            cases needs : (w.rt.sd.renew nowMs tracker).2.needsUnsubscribe with
            | false => exact Nat.zero_le _
            | true =>
                rw [(renew_pending known needs).1]
                exact Nat.le_refl 1

/-- Discovery decides what to write; nothing is observed. -/
theorem of_write {write : ServiceDiscovery cfg → ServiceDiscovery cfg}
    {update : SubTracker → SubTracker} (w : World cfg)
    (distinct : w.rt.sd.DistinctTrackers → (write w.rt.sd).DistinctTrackers)
    (tracker : (write w.rt.sd).findSubTracker serviceId eventId =
      (w.rt.sd.findSubTracker serviceId eventId).map update)
    (kept : ∀ tracker, (update tracker).needsUnsubscribe = tracker.needsUnsubscribe) :
    Pays serviceId eventId w (World.sdLens.modify write w) := by
  refine ⟨[], rfl, fun filed => ⟨distinct filed, ?_⟩⟩
  exact Nat.le_of_eq ((Nat.zero_add _).trans (due_map _ tracker kept))

end Pays

/-- An event the application has given up, with nothing to ask for. -/
structure SubTracker.GivenUp (tracker : SubTracker) : Prop where
  unregistered : tracker.appRegistered = false
  dormant : tracker.Dormant

namespace SubTracker.GivenUp

variable {tracker : SubTracker}

theorem withdraw (tracker : SubTracker) : tracker.withdraw.GivenUp :=
  ⟨rfl, fun _ => rfl⟩

theorem flagged (givenUp : tracker.GivenUp) (service : UInt16) (nowMs : UInt32) :
    (SubTracker.flagged service nowMs tracker).GivenUp := by
  rw [SubTracker.flagged, givenUp.unregistered]
  exact givenUp

theorem acknowledge (givenUp : tracker.GivenUp) (result : ReturnCode) (grantedTtl : UInt16) :
    (SubTracker.acknowledge result grantedTtl tracker).GivenUp := by
  rw [SubTracker.acknowledge]
  split
  · split
    · exact ⟨givenUp.unregistered, givenUp.dormant⟩
    · exact ⟨givenUp.unregistered, fun active => by cases active⟩
  · exact givenUp

theorem renew (givenUp : tracker.GivenUp) (sd : ServiceDiscovery cfg) (nowMs : UInt32) :
    (sd.renew nowMs tracker).2.GivenUp := by
  rw [ServiceDiscovery.renew]
  split
  · next provider active found =>
      have turn := @renewTracker_turn _ cfg nowMs tracker
      have due := givenUp.dormant active
      rcases result : renewTracker cfg nowMs tracker with ⟨sent, after⟩
      rw [result] at turn
      cases turn with
      | unsubscribe => exact ⟨givenUp.unregistered, fun active => by cases active⟩
      | first kept | renewal kept | lives kept | retry kept | giveUp kept | waits kept =>
          rw [due] at kept
          cases kept
  · exact givenUp

end SubTracker.GivenUp

/-- Once an event is given up, and until the application subscribes to it again, the device
does not ask for it, and tells the provider at most once a call. -/
structure UnsubscribeFinal (serviceId eventId : UInt16) (newer : History cfg) : Prop where
  silent : ∀ sent ∈ newer.filterMap Event.sdFrame,
    mentions [.subscribeEvent] serviceId eventId sent.2 = false
  once : newer.countP (Event.withdraws serviceId eventId) ≤
    1 + newer.countP (Event.unsubscribes serviceId eventId)

/-- The event is given up, and what has been sent since is paid for. -/
structure Settled (serviceId eventId : UInt16) (newer : History cfg) (w : World cfg) : Prop where
  rests : Rests serviceId eventId SubTracker.GivenUp w
  silent : ∀ sent ∈ newer.filterMap Event.sdFrame,
    mentions [.subscribeEvent] serviceId eventId sent.2 = false
  paid : newer.countP (Event.withdraws serviceId eventId) +
      w.rt.sd.unsubscribesDue serviceId eventId ≤
    1 + newer.countP (Event.unsubscribes serviceId eventId)

/-- What follows a call that gives an event up. -/
structure Final (serviceId eventId : UInt16) (w : World cfg) : Prop where
  distinct : w.rt.sd.DistinctTrackers
  since : ∀ newer past, w.history =
      newer ++ .returned (.unsubscribeEvent serviceId eventId) (.bool true) :: past →
    newer.any (Event.subscribes serviceId eventId) = false → Settled serviceId eventId newer w

theorem Settled.append {before after : World cfg} {events newer : History cfg}
    (settled : Settled serviceId eventId newer before)
    (history : after.history = events ++ before.history)
    (silent : events.any (Event.subscribes serviceId eventId) = false)
    (upholds : Upholds serviceId eventId SubTracker.GivenUp before after)
    (pays : Pays serviceId eventId before after) :
    Settled serviceId eventId (events ++ newer) after := by
  obtain ⟨_, same, keeps⟩ := upholds
  cases List.append_cancel_right (history.symm.trans same)
  obtain ⟨_, same, bounded⟩ := pays
  cases List.append_cancel_right (history.symm.trans same)
  obtain ⟨rests, frames⟩ := keeps silent settled.rests
  have due := (bounded settled.rests.distinct).2
  have paid := settled.paid
  refine ⟨rests, ?_, ?_⟩
  · rw [List.filterMap_append]
    intro sent member
    exact (List.mem_append.mp member).elim (frames sent) (settled.silent sent)
  · rw [List.countP_append, List.countP_append]
    omega

namespace Final

variable {before after : World cfg}

/-- A step that makes no such call. -/
theorem step (final : Final serviceId eventId before)
    (upholds : Upholds serviceId eventId SubTracker.GivenUp before after)
    (pays : Pays serviceId eventId before after)
    (others : ∀ events, after.history = events ++ before.history → ∀ event ∈ events,
      event ≠ .returned (.unsubscribeEvent serviceId eventId) (.bool true)) :
    Final serviceId eventId after := by
  obtain ⟨events, history, bounded⟩ := pays
  refine ⟨(bounded final.distinct).1, ?_⟩
  intro newer past occurs silent
  obtain ⟨middle, rfl, older⟩ : ∃ middle, newer = events ++ middle ∧ before.history =
      middle ++ .returned (.unsubscribeEvent serviceId eventId) (.bool true) :: past := by
    rw [history] at occurs
    rcases List.append_eq_append_iff.mp occurs with ⟨middle, split, rest⟩ | ⟨middle, split, rest⟩
    · exact ⟨middle, split, rest⟩
    · cases middle with
      | nil => exact ⟨[], by rw [split, List.append_nil, List.append_nil], rest.symm⟩
      | cons call older =>
          obtain ⟨rfl, -⟩ := List.cons.inj rest
          exact absurd rfl
            (others events history _ (split ▸ List.mem_append_right _ (.head _)))
  rw [List.any_append, Bool.or_eq_false_iff] at silent
  exact (final.since middle past older silent.2).append history silent.1 upholds
    ⟨events, history, bounded⟩

theorem concerned (final : Final serviceId eventId before)
    (distinct : before.rt.sd.DistinctTrackers → after.rt.sd.DistinctTrackers)
    (concerns : Concerns serviceId eventId before after) : Final serviceId eventId after := by
  have upholds : Upholds serviceId eventId SubTracker.GivenUp before after :=
    concerns.upholds distinct (fun tracker _ => .withdraw tracker)
      (concerns.writes fun _ service nowMs givenUp => givenUp.flagged service nowMs)
  have pays := Pays.concerns concerns distinct
  cases concerns with
  | @silent _ history silent =>
      apply final.step upholds pays
      intro events same event member isCall
      cases List.append_cancel_right (history.symm.trans same)
      have others := silent.calls
      rw [resubscribes, List.any_eq_false] at others
      apply others event member
      simp [isCall]
  | subscribed context ttlSeconds nowMs history | refused context ttlSeconds nowMs history =>
      apply final.step upholds pays
      intro events same event member isCall
      rw [history, ← List.singleton_append] at same
      cases List.append_cancel_right same
      cases List.mem_singleton.mp member
      cases isCall
  | unsubscribed history tracker =>
      cases known : before.rt.sd.findSubTracker serviceId eventId with
      | none =>
          rw [known] at history
          apply final.step upholds pays
          intro events same event member isCall
          rw [history, ← List.singleton_append] at same
          cases List.append_cancel_right same
          cases List.mem_singleton.mp member
          cases isCall
      | some old =>
          rw [known] at history tracker
          -- the count starts here, or goes on from an earlier call
          refine ⟨distinct final.distinct, ?_⟩
          intro newer past occurs silent
          cases newer with
          | nil =>
              refine ⟨⟨distinct final.distinct, ?_⟩, by simp, ?_⟩
              · intro given found
                rw [tracker] at found
                cases found
                exact .withdraw old
              · rw [List.countP_nil, List.countP_nil, Nat.zero_add]
                exact Pays.due_le_one _
          | cons newest newer =>
              rw [history] at occurs
              obtain ⟨rfl, older⟩ := List.cons.inj occurs
              exact (final.since newer past older silent).append
                (history.trans List.singleton_append.symm) rfl upholds pays

theorem move (final : Final serviceId eventId before)
    (move : SubscriptionMove env before after) : Final serviceId eventId after := by
  cases move with
  | step step notAck =>
      exact final.concerned step.steps.distinctTrackers (step.concerns notAck)
  | @answer _ _ result granted =>
      have distinct : before.rt.sd.DistinctTrackers → (before.rt.sd.recordAck granted.serviceId
          granted.eventId result granted.ttlSeconds).DistinctTrackers :=
        fun filed => filed.updateSubTracker _ _ (SubTracker.acknowledge_key _ _)
      refine @step _ _ _ _ before (World.sdLens.modify _ before) final (.answer before
        granted.serviceId granted.eventId result granted.ttlSeconds
        fun _ givenUp => givenUp.acknowledge result granted.ttlSeconds) ?_ ?_
      · have looked := findSubTracker_recordAck before.rt.sd granted.serviceId granted.eventId
          result granted.ttlSeconds serviceId eventId
        split at looked
        · exact @Pays.of_write _ _ _ _ _ _ before distinct looked
            (Follows.acknowledge_needsUnsubscribe result granted.ttlSeconds)
        · exact @Pays.of_write _ _ _ _ _ id before distinct
            (looked.trans Option.map_id'.symm) fun _ => rfl
      · intro events same event member
        cases List.append_cancel_right ((List.nil_append _).trans same)
        cases member
  | offers nowMs =>
      refine final.concerned ?_ (before.broadcastOffers_concerns nowMs)
      rw [DistinctTrackers, DistinctTrackers, World.broadcastOffers_subTrackers]
      exact id
  | renewals nowMs =>
      refine final.step (before.renewSubscriptions_upholds nowMs (fun _ givenUp => givenUp.dormant)
        fun sd _ givenUp => givenUp.renew sd nowMs) (.renewals nowMs before) ?_
      obtain ⟨burst, history, kinds, -⟩ := @World.renewSubscriptions_burst _ _ env nowMs before
      intro events same event member isCall
      rw [history, List.append_cons] at same
      cases List.append_cancel_right same
      rcases List.mem_append.mp member with inBurst | isPass
      · have kind := kinds event inBurst
        rw [isCall] at kind
        cases kind
      · cases List.mem_singleton.mp isPass
        cases isCall

theorem initial (clientId : UInt16) :
    Final serviceId eventId (World.initial cfg clientId) where
  distinct := List.nodup_nil
  since newer past occurs := by cases newer <;> cases occurs

end Final

/-- An unsubscribe is final, whatever follows but another subscription. -/
theorem unsubscribe_is_final {w : World cfg} (reachable : World.Reachable env w)
    {newer past : History cfg} (occurs : w.history =
      newer ++ .returned (.unsubscribeEvent serviceId eventId) (.bool true) :: past)
    (silent : newer.any (Event.subscribes serviceId eventId) = false) :
    UnsubscribeFinal serviceId eventId newer := by
  obtain ⟨clientId, moves, rfl⟩ := reachable
  have final : Final serviceId eventId (World.run env moves (World.initial cfg clientId)) :=
    Runs.invariant (fun _ _ final move => final.move move) (World.run_moves moves _)
      (.initial clientId)
  obtain ⟨-, frames, paid⟩ := final.since newer past occurs silent
  exact ⟨frames, Nat.le_trans (Nat.le_add_right _ _) paid⟩

/-- Where in a history an event was given up. -/
theorem split_of_unsubscribes {history : History cfg} {index : Nat}
    (here : (history[index]?).any (Event.unsubscribes serviceId eventId) = true) :
    history = history.take index ++
      .returned (.unsubscribeEvent serviceId eventId) (.bool true) ::
        history.drop (index + 1) := by
  obtain ⟨event, found, unsubscribes⟩ := (Option.any_eq_true _ _).mp here
  obtain ⟨inside, rfl⟩ := List.getElem?_eq_some_iff.mp found
  have isCall : history[index] =
      .returned (.unsubscribeEvent serviceId eventId) (.bool true) := by
    revert unsubscribes
    cases history[index] with
    | returned call result =>
        cases call with
        | unsubscribeEvent service event =>
            rcases result with _ | (_ | _) | _ <;> simp [Event.unsubscribes]
        | _ => exact fun no => by cases no
    | _ => exact fun no => by cases no
  rw [← isCall, ← List.drop_eq_getElem_cons, List.take_append_drop]

/-- A subscription that is given up before a late acknowledgement and a new offer. -/
def givenUpWorld : World embeddedConfig :=
  World.run (.benign _) (findingMoves ++ [subscribeCall, .housekeeping 0,
    .api (.unsubscribeEvent 0x1000 0x8001), .deliver (Address.filled 8 1) eventlessOffer 1,
    .housekeeping 1]) (World.initial _ 2)

theorem unsubscribe_is_final_found :
    UnsubscribeFinal 0x1000 0x8001 (givenUpWorld.history.take 4) := by
  have reachable : World.Reachable (.benign _) givenUpWorld := ⟨2, _, rfl⟩
  have occurs := @split_of_unsubscribes _ _ 0x1000 0x8001 givenUpWorld.history 4
    (by decide +kernel)
  exact unsubscribe_is_final reachable occurs (by decide +kernel)

end Sero
