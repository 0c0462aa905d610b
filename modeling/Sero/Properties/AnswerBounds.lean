import Sero.Properties.DiscoveryFrames
import Sero.Properties.LastCallWins
import Sero.Properties.RpcAgreement
import Sero.Properties.TableSlots
import Sero.Runtime.Answers

/-!
# Requests are answered once, and nothing is amplified

A request that is let through is executed and replied to exactly once and before anything else
arrives.  Beyond replies, the frames a device sends of its own accord are answers to discovery
messages, which go to whoever asked, and the passes of a cycle, which the tables bound.
-/

namespace Sero

open Library ServiceDiscovery

variable {n : Nat} {cfg : Config n} {env : Env cfg}

theorem SlotsTracked.steps {before after : World cfg} (tracked : SlotsTracked before)
    (steps : Steps env before after) : SlotsTracked after := by
  induction steps with
  | refl => exact tracked
  | tail _ step ih =>
      obtain ⟨kind, step⟩ := step
      exact ih.step step

/-- A request as the service sees it, with whom to answer. -/
structure Asked (n : Nat) where
  source : Address n
  requestId : UInt32
  serviceId : UInt16
  methodId : UInt16
  payload : Bytes

/-- The request a datagram carries. -/
def requestIn (source : Address n) (data : Bytes) : Option (Asked n) :=
  let hdr := MessageHeader.deserialize data
  if hdr.serviceId ≠ sdServiceId ∧ MessageType.ofByte hdr.messageType = some .request then
    some ⟨source, hdr.requestId, hdr.serviceId, hdr.methodEventId, payloadOf hdr data⟩
  else none

/-- The request let through. -/
def Event.asked : Event cfg → Option (Asked n)
  | .dispatched source data => requestIn source data
  | _ => none

/-- The request executed. -/
def Event.served : Event cfg → Option (Asked n)
  | .executed source requestId serviceId methodId payload _ _ =>
      some ⟨source, requestId, serviceId, methodId, payload⟩
  | _ => none

/-- Whom a reply goes to. -/
def Event.repliedTo : Event cfg → Option (Address n)
  | .sent .reply dest _ _ => some dest
  | _ => none

/-- In the order they came, requests let through are executed and replied to. -/
structure Balanced (events : History cfg) : Prop where
  served : events.filterMap Event.served = events.filterMap Event.asked
  replied : events.filterMap Event.repliedTo =
    (events.filterMap Event.asked).map Asked.source

namespace Balanced

variable {events newer older : History cfg}

theorem append (later : Balanced newer) (earlier : Balanced older) : Balanced (newer ++ older) where
  served := by rw [List.filterMap_append, List.filterMap_append, later.served, earlier.served]
  replied := by
    rw [List.filterMap_append, List.filterMap_append, later.replied, earlier.replied,
      List.map_append]

/-- What has nothing to do with requests does not disturb the balance. -/
theorem of_silent (silent : ∀ event ∈ events,
    event.asked = none ∧ event.served = none ∧ event.repliedTo = none) : Balanced events := by
  have asked : events.filterMap Event.asked = [] :=
    List.filterMap_eq_nil_iff.mpr fun event member => (silent event member).1
  have served : events.filterMap Event.served = [] :=
    List.filterMap_eq_nil_iff.mpr fun event member => (silent event member).2.1
  have replied : events.filterMap Event.repliedTo = [] :=
    List.filterMap_eq_nil_iff.mpr fun event member => (silent event member).2.2
  exact ⟨by rw [asked, served], by rw [asked, replied, List.map_nil]⟩

end Balanced

/-- An observation that only selects what the runtime does of its own accord. -/
theorem Does.filterMap {α : Type} {select : Event cfg → Option α} {events : History cfg}
    {before after : World cfg} (does : Does events before after)
    (own : ∀ event, event.isOwn = false → select event = none) :
    after.history.filterMap select =
      events.filterMap select ++ before.history.filterMap select := by
  have selected : ∀ history : History cfg,
      (history.filter Event.isOwn).filterMap select = history.filterMap select := by
    intro history
    rw [List.filterMap_filter]
    refine List.filterMap_congr ?_
    intro event _
    cases kept : event.isOwn with
    | true => rfl
    | false => simp [own event kept]
  rw [← selected after.history, does, List.filterMap_append, selected]

/-! ## One datagram -/

/-- Does the event send, if anything, an answer to this device? -/
def Event.AnswersTo (source : Address n) (event : Event cfg) : Prop :=
  ∀ frame, event.ownFrame = some frame → frame.1 = some source

namespace World

theorem SdTo.silent {dest : Address n} {event : Event cfg} (sends : SdTo dest event) :
    event.asked = none ∧ event.served = none ∧ event.repliedTo = none := by
  obtain ⟨frame, ok, rfl⟩ := sends
  exact ⟨rfl, rfl, rfl⟩

theorem SdTo.answersTo {dest : Address n} {event : Event cfg} (sends : SdTo dest event) :
    event.AnswersTo dest := by
  obtain ⟨frame, ok, rfl⟩ := sends
  intro sent found
  cases found
  rfl

theorem SdToAll.silent {event : Event cfg} (sends : SdToAll event) :
    event.asked = none ∧ event.served = none ∧ event.repliedTo = none := by
  obtain ⟨frame, ok, rfl⟩ := sends
  exact ⟨rfl, rfl, rfl⟩

/-- The handlers answer what has just been let through. -/
theorem dispatchMessage_does {source : Address n} {data : Bytes} {hdr : MessageHeader}
    {w : World cfg} (checked : checkFrame cfg data = .ok hdr) (nowMs : UInt32) :
    ∃ events, Does events w (w.dispatchMessage env source hdr (payloadOf hdr data) nowMs) ∧
      Balanced (events ++ [.dispatched source data]) ∧
      (events.filterMap Event.ownFrame).length ≤ max 1 w.rt.sd.providers.length ∧
      ∀ event ∈ events, event.AnswersTo source := by
  have header := (checkFrame_ok_iff.mp checked).header
  have unasked : hdr.serviceId = sdServiceId ∨
      MessageType.ofByte hdr.messageType ≠ some .request →
      Balanced ([.dispatched source data] : History cfg) := by
    intro other
    apply Balanced.of_silent
    intro event member
    rw [List.mem_singleton.mp member]
    refine ⟨?_, rfl, rfl⟩
    rw [Event.asked, requestIn, ← header]
    exact if_neg fun request => other.elim request.1 (fun type => type request.2)
  have quietly : ∀ after : World cfg, Does [] w after →
      Balanced ([.dispatched source data] : History cfg) →
      ∃ events, Does events w after ∧ Balanced (events ++ [.dispatched source data]) ∧
        (events.filterMap Event.ownFrame).length ≤ max 1 w.rt.sd.providers.length ∧
        ∀ event ∈ events, event.AnswersTo source :=
    fun after quiet balanced => ⟨[], quiet, balanced, Nat.zero_le _, by simp⟩
  unfold dispatchMessage
  split
  · next discovery =>
      obtain ⟨events, does, few, each⟩ :=
        @handleSdMessage_does _ _ env source hdr (payloadOf hdr data) nowMs w
      refine ⟨events, does, ?_, few, fun event member => (each event member).answersTo⟩
      exact (Balanced.of_silent fun event member => (each event member).silent).append
        (unasked (.inl discovery))
  · next notSd =>
      split
      · next request =>
          obtain ⟨rc, response, frame, ok, does⟩ :=
            @handleRequest_does _ _ env source hdr (payloadOf hdr data) w
          refine ⟨_, does, ?_, Nat.le_max_left _ _, ?_⟩
          · have asked : requestIn source data =
                some ⟨source, hdr.requestId, hdr.serviceId, hdr.methodEventId,
                  payloadOf hdr data⟩ := by
              rw [requestIn, ← header]
              exact if_pos ⟨notSd, request⟩
            constructor
            · simp [List.filterMap_cons, asked, Event.served, Event.asked]
            · simp [List.filterMap_cons, asked, Event.repliedTo, Event.asked]
          · intro event member sent answer
            rcases List.mem_cons.mp member with rfl | executed
            · cases answer
              rfl
            · rw [List.mem_singleton.mp executed] at answer
              cases answer
      · next type =>
          exact quietly _ (handleFireAndForget_does _ _ _) (unasked (.inr (by simp [type])))
      · next type => exact quietly _ (handleReply_does _ _ _) (unasked (.inr (by simp [type])))
      · next type => exact quietly _ (handleReply_does _ _ _) (unasked (.inr (by simp [type])))
      · next type =>
          exact quietly _ (handleNotification_does _ _ _) (unasked (.inr (by simp [type])))
      · next type => exact quietly _ (.silent rfl) (unasked (.inr (by simp [type])))

/-- Validation alone sends nothing. -/
theorem validated_silent {source : Address n} {data : Bytes} {w : World cfg} {event : Event cfg}
    (member : event ∈ w.sequenceTrace source data ++ [.received source data]) :
    (event.asked = none ∧ event.served = none ∧ event.repliedTo = none) ∧
      event.ownFrame = none := by
  rcases List.mem_append.mp member with judged | received
  · unfold sequenceTrace at judged
    split at judged
    · cases judged
    · split at judged
      · cases judged
      · rw [List.mem_singleton.mp judged]
        exact ⟨⟨rfl, rfl, rfl⟩, rfl⟩
  · rw [List.mem_singleton.mp received]
    exact ⟨⟨rfl, rfl, rfl⟩, rfl⟩

/-- What a datagram makes the runtime do of its own accord. -/
theorem validateAndDispatch_does (source : Address n) (data : Bytes) (nowMs : UInt32)
    (w : World cfg) :
    ∃ events, Does events w (w.validateAndDispatch env source data nowMs) ∧ Balanced events ∧
      (events.filterMap Event.ownFrame).length ≤ max 1 w.rt.sd.providers.length ∧
      ∀ event ∈ events, event.AnswersTo source := by
  let entry := w.sequenceTrace source data ++ [.received source data]
  have entering : Balanced entry :=
    Balanced.of_silent fun event member => (validated_silent member).1
  have noFrames : entry.filterMap Event.ownFrame = [] :=
    List.filterMap_eq_nil_iff.mpr fun event member => (validated_silent member).2
  have noAnswers : ∀ event ∈ entry, event.AnswersTo source := by
    intro event member frame sent
    rw [(validated_silent member).2] at sent
    cases sent
  have validated := validate_does source data w
  obtain ⟨diag, rt, -⟩ := w.validate_rt source data
  rw [validateAndDispatch]
  rcases passes : w.validate source data with ⟨passed, after⟩
  rw [passes] at validated rt
  cases passed with
  | none =>
      refine ⟨entry, validated, entering, ?_, noAnswers⟩
      rw [noFrames]
      exact Nat.zero_le _
  | some hdr =>
      obtain ⟨events, does, balanced, few, answers⟩ := @dispatchMessage_does _ _ env _ _ _ after
        (validate_accepted passes).checked nowMs
      have sameProviders : after.rt.sd.providers = w.rt.sd.providers := by rw [rt]
      refine ⟨events ++ (.dispatched source data :: entry), validated.trans does, ?_, ?_, ?_⟩
      · have whole := balanced.append entering
        rwa [List.append_assoc, List.singleton_append] at whole
      · rw [List.filterMap_append, List.filterMap_cons_none rfl, noFrames, List.append_nil,
          ← sameProviders]
        exact few
      · intro event member
        rcases List.mem_append.mp member with later | earlier
        · exact answers event later
        · rcases List.mem_cons.mp earlier with rfl | earlier
          · intro frame sent
            cases sent
          · exact noAnswers event earlier

/-! ## One cycle -/

/-- A frame of discovery. -/
def IsSd (event : Event cfg) : Prop :=
  SdToAll event ∨ ∃ dest, SdTo dest event

theorem IsSd.silent {event : Event cfg} (sends : IsSd event) :
    event.asked = none ∧ event.served = none ∧ event.repliedTo = none := by
  rcases sends with broadcast | ⟨dest, sent⟩
  · exact broadcast.silent
  · exact sent.silent

theorem broadcastOffers_does (nowMs : UInt32) (w : World cfg) :
    DoesAtMost w.rt.sd.providers.length IsSd w (w.broadcastOffers env nowMs) := by
  have each : ∀ (w : World cfg) message, DoesAtMost 1 IsSd w (w.sendSdBroadcast env message) :=
    fun w message => (sendSdBroadcast_does message w).widen fun _ => .inl
  have sent := DoesAtMost.foldl each (w.rt.sd.processOffers nowMs).1
    { w with rt := { w.rt with sd := (w.rt.sd.processOffers nowMs).2 } }
  have few : (w.rt.sd.processOffers nowMs).1.length * 1 ≤ w.rt.sd.providers.length := by
    rw [Nat.mul_one, ServiceDiscovery.processOffers, List.length_map]
    exact List.length_filter_le _ _
  rw [broadcastOffers]
  exact (sent.mono few).after_quiet (.silent rfl)

theorem renewSubscriptions_does (nowMs : UInt32) (w : World cfg) :
    DoesAtMost w.rt.sd.subTrackers.length IsSd w (w.renewSubscriptions env nowMs) := by
  have each : ∀ (w : World cfg) (send : Address n × SdMessage n),
      DoesAtMost 1 IsSd w (w.sendSdUnicast env send.1 send.2) :=
    fun w send => (sendSdUnicast_does send.1 send.2 w).widen fun _ sent => .inr ⟨_, sent⟩
  have sent := DoesAtMost.foldl each (w.rt.sd.processSubscriptionRenewals nowMs).1
    (w.markRenewals nowMs)
  have few : (w.rt.sd.processSubscriptionRenewals nowMs).1.length * 1 ≤
      w.rt.sd.subTrackers.length := by
    rw [Nat.mul_one, ServiceDiscovery.processSubscriptionRenewals]
    exact List.length_filterMap_le _ _
  rw [renewSubscriptions]
  exact (sent.mono few).after_quiet (Does.emit (.renewals _ _ _) _)

/-- The frames a cycle sends beyond its answers: offers, renewals and searches. -/
def passFrames (cfg : Config n) : Nat :=
  cfg.maxServices + cfg.maxKnownServices * cfg.maxEvents + cfg.maxKnownServices

theorem housekeeping_does {w : World cfg} (tracked : SlotsTracked w) (nowMs : UInt32) :
    DoesAtMost (passFrames cfg) IsSd w (w.housekeeping env nowMs) := by
  let evicted := (w.evictRequests env nowMs).evictSubscribers nowMs
  have quiet : Does [] w evicted :=
    (Does.of_calls (evictRequests_steps nowMs w)).quiet (.silent rfl)
  have fits : SlotsTracked (w.evictRequests env nowMs) :=
    tracked.steps (evictRequests_steps nowMs w).steps
  have offers : DoesAtMost cfg.maxServices IsSd evicted (evicted.broadcastOffers env nowMs) :=
    (broadcastOffers_does nowMs evicted).mono fits.providers
  have renewals : DoesAtMost (cfg.maxKnownServices * cfg.maxEvents) IsSd
      (evicted.broadcastOffers env nowMs)
      ((evicted.broadcastOffers env nowMs).renewSubscriptions env nowMs) := by
    refine (renewSubscriptions_does nowMs _).mono ?_
    rw [broadcastOffers_subTrackers]
    exact fits.trackers
  have expiries : ∀ w : World cfg,
      DoesAtMost 0 IsSd w (processConsumerTtls sdLens (sdHooks env) nowMs w) := by
    intro w
    have each : ∀ w index, DoesAtMost 0 IsSd w (processConsumerTtl sdLens (sdHooks env) nowMs w
        index) := fun w index => .of_quiet (processConsumerTtl_does nowMs w index)
    exact (DoesAtMost.foldl each _ w).mono (Nat.mul_zero _).le
  have searches : ∀ w : World cfg,
      DoesAtMost cfg.maxKnownServices IsSd w (processFinds sdLens (sdHooks env) nowMs w) := by
    intro w
    have each : ∀ w index, DoesAtMost 1 IsSd w (processFind sdLens (sdHooks env) nowMs w index) :=
      fun w index => (processFind_does nowMs w index).widen fun _ => .inl
    refine (DoesAtMost.foldl each _ w).mono ?_
    rw [List.length_range, Nat.mul_one]
  exact ((offers.trans renewals).trans ((expiries _).trans (searches _))).after_quiet quiet |>.mono
    (by rw [passFrames, Nat.zero_add])

/-! ## Runs -/

/-- The frames the runtime has sent of its own accord, newest first. -/
def ownFrames (w : World cfg) : List (Option (Address n) × Bytes) :=
  w.history.filterMap Event.ownFrame

theorem ownFrames_of_does {events : History cfg} {before after : World cfg}
    (does : Does events before after) :
    after.ownFrames = events.filterMap Event.ownFrame ++ before.ownFrames := by
  refine does.filterMap ?_
  intro event notOwn
  cases event with
  | broadcast => cases notOwn
  | sent kind =>
      cases kind with
      | reply | sd => cases notOwn
      | _ => rfl
  | _ => rfl

end World

theorem Balanced.of_does {events : History cfg} {before after : World cfg}
    (earlier : Balanced before.history) (does : Does events before after)
    (balanced : Balanced events) : Balanced after.history := by
  have asked : ∀ event : Event cfg, event.isOwn = false → event.asked = none := by
    intro event notOwn
    cases event with
    | dispatched => cases notOwn
    | _ => rfl
  have served : ∀ event : Event cfg, event.isOwn = false → event.served = none := by
    intro event notOwn
    cases event with
    | executed => cases notOwn
    | _ => rfl
  have repliedTo : ∀ event : Event cfg, event.isOwn = false → event.repliedTo = none := by
    intro event notOwn
    cases event with
    | sent kind =>
      cases kind with
      | reply | sd => cases notOwn
      | _ => rfl
    | _ => rfl
  constructor
  · rw [does.filterMap asked, does.filterMap served, balanced.served, earlier.served]
  · rw [does.filterMap asked, does.filterMap repliedTo, balanced.replied, earlier.replied,
      List.map_append]

namespace World

theorem Reachable.slotsTracked {w : World cfg} (reachable : World.Reachable env w) :
    SlotsTracked w := by
  obtain ⟨clientId, moves, rfl⟩ := reachable
  exact .of_steps (run_steps moves _)

theorem step_balanced {w : World cfg} (tracked : SlotsTracked w) (balanced : Balanced w.history)
    (move : Move cfg) : Balanced (w.step env move).history := by
  have quietly : ∀ {after : World cfg}, Does [] w after → Balanced after.history :=
    fun does => balanced.of_does does (.of_silent (by simp))
  cases move with
  | api call => exact quietly (.of_calls (perform_steps react_steps call w))
  | start nowMs => exact quietly (.silent rfl)
  | deliver source data nowMs =>
      obtain ⟨events, does, answered, -⟩ :=
        @validateAndDispatch_does _ _ env source data nowMs w
      exact balanced.of_does does answered
  | housekeeping nowMs =>
      obtain ⟨events, does, -, each⟩ := @housekeeping_does _ _ env _ tracked nowMs
      exact balanced.of_does does (.of_silent fun event member => (each event member).silent)

/-- In every run, the requests let through are executed one by one in the order they came, and
each is replied to once, to where it came from. -/
theorem requests_answered_once {w : World cfg} (reachable : World.Reachable env w) :
    w.history.filterMap Event.served = w.history.filterMap Event.asked ∧
      w.history.filterMap Event.repliedTo =
        (w.history.filterMap Event.asked).map Asked.source := by
  obtain ⟨clientId, moves, rfl⟩ := reachable
  have balanced : ∀ moves : List (Move cfg),
      Balanced (run env moves (World.initial cfg clientId)).history := by
    intro moves
    induction moves using List.reverseRecOn with
    | nil => exact .of_silent (by intro event member; cases member)
    | append_singleton earlier move ih =>
        rw [run, List.foldl_append]
        exact step_balanced (.of_steps (run_steps earlier _)) ih move
  exact ⟨(balanced moves).served, (balanced moves).replied⟩

theorem requests_answered_once_word :
    (Devices.wordNetwork Devices.wordProvider).history.filterMap Event.repliedTo =
        ((Devices.wordNetwork Devices.wordProvider).history.filterMap Event.asked).map
          Asked.source ∧
      (Devices.wordNetwork Devices.wordProvider).history.filterMap Event.repliedTo =
        [Devices.wordClient] :=
  ⟨(requests_answered_once (Devices.wordNetwork_reachable.device _)).2, by decide +kernel⟩

/-- No datagram, whatever it holds, makes a device send more of its own accord than one answer
for each service it can offer, nor to anyone but the datagram's source. -/
theorem datagram_not_amplified {w : World cfg} (reachable : World.Reachable env w)
    (source : Address n) (data : Bytes) (nowMs : UInt32) :
    ∃ frames, (w.validateAndDispatch env source data nowMs).ownFrames = frames ++ w.ownFrames ∧
      frames.length ≤ max 1 cfg.maxServices ∧
      ∀ frame ∈ frames, frame.1 = some source := by
  obtain ⟨events, does, -, few, answers⟩ :=
    @validateAndDispatch_does _ _ env source data nowMs w
  refine ⟨_, ownFrames_of_does does, ?_, ?_⟩
  · exact few.trans (max_le_max_left 1 reachable.slotsTracked.providers)
  · intro frame member
    obtain ⟨event, occurs, selected⟩ := List.mem_filterMap.mp member
    exact answers event occurs frame selected

/-- The frames of a whole cycle: the answers to what it takes in, and its passes. -/
theorem cycle_frames_bounded {w : World cfg} (reachable : World.Reachable env w)
    (inbox : List (Address n × Bytes)) (nowMs : UInt32) :
    ∃ frames, (w.process env inbox nowMs).ownFrames = frames ++ w.ownFrames ∧
      frames.length ≤
        min inbox.length cfg.maxReceiveQueueSize * max 1 cfg.maxServices + passFrames cfg := by
  let taken := inbox.take cfg.maxReceiveQueueSize
  have each : ∀ (datagrams : List (Address n × Bytes)) (w : World cfg),
      World.Reachable env w →
      let after := datagrams.foldl
        (fun w datagram => w.validateAndDispatch env datagram.1 datagram.2 nowMs) w
      World.Reachable env after ∧
        DoesAtMost (datagrams.length * max 1 cfg.maxServices) (fun _ => True) w after := by
    intro datagrams
    induction datagrams with
    | nil => exact fun w reachable => ⟨reachable, .of_quiet (.silent rfl)⟩
    | cons datagram rest ih =>
        intro w reachable
        obtain ⟨source, data⟩ := datagram
        obtain ⟨events, does, -, few, -⟩ :=
          @validateAndDispatch_does _ _ env source data nowMs w
        have first : DoesAtMost (max 1 cfg.maxServices) (fun _ => True) w
            (w.validateAndDispatch env source data nowMs) :=
          ⟨events, does, few.trans (max_le_max_left 1 reachable.slotsTracked.providers),
            by simp⟩
        obtain ⟨reaches, later⟩ := ih _ (reachable.run [.deliver source data nowMs])
        refine ⟨reaches, (first.trans later).mono ?_⟩
        rw [List.length_cons, Nat.succ_mul, Nat.add_comm]
  obtain ⟨reaches, received⟩ := each taken (w.startCycle nowMs) (reachable.run [.start nowMs])
  have passes := (@housekeeping_does _ _ env _ reaches.slotsTracked nowMs).widen
    (fun _ _ => trivial : ∀ event, IsSd event → True)
  obtain ⟨events, does, few, -⟩ := (received.after_quiet (.silent rfl)).trans passes
  refine ⟨_, ownFrames_of_does does, ?_⟩
  rwa [List.length_take, Nat.min_comm] at few

/-- Another device asks for every service. -/
def findFrame : Bytes :=
  (((World.initial embeddedConfig 2).sendSdBroadcast (.benign _) (.find 0xFFFF)).traffic.head?.map
    Prod.snd).getD []

theorem datagram_not_amplified_find : ∃ frames,
    (offeringDevice.validateAndDispatch (.benign _) Devices.wordClient findFrame 1).ownFrames =
        frames ++ offeringDevice.ownFrames ∧
      frames.length ≤ max 1 embeddedConfig.maxServices ∧
      ∀ frame ∈ frames, frame.1 = some Devices.wordClient :=
  datagram_not_amplified ⟨1, _, rfl⟩ Devices.wordClient findFrame 1

theorem cycle_frames_bounded_find : ∃ frames,
    (offeringDevice.process (.benign _) [(Devices.wordClient, findFrame)] 1).ownFrames =
        frames ++ offeringDevice.ownFrames ∧
      frames.length ≤ min 1 embeddedConfig.maxReceiveQueueSize *
        max 1 embeddedConfig.maxServices + passFrames embeddedConfig :=
  cycle_frames_bounded ⟨1, _, rfl⟩ [(Devices.wordClient, findFrame)] 1

end World

end Sero
