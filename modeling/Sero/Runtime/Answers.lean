import Sero.Properties.SequenceTracking
import Sero.Runtime.Traffic

/-!
# What the runtime does of its own accord

Taking in datagrams, executing requests, replying and discovery are up to the runtime alone.
The application's part in it, the bodies of handlers and callbacks with all they call, adds
nothing to these observations.
-/

namespace Sero

open Library ServiceDiscovery

variable {n : Nat} {cfg : Config n} {env : Env cfg}

/-- Is it something the runtime does of its own accord? -/
def Event.isOwn : Event cfg → Bool
  | .received .. | .verdict .. | .dispatched .. | .executed .. | .broadcast ..
  | .sent .reply .. | .sent .sd .. => true
  | _ => false

/-- What the runtime has done of its own accord in between, newest first. -/
def Does (events : History cfg) (before after : World cfg) : Prop :=
  after.history.filter Event.isOwn = events ++ before.history.filter Event.isOwn

namespace Does

variable {first second third : World cfg} {events older newer : History cfg}

theorem silent (same : second.history = first.history) : Does [] first second :=
  congrArg (List.filter Event.isOwn) same

theorem trans (left : Does older first second) (right : Does newer second third) :
    Does (newer ++ older) first third := by
  rw [Does, right, left, List.append_assoc]

/-- Nothing of its own comes with what calls of the interface do. -/
theorem quiet (left : Does older first second) (right : Does [] second third) :
    Does older first third :=
  left.trans right

theorem after_quiet (right : Does newer second third) (left : Does [] first second) :
    Does newer first third := by
  rw [Does, right, left, List.nil_append]

theorem of_history (history : second.history = events ++ first.history) :
    Does (events.filter Event.isOwn) first second := by
  rw [Does, history, List.filter_append]

theorem emit (event : Event cfg) (w : World cfg) :
    Does ([event].filter Event.isOwn) w (w.emit event) :=
  of_history rfl

/-- Calls of the interface leave replies, discovery and what arrives to the runtime. -/
theorem of_calls (steps : CallSteps env first second) : Does [] first second := by
  obtain ⟨events, history, kinds⟩ := steps.apiSteps.observes
  have sameTraffic := steps.plainSteps.traffic
  rw [World.traffic_append history] at sameTraffic
  have noTraffic := List.filterMap_eq_nil_iff.mp (List.append_left_eq_self.mp sameTraffic)
  have none : events.filter Event.isOwn = [] := by
    rw [List.filter_eq_nil_iff]
    intro event member own
    have isApi := kinds event member
    have noFrame := noTraffic event member
    cases event with
    | received | verdict | dispatched | executed => cases isApi
    | broadcast => cases noFrame
    | sent kind =>
        cases kind with
        | sd => cases noFrame
        | reply => cases isApi
        | _ => cases own
    | _ => cases own
  have does := of_history history
  rwa [none] at does

end Does

/-- A frame the runtime sends of its own accord and where it goes, `none` being everyone. -/
def Event.ownFrame : Event cfg → Option (Option (Address n) × Bytes)
  | .broadcast frame _ => some (none, frame)
  | .sent .reply dest frame _ => some (some dest, frame)
  | .sent .sd dest frame _ => some (some dest, frame)
  | _ => none

/-- The runtime has sent no more than this many frames of its own accord, and all it has done
is of the kind allowed. -/
def DoesAtMost (most : Nat) (allowed : Event cfg → Prop) (before after : World cfg) : Prop :=
  ∃ events, Does events before after ∧ (events.filterMap Event.ownFrame).length ≤ most ∧
    ∀ event ∈ events, allowed event

namespace DoesAtMost

variable {first second third : World cfg} {most more : Nat} {allowed : Event cfg → Prop}
  {wider : Event cfg → Prop}

theorem of_quiet (quiet : Does [] first second) : DoesAtMost most allowed first second :=
  ⟨[], quiet, Nat.zero_le most, by simp⟩

theorem trans (left : DoesAtMost most allowed first second)
    (right : DoesAtMost more allowed second third) :
    DoesAtMost (most + more) allowed first third := by
  obtain ⟨older, olderDoes, olderFew, olderAllowed⟩ := left
  obtain ⟨newer, newerDoes, newerFew, newerAllowed⟩ := right
  refine ⟨newer ++ older, olderDoes.trans newerDoes, ?_, ?_⟩
  · rw [List.filterMap_append, List.length_append]
    omega
  · intro event member
    exact (List.mem_append.mp member).elim (newerAllowed event) (olderAllowed event)

theorem mono (does : DoesAtMost most allowed first second) (fewer : most ≤ more) :
    DoesAtMost more allowed first second := by
  obtain ⟨events, done, few, each⟩ := does
  exact ⟨events, done, few.trans fewer, each⟩

theorem widen (does : DoesAtMost most allowed first second)
    (included : ∀ event, allowed event → wider event) : DoesAtMost most wider first second := by
  obtain ⟨events, done, few, each⟩ := does
  exact ⟨events, done, few, fun event member => included event (each event member)⟩

theorem after_quiet (right : DoesAtMost most allowed second third)
    (quiet : Does [] first second) : DoesAtMost most allowed first third := by
  have whole := (of_quiet quiet : DoesAtMost 0 allowed first second).trans right
  rwa [Nat.zero_add] at whole

theorem quiet (left : DoesAtMost most allowed first second) (right : Does [] second third) :
    DoesAtMost most allowed first third :=
  left.trans (of_quiet right : DoesAtMost 0 allowed second third)

/-- A loop does what its turns do. -/
theorem foldl {α : Type} {body : World cfg → α → World cfg}
    (each : ∀ w item, DoesAtMost most allowed w (body w item)) (items : List α) (w : World cfg) :
    DoesAtMost (items.length * most) allowed w (items.foldl body w) := by
  induction items generalizing w with
  | nil => exact of_quiet (.silent rfl)
  | cons item rest ih =>
      refine ((each w item).trans (ih _)).mono ?_
      rw [List.length_cons, Nat.succ_mul, Nat.add_comm]

end DoesAtMost

namespace World

/-! ## Callbacks -/

theorem increment_does (counter : DiagnosticCounter) (header : Option Bytes) (w : World cfg) :
    Does [] w (w.increment counter header) := by
  rw [increment]
  split
  · exact Does.emit (.diagnostic counter header) _
  · exact .silent rfl

theorem countRefusal_does (ok : Bool) (w : World cfg) : Does [] w (w.countRefusal ok) := by
  cases ok with
  | true => exact .silent rfl
  | false => exact increment_does _ _ w

theorem callback_does (callback : Callback n) (w : World cfg) :
    Does [] w (w.callback env callback) := by
  have observed : Does [] w (w.emit (.callback callback)) := Does.emit (.callback callback) w
  exact observed.quiet (.of_calls (react_steps _))

theorem callHandler_does (entry : ServiceEntry) (methodId : UInt16) (payload : Bytes)
    (capacity : Option Nat) (w : World cfg) :
    Does [] w (w.callHandler env entry methodId payload capacity).2 := by
  have entered : Does [] w
      (w.emit (.onRequest entry w.rt.authenticator methodId payload capacity)) :=
    Does.emit (.onRequest entry w.rt.authenticator methodId payload capacity) w
  rw [callHandler]
  cases entry.context with
  | application context => exact entered.quiet (.of_calls (Script.run_steps _ _))
  | diagnostics => exact entered.quiet (.silent rfl)

theorem dispatch_does (serviceId methodId : UInt16) (payload : Bytes) (w : World cfg) :
    Does [] w (w.dispatch env serviceId methodId payload).2 := by
  rw [dispatch]
  cases w.rt.dispatcher.find serviceId with
  | none => exact .silent rfl
  | some entry =>
      dsimp only
      split
      · exact (callHandler_does _ _ _ _ w).quiet (.silent rfl)
      · exact .silent rfl

/-- What validation observes of a datagram, newest first. -/
def arrivalTrace (source : Address n) (data : Bytes) (passed : Option MessageHeader)
    (w : World cfg) : History cfg :=
  (passed.map fun _ => .dispatched source data).toList ++
    (w.sequenceTrace source data ++ [.received source data])

theorem checkSequence_does {source : Address n} {data : Bytes} {hdr : MessageHeader}
    (checked : checkFrame cfg data = .ok hdr) (w : World cfg) :
    Does (w.sequenceTrace source data) w (w.checkSequence source data hdr).2 := by
  rw [sequenceTrace, checked, checkSequence]
  dsimp only
  split
  · exact .silent rfl
  · have recorded : Does [.verdict source data
        (w.rt.e2e.validateSequence source hdr.sequenceCounter).1] w
        (w.sequenceVerdict source data hdr.sequenceCounter).2 :=
      rfl
    rcases verdict : w.sequenceVerdict source data hdr.sequenceCounter with ⟨result, after⟩
    rw [verdict] at recorded
    cases result with
    | accept | firstSeen => exact recorded
    | duplicate | stale | tableFull => exact recorded.quiet (increment_does _ _ after)

theorem validate_does (source : Address n) (data : Bytes) (w : World cfg) :
    Does (w.arrivalTrace source data (w.validate source data).1) w
      (w.validate source data).2 := by
  have arrived : Does [.received source data] w (w.emit (.received source data)) :=
    Does.emit (.received source data) w
  rw [validate]
  cases checked : checkFrame cfg data with
  | error failure =>
      rw [arrivalTrace, sequenceTrace, checked]
      exact arrived.quiet (increment_does _ _ _)
  | ok hdr =>
      have judged := arrived.trans (@checkSequence_does _ _ source data hdr checked _)
      have same : (w.emit (.received source data)).sequenceTrace source data =
          w.sequenceTrace source data := rfl
      rw [same] at judged
      dsimp only
      rcases sequence : (w.emit (.received source data)).checkSequence source data hdr with
        ⟨proceed, after⟩
      rw [sequence] at judged
      cases proceed with
      | false => exact judged
      | true =>
          dsimp only
          split
          · exact judged.trans (Does.emit (.dispatched source data) after)
          · exact judged.quiet (increment_does _ _ after)

/-! ## Messages -/

/-- A reply follows the execution it is about. -/
theorem sendReply_does (source : Address n) (hdr : MessageHeader) (payload : Bytes)
    (rc : ReturnCode) (responseLength : Nat) (w : World cfg) :
    ∃ frame ok, Does [.sent .reply source frame ok,
        .executed source hdr.requestId hdr.serviceId hdr.methodEventId payload rc
          (responseOf w.rt rc responseLength)]
      w (w.sendReply env source hdr payload rc responseLength) := by
  obtain ⟨after, ok, sent, -, history⟩ := sendReply_spec env source hdr payload rc responseLength w
  generalize w.rt.builtFrame _ _ _ _ _ = frame at history
  have replied : Does [.sent .reply source frame ok,
      .executed source hdr.requestId hdr.serviceId hdr.methodEventId payload rc
        (responseOf w.rt rc responseLength)] w after := by
    rw [Does, history]
    rfl
  rw [sent]
  exact ⟨frame, ok, replied.quiet (countRefusal_does ok after)⟩

theorem handleRequest_does (source : Address n) (hdr : MessageHeader) (payload : Bytes)
    (w : World cfg) :
    ∃ rc response frame ok, Does [.sent .reply source frame ok,
        .executed source hdr.requestId hdr.serviceId hdr.methodEventId payload rc response]
      w (w.handleRequest env source hdr payload) := by
  have dispatched := @dispatch_does _ _ env hdr.serviceId hdr.methodEventId payload w
  rw [handleRequest]
  generalize w.dispatch env hdr.serviceId hdr.methodEventId payload = outcome at dispatched ⊢
  rcases outcome with ⟨⟨rc, length⟩, after⟩
  obtain ⟨frame, ok, replied⟩ := @sendReply_does _ _ env source hdr payload rc length after
  exact ⟨rc, _, frame, ok, replied.after_quiet dispatched⟩

theorem handleFireAndForget_does (hdr : MessageHeader) (payload : Bytes) (w : World cfg) :
    Does [] w (w.handleFireAndForget env hdr payload) := by
  rw [handleFireAndForget]
  cases w.rt.dispatcher.find hdr.serviceId with
  | none => exact increment_does _ _ w
  | some entry =>
      dsimp only
      split
      · exact callHandler_does _ _ _ _ w
      · exact .silent rfl

theorem handleReply_does (hdr : MessageHeader) (payload : Bytes) (w : World cfg) :
    Does [] w (w.handleReply env hdr payload) := by
  rw [handleReply, RequestTracker.complete]
  cases (trackerLens.get w).findActive hdr.requestId with
  | none => exact .silent rfl
  | some slot =>
      simp only [RequestTracker.finish]
      cases ((trackerLens.get w).entries slot).callback with
      | none => exact .silent rfl
      | some handle =>
          have released : Does [] w
              (trackerLens.modify (fun tracker => tracker.release slot) w) := .silent rfl
          exact released.quiet (@callback_does _ _ env _ _)

theorem handleNotification_does (hdr : MessageHeader) (payload : Bytes) (w : World cfg) :
    Does [] w (w.handleNotification env hdr payload) := by
  rw [handleNotification]
  split
  · exact .silent rfl
  · exact callback_does _ w

/-- A world seen as itself, the runtime having done nothing of its own since an earlier one. -/
def Idle (base first second : World cfg) : Prop :=
  first = second ∧ Does [] base second

variable {base : World cfg}

theorem idle_refl (w : World cfg) : Idle w w w :=
  ⟨rfl, .silent rfl⟩

theorem idle_sdLens : Lens.Alike (Idle base) (@sdLens n cfg) sdLens := by
  constructor
  · rintro first second ⟨rfl, -⟩
    rfl
  · rintro first second ⟨rfl, idle⟩ part
    exact ⟨rfl, idle.quiet (.silent rfl)⟩

theorem idle_sdHooks : Hooks.Alike (Idle base) (sdHooks env) (sdHooks env) := by
  constructor
  · rintro serviceId provider first second ⟨rfl, idle⟩
    exact ⟨rfl, idle.quiet (callback_does _ _)⟩
  · rintro serviceId first second ⟨rfl, idle⟩
    exact ⟨rfl, idle.quiet (callback_does _ _)⟩
  · rintro serviceId eventId result grantedTtl first second ⟨rfl, idle⟩
    exact ⟨rfl, idle.quiet (callback_does _ _)⟩

theorem callServiceLost_does (serviceId : UInt16) (w : World cfg) :
    Does [] w (callServiceLost sdLens (sdHooks env) serviceId w) :=
  (callServiceLost_alike idle_sdLens idle_sdHooks serviceId (idle_refl w)).2

theorem resetPeer_does (addr : Address n) (w : World cfg) : Does [] w (w.resetPeer addr) :=
  Does.emit (.peerReset addr) _

theorem handleOffer_does (offer : SdPayload.Offer n) (nowMs : UInt32) (w : World cfg) :
    Does [] w (w.handleOffer env offer nowMs) := by
  have reset : Does [] w (if w.rt.sd.detectReboot offer.serviceId offer.sessionId then
      w.resetPeer offer.providerAddr else w) := by
    split
    · exact resetPeer_does _ w
    · exact .silent rfl
  rw [World.handleOffer]
  exact reset.quiet (handleOffer_alike idle_sdLens idle_sdHooks _ _ _ _ _ _ (idle_refl _)).2

/-- A discovery frame to one device. -/
def SdTo (dest : Address n) (event : Event cfg) : Prop :=
  ∃ frame ok, event = .sent .sd dest frame ok

/-- A discovery frame to everyone. -/
def SdToAll (event : Event cfg) : Prop :=
  ∃ frame ok, event = .broadcast frame ok

theorem sendSdUnicast_does (dest : Address n) (message : SdMessage n) (w : World cfg) :
    DoesAtMost 1 (SdTo dest) w (w.sendSdUnicast env dest message) := by
  rw [sendSdUnicast]
  split
  · exact .of_quiet (.silent rfl)
  · refine ⟨_, (Does.emit (.sent .sd dest _ _) _).quiet (countRefusal_does _ _),
      List.length_filterMap_le _ _, ?_⟩
    intro event member
    exact ⟨_, _, List.mem_singleton.mp member⟩

theorem sendSdBroadcast_does (message : SdMessage n) (w : World cfg) :
    DoesAtMost 1 SdToAll w (w.sendSdBroadcast env message) := by
  rw [sendSdBroadcast]
  split
  · exact .of_quiet (.silent rfl)
  · refine ⟨_, (Does.emit (.broadcast _ _) _).quiet (countRefusal_does _ _),
      List.length_filterMap_le _ _, ?_⟩
    intro event member
    exact ⟨_, _, List.mem_singleton.mp member⟩

theorem handleSubscribeRequest_does (source : Address n) (hdr : MessageHeader)
    (request : SdPayload.Subscribe) (nowMs : UInt32) (w : World cfg) :
    DoesAtMost 1 (SdTo source) w (w.handleSubscribeRequest env source hdr request nowMs) := by
  refine ⟨_, (Does.emit (.sent .sd source _ _) _).quiet (countRefusal_does _ _),
    List.length_filterMap_le _ _, ?_⟩
  intro event member
  exact ⟨_, _, List.mem_singleton.mp member⟩

/-- A search is answered by the services on offer. -/
theorem handleFind_does (source : Address n) (serviceId : UInt16) (w : World cfg) :
    DoesAtMost w.rt.sd.providers.length (SdTo source) w (w.handleFind env source serviceId) := by
  have each : ∀ (w : World cfg) message,
      DoesAtMost 1 (SdTo source) w (w.sendSdUnicast env source message) :=
    fun w message => sendSdUnicast_does source message w
  have answered := DoesAtMost.foldl each (w.rt.sd.handleFind serviceId) (w.resetPeer source)
  have few : (w.rt.sd.handleFind serviceId).length * 1 ≤ w.rt.sd.providers.length := by
    rw [Nat.mul_one, ServiceDiscovery.handleFind, List.length_map]
    exact List.length_filter_le _ _
  exact (answered.mono few).after_quiet (resetPeer_does source w)

/-- A discovery message is answered to its sender alone. -/
theorem handleSdMessage_does (source : Address n) (hdr : MessageHeader) (payload : Bytes)
    (nowMs : UInt32) (w : World cfg) :
    DoesAtMost (max 1 w.rt.sd.providers.length) (SdTo source) w
      (w.handleSdMessage env source hdr payload nowMs) := by
  unfold handleSdMessage
  split
  all_goals first | exact .of_quiet (.silent rfl) | split
  · exact .of_quiet (handleOffer_does _ _ _)
  · exact .of_quiet (.silent rfl)
  · exact (handleFind_does source _ w).mono (Nat.le_max_right _ _)
  · exact .of_quiet (.silent rfl)
  · exact (handleSubscribeRequest_does source hdr _ nowMs w).mono (Nat.le_max_left _ _)
  · exact .of_quiet (.silent rfl)
  · exact .of_quiet (handleSubscribeAck_alike idle_sdLens idle_sdHooks _ _ _ _ (idle_refl w)).2
  · exact .of_quiet (.silent rfl)
  · exact .of_quiet (.silent rfl)
  · exact .of_quiet (.silent rfl)

/-! ## Housekeeping -/

theorem processFind_does (nowMs : UInt32) (w : World cfg) (index : Nat) :
    DoesAtMost 1 SdToAll w (processFind sdLens (sdHooks env) nowMs w index) := by
  unfold processFind
  split
  · exact .of_quiet (.silent rfl)
  · next entry _ =>
      split
      · have sent : DoesAtMost 1 SdToAll w ((sdHooks env).broadcast (.find entry.serviceId) w) :=
          sendSdBroadcast_does _ w
        generalize (sdHooks env).broadcast (.find entry.serviceId) w = asked at sent
        have written : ∀ update, Does [] asked (sdLens.modify update asked) :=
          fun update => .silent rfl
        refine sent.quiet ?_
        dsimp only
        split
        · exact (written _).quiet (callServiceLost_does _ _)
        · exact written _
      · exact .of_quiet (.silent rfl)

theorem processConsumerTtl_does (nowMs : UInt32) (w : World cfg) (index : Nat) :
    Does [] w (processConsumerTtl sdLens (sdHooks env) nowMs w index) := by
  unfold processConsumerTtl
  split
  · exact .silent rfl
  · next entry _ =>
      split
      · have expired : Does [] w (sdLens.modify (fun sd => sd.expireConsumer index) w) :=
          .silent rfl
        exact expired.quiet ((resetPeer_does _ _).quiet (callServiceLost_does _ _))
      · exact .silent rfl

end World

end Sero
