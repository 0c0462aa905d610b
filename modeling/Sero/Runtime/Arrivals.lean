import Sero.Runtime.Decomposition

/-!
# Arrivals

A datagram arrives when it is delivered.  Whatever else a device does, and whatever its
handlers and callbacks do in turn, is observed without another arrival.
-/

namespace Sero

open Library ServiceDiscovery

variable {n : Nat} {cfg : Config n} {env : Env cfg}

/-- Nothing has arrived in between. -/
def NoArrival (before after : World cfg) : Prop :=
  ∃ events, after.history = events ++ before.history ∧
    ∀ event ∈ events, event.kind ≠ .validate

namespace NoArrival

variable {first second third : World cfg}

theorem of_observes {kind : StepKind} (observes : Observes kind first second)
    (other : kind ≠ .validate) : NoArrival first second := by
  obtain ⟨events, history, kinds⟩ := observes
  exact ⟨events, history, Event.kind_ne kinds other (by simp)⟩

theorem silent (same : second.history = first.history) : NoArrival first second :=
  of_observes (.none .background same) (by simp)

theorem trans (left : NoArrival first second) (right : NoArrival second third) :
    NoArrival first third := by
  obtain ⟨older, olderEq, olderKinds⟩ := left
  obtain ⟨newer, newerEq, newerKinds⟩ := right
  refine ⟨newer ++ older, by rw [newerEq, olderEq, List.append_assoc], ?_⟩
  intro event member
  exact (List.mem_append.mp member).elim (newerKinds event) (olderKinds event)

theorem of_calls (steps : CallSteps env first second) : NoArrival first second := by
  obtain ⟨events, history, kinds⟩ := steps.apiSteps.observes
  refine ⟨events, history, ?_⟩
  intro event member validates
  have isApi := kinds event member
  rw [validates] at isApi
  cases isApi

theorem foldl {α : Type} {body : World cfg → α → World cfg}
    (each : ∀ w item, NoArrival w (body w item)) (items : List α) (w : World cfg) :
    NoArrival w (items.foldl body w) := by
  induction items generalizing w with
  | nil => exact silent rfl
  | cons item rest ih => exact (each w item).trans (ih _)

/-- What has arrived by the end had arrived before. -/
theorem arrived (noArrival : NoArrival first second) {event : Event cfg}
    (validates : event.kind = .validate) (member : event ∈ second.history) :
    event ∈ first.history := by
  obtain ⟨events, history, kinds⟩ := noArrival
  rw [history] at member
  rcases List.mem_append.mp member with new | old
  · exact absurd validates (kinds event new)
  · exact old

end NoArrival

namespace World

theorem callback_noArrival (callback : Callback n) (w : World cfg) :
    NoArrival w (w.callback env callback) := by
  have observed : NoArrival w (w.emit (.callback callback)) := by
    apply NoArrival.of_observes (emit_observes _ w)
    cases callback <;> simp [Event.kind]
  exact observed.trans (.of_calls (react_steps _))

theorem callHandler_noArrival (entry : ServiceEntry) (methodId : UInt16) (payload : Bytes)
    (capacity : Option Nat) (w : World cfg) :
    NoArrival w (w.callHandler env entry methodId payload capacity).2 := by
  have entered : NoArrival w
      (w.emit (.onRequest entry w.rt.authenticator methodId payload capacity)) :=
    .of_observes (emit_observes _ w) (by simp [Event.kind])
  rw [callHandler]
  cases entry.context with
  | application context => exact entered.trans (.of_calls (Script.run_steps _ _))
  | diagnostics => exact entered.trans (.silent rfl)

/-! ## Messages -/

theorem handleRequest_noArrival (source : Address n) (hdr : MessageHeader) (payload : Bytes)
    (w : World cfg) : NoArrival w (w.handleRequest env source hdr payload) := by
  have dispatched : NoArrival w
      (w.dispatch env hdr.serviceId hdr.methodEventId payload).2 := by
    rw [dispatch]
    cases w.rt.dispatcher.find hdr.serviceId with
    | none => exact .silent rfl
    | some entry =>
        dsimp only
        split
        · exact (callHandler_noArrival _ _ _ _ w).trans (.silent rfl)
        · exact .silent rfl
  exact dispatched.trans (.of_observes (sendReply_observes _ _ _ _ _ _) (by simp))

theorem handleFireAndForget_noArrival (hdr : MessageHeader) (payload : Bytes) (w : World cfg) :
    NoArrival w (w.handleFireAndForget env hdr payload) := by
  rw [handleFireAndForget]
  cases w.rt.dispatcher.find hdr.serviceId with
  | none => exact .of_observes (increment_core _ _ w).history (by simp)
  | some entry =>
      dsimp only
      split
      · exact callHandler_noArrival _ _ _ _ w
      · exact .silent rfl

theorem handleReply_noArrival (hdr : MessageHeader) (payload : Bytes) (w : World cfg) :
    NoArrival w (w.handleReply env hdr payload) := by
  rw [handleReply, RequestTracker.complete]
  cases (trackerLens.get w).findActive hdr.requestId with
  | none => exact .silent rfl
  | some slot =>
      simp only [RequestTracker.finish]
      cases ((trackerLens.get w).entries slot).callback with
      | none => exact .silent rfl
      | some handle =>
          have released : NoArrival w
              (trackerLens.modify (fun tracker => tracker.release slot) w) := .silent rfl
          exact released.trans (@callback_noArrival _ _ env _ _)

theorem handleNotification_noArrival (hdr : MessageHeader) (payload : Bytes) (w : World cfg) :
    NoArrival w (w.handleNotification env hdr payload) := by
  rw [handleNotification]
  split
  · exact .silent rfl
  · exact callback_noArrival _ w

/-- A world seen as itself, nothing having arrived since an earlier one. -/
def Still (base first second : World cfg) : Prop :=
  first = second ∧ NoArrival base second

variable {base : World cfg}

theorem still_refl (w : World cfg) : Still w w w :=
  ⟨rfl, .silent rfl⟩

theorem still_sdLens : Lens.Alike (Still base) (@sdLens n cfg) sdLens := by
  constructor
  · rintro first second ⟨rfl, -⟩
    rfl
  · rintro first second ⟨rfl, still⟩ part
    exact ⟨rfl, still.trans (.silent rfl)⟩

theorem still_sdHooks : Hooks.Alike (Still base) (sdHooks env) (sdHooks env) := by
  constructor
  · rintro serviceId provider first second ⟨rfl, still⟩
    exact ⟨rfl, still.trans (callback_noArrival _ _)⟩
  · rintro serviceId first second ⟨rfl, still⟩
    exact ⟨rfl, still.trans (callback_noArrival _ _)⟩
  · rintro serviceId eventId result grantedTtl first second ⟨rfl, still⟩
    exact ⟨rfl, still.trans (callback_noArrival _ _)⟩

theorem callServiceLost_noArrival (serviceId : UInt16) (w : World cfg) :
    NoArrival w (callServiceLost sdLens (sdHooks env) serviceId w) :=
  (callServiceLost_alike still_sdLens still_sdHooks serviceId (still_refl w)).2

theorem resetPeer_noArrival (addr : Address n) (w : World cfg) : NoArrival w (w.resetPeer addr) :=
  .of_observes (emit_observes (.peerReset addr) _) (by simp [Event.kind])

theorem sendSdUnicast_noArrival (dest : Address n) (message : SdMessage n) (w : World cfg) :
    NoArrival w (w.sendSdUnicast env dest message) :=
  .of_observes (sendSdUnicast_core dest message w).history (by simp)

theorem sendSdBroadcast_noArrival (message : SdMessage n) (w : World cfg) :
    NoArrival w (w.sendSdBroadcast env message) :=
  .of_observes (sendSdBroadcast_core message w).history (by simp)

theorem handleSdMessage_noArrival (source : Address n) (hdr : MessageHeader) (payload : Bytes)
    (nowMs : UInt32) (w : World cfg) :
    NoArrival w (w.handleSdMessage env source hdr payload nowMs) := by
  unfold handleSdMessage
  split
  all_goals first | exact .silent rfl | split
  · next offer _ =>
      have reset : NoArrival w (if w.rt.sd.detectReboot offer.serviceId offer.sessionId then
          w.resetPeer offer.providerAddr else w) := by
        split
        · exact resetPeer_noArrival _ w
        · exact .silent rfl
      rw [World.handleOffer]
      exact reset.trans (handleOffer_alike still_sdLens still_sdHooks _ _ _ _ _ _
        (still_refl _)).2
  · exact .silent rfl
  · exact (resetPeer_noArrival source w).trans
      (.foldl (fun _ _ => sendSdUnicast_noArrival _ _ _) _ _)
  · exact .silent rfl
  · exact .of_observes (handleSubscribeRequest_core _ _ _ _ _).history (by simp)
  · exact .silent rfl
  · exact (handleSubscribeAck_alike still_sdLens still_sdHooks _ _ _ _ (still_refl w)).2
  · exact .silent rfl
  · exact .silent rfl
  · exact .silent rfl

/-! ## Moves -/

theorem dispatchMessage_noArrival (source : Address n) (hdr : MessageHeader) (payload : Bytes)
    (nowMs : UInt32) (w : World cfg) :
    NoArrival w (w.dispatchMessage env source hdr payload nowMs) := by
  unfold dispatchMessage
  split
  · exact handleSdMessage_noArrival _ _ _ _ _
  · split
    · exact handleRequest_noArrival _ _ _ _
    · exact handleFireAndForget_noArrival _ _ _
    · exact handleReply_noArrival _ _ _
    · exact handleReply_noArrival _ _ _
    · exact handleNotification_noArrival _ _ _
    · exact .silent rfl

theorem processFind_noArrival (nowMs : UInt32) (w : World cfg) (index : Nat) :
    NoArrival w (processFind sdLens (sdHooks env) nowMs w index) := by
  unfold processFind
  split
  · exact .silent rfl
  · next entry _ =>
      split
      · have sent : NoArrival w ((sdHooks env).broadcast (.find entry.serviceId) w) :=
          sendSdBroadcast_noArrival _ w
        refine sent.trans ?_
        generalize (sdHooks env).broadcast (.find entry.serviceId) w = asked
        have written : ∀ update, NoArrival asked (sdLens.modify update asked) :=
          fun update => .silent rfl
        dsimp only
        split
        · exact (written _).trans (callServiceLost_noArrival _ _)
        · exact written _
      · exact .silent rfl

theorem processConsumerTtl_noArrival (nowMs : UInt32) (w : World cfg) (index : Nat) :
    NoArrival w (processConsumerTtl sdLens (sdHooks env) nowMs w index) := by
  unfold processConsumerTtl
  split
  · exact .silent rfl
  · next entry _ =>
      split
      · have expired : NoArrival w (sdLens.modify (fun sd => sd.expireConsumer index) w) :=
          .silent rfl
        exact expired.trans ((resetPeer_noArrival _ _).trans (callServiceLost_noArrival _ _))
      · exact .silent rfl

theorem housekeeping_noArrival (nowMs : UInt32) (w : World cfg) :
    NoArrival w (w.housekeeping env nowMs) := by
  have offers : ∀ w : World cfg, NoArrival w (w.broadcastOffers env nowMs) := fun w =>
    NoArrival.foldl (fun _ _ => sendSdBroadcast_noArrival _ _) _ _
  have renewals : ∀ w : World cfg, NoArrival w (w.renewSubscriptions env nowMs) := by
    intro w
    have marked : NoArrival w (w.markRenewals nowMs) :=
      .of_observes (emit_observes _ _) (by simp [Event.kind])
    exact marked.trans (.foldl (fun _ _ => sendSdUnicast_noArrival _ _ _) _ _)
  have evicted : NoArrival w (w.evictRequests env nowMs) := .of_calls (evictRequests_steps nowMs w)
  have subscribers : ∀ w : World cfg, NoArrival w (w.evictSubscribers nowMs) :=
    fun w => .silent rfl
  exact evicted.trans ((subscribers _).trans ((offers _).trans ((renewals _).trans
    ((NoArrival.foldl (processConsumerTtl_noArrival nowMs) _ _).trans
      (NoArrival.foldl (processFind_noArrival nowMs) _ _)))))

end World

/-- Does the move bring a datagram? -/
def Move.delivers : Move cfg → Bool
  | .deliver .. => true
  | _ => false

namespace World

theorem step_noArrival {move : Move cfg} (own : move.delivers = false) (w : World cfg) :
    NoArrival w (w.step env move) := by
  cases move with
  | api call => exact .of_calls (perform_steps react_steps call w)
  | start nowMs => exact .silent rfl
  | deliver source data nowMs => cases own
  | housekeeping nowMs => exact housekeeping_noArrival nowMs w

theorem deliver_noArrival (source : Address n) (data : Bytes) (nowMs : UInt32) (w : World cfg) :
    NoArrival (w.validate source data).2 (w.step env (.deliver source data nowMs)) := by
  rw [step, validateAndDispatch]
  rcases w.validate source data with ⟨passed, after⟩
  cases passed with
  | none => exact .silent rfl
  | some hdr => exact dispatchMessage_noArrival source hdr _ nowMs after

end World

end Sero
