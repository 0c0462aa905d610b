import Sero.Runtime.Steps

/-!
# Operations as sequences of steps

Each operation of the runtime is a run of `Steps`.  The application's part enters
through `body`, the body of a callback, of which only this is assumed again.
-/

namespace Sero

open Library

variable {n : Nat} {cfg : Config n} {env : Env cfg}

/-- A step of a call that sends a message to which there is no answer. -/
inductive SendStep (env : Env cfg) : World cfg → World cfg → Prop where
  | count (counter : DiagnosticCounter) (header : Option Bytes) (w : World cfg) :
      SendStep env w (w.increment counter header)
  | transmit {before after : World cfg} (step : Atomic env .transmit before after) :
      SendStep env before after

abbrev SendSteps (env : Env cfg) : World cfg → World cfg → Prop :=
  Relation.ReflTransGen (SendStep env)

theorem SendSteps.callSteps {before after : World cfg} (steps : SendSteps env before after) :
    CallSteps env before after := by
  apply steps.lift id
  intro first second step
  cases step with
  | count counter header => exact .count counter header first
  | transmit step => exact .own rfl step

namespace World

theorem countRefusal_steps (ok : Bool) (w : World cfg) :
    SendSteps env w (w.countRefusal ok) := by
  cases ok with
  | true => exact .refl
  | false => exact .single (.count _ _ _)

theorem countRefusal_suffix (ok : Bool) (w : World cfg) :
    w.history <:+ (w.countRefusal ok).history :=
  Steps.suffix (@countRefusal_steps _ _ (.benign cfg) ok w).callSteps.steps

/-- Sending a message to which there is no answer. -/
theorem transmit_steps {kind : SendKind} (dest : Address n) {hdr : MessageHeader}
    (payload : Option Bytes) (payloadLength : Nat) (auth : Bool)
    (type : kind = .fireAndForget ∧ hdr.messageType = MessageType.requestNoReturn.toByte ∨
      kind = .notification ∧ hdr.messageType = MessageType.notification.toByte)
    (w : World cfg) :
    let sent := w.transmit env kind dest hdr payload payloadLength auth
    SendSteps env w (sent.2.countRefusal sent.1) :=
  Relation.ReflTransGen.trans (.single (.transmit (.transmit _ _ _ _ _ type)))
    (countRefusal_steps _ _)

/-- Finishing a request is a step, followed by the callback's body if there was a
callback. -/
theorem finish_body (cause : Cause) (body : World cfg → World cfg)
    (slot : Fin cfg.maxPendingRequests) (rc : ReturnCode) (payload : Bytes)
    (w : World cfg) :
    let entered := RequestTracker.finish trackerLens (invokeRequest cause id) slot rc payload w
    RequestTracker.finish trackerLens (invokeRequest cause body) slot rc payload w =
      match (w.rt.requestTracker.entries slot).callback with
      | none => entered
      | some _ => body entered := by
  simp only [RequestTracker.finish, trackerLens_get]
  cases (w.rt.requestTracker.entries slot).callback with
  | none => rfl
  | some handle => rfl

variable {body : World cfg → World cfg} (runs : ∀ w, CallSteps env w (body w))

include runs in
theorem finish_steps {w : World cfg} {slot : Fin cfg.maxPendingRequests} {cause : Cause}
    {rc : ReturnCode} {payload : Bytes}
    (active : (w.rt.requestTracker.entries slot).active = true)
    (reason : Finishes w slot cause rc payload) :
    CallSteps env w (RequestTracker.finish trackerLens (invokeRequest cause body) slot rc
      payload w) := by
  have entered : CallSteps env w _ := (Atomic.finish active reason).callSteps rfl
  rw [finish_body]
  cases (w.rt.requestTracker.entries slot).callback with
  | none => exact entered
  | some handle => exact entered.trans (runs _)

/-! ## API calls -/

/-- What `submit` leaves behind. -/
theorem submit_spec (handle : Nat) (target : Address n) (serviceId methodId : UInt16)
    (payload : Payload) (hasCallback : Bool) (timeoutMs nowMs : UInt32) (w : World cfg) :
    let result := w.submit env handle target serviceId methodId payload hasCallback
      timeoutMs nowMs
    let allocation := w.rt.requestTracker.allocate serviceId methodId timeoutMs nowMs
      (if hasCallback then some handle else none)
    (allocation = none ∧ result = (none, w)) ∨
    ∃ requestId tracker ok, allocation = some (requestId, tracker) ∧
      result.1 = some (requestId, ok) ∧ result.2.rt.requestTracker = tracker ∧
      result.2.rt.e2e = w.rt.e2e.nextSequence.2 ∧
      ∃ (rt : Runtime cfg) (auth : Bool), result.2.history =
        .sent (.request handle) target
          (Runtime.builtFrame rt
            { makeRequestHeader w.rt serviceId methodId payload.length requestId auth with
              sequenceCounter := w.rt.e2e.nextSequence.1 }
            payload.data payload.length auth target) ok ::
        .issued handle requestId target serviceId methodId payload hasCallback ::
        w.history := by
  intro result allocation
  cases outcome : allocation with
  | none =>
      left
      refine ⟨rfl, ?_⟩
      simp only [result, submit]
      rw [show w.rt.requestTracker.allocate serviceId methodId timeoutMs nowMs
        (if hasCallback then some handle else none) = none from outcome]
  | some allocated =>
      obtain ⟨requestId, tracker⟩ := allocated
      right
      have unfolded : ∃ after, result = (some (requestId,
          (World.transmit env (.request handle) target
            (makeRequestHeader w.rt serviceId methodId payload.length requestId
              (w.rt.shouldAuthOutgoing target)) payload.data payload.length
            (w.rt.shouldAuthOutgoing target) after).1),
          (World.transmit env (.request handle) target
            (makeRequestHeader w.rt serviceId methodId payload.length requestId
              (w.rt.shouldAuthOutgoing target)) payload.data payload.length
            (w.rt.shouldAuthOutgoing target) after).2) ∧
          after = World.emit
            (.issued handle requestId target serviceId methodId payload hasCallback)
            { w with rt := { w.rt with requestTracker := tracker } } := by
        refine ⟨_, ?_, rfl⟩
        simp only [result, submit]
        rw [show w.rt.requestTracker.allocate serviceId methodId timeoutMs nowMs
          (if hasCallback then some handle else none) = some (requestId, tracker) from outcome]
        rfl
      obtain ⟨after, equal, rfl⟩ := unfolded
      rw [equal]
      exact ⟨requestId, tracker, _, rfl, rfl, rfl, rfl, _, _, rfl⟩

/-- An occurrence after a submission was there before, or is the new request or its
frame. -/
theorem submit_occurs {handle : Nat} {target : Address n} {serviceId methodId : UInt16}
    {payload : Payload} {hasCallback : Bool} {timeoutMs nowMs : UInt32} {w : World cfg}
    {event : Event cfg} {past : History cfg}
    (occurs : (event :: past) <:+ (w.submit env handle target serviceId methodId payload
      hasCallback timeoutMs nowMs).2.history) :
    (event :: past) <:+ w.history ∨
    ∃ requestId, (w.rt.requestTracker.allocate serviceId methodId timeoutMs nowMs
        (if hasCallback then some handle else none)).map Prod.fst = some requestId ∧
      let issued : Event cfg :=
        .issued handle requestId target serviceId methodId payload hasCallback
      (event = issued ∧ past = w.history ∨
        ∃ (rt : Runtime cfg) (auth : Bool) (ok : Bool),
          event = .sent (.request handle) target
            (rt.builtFrame
              { makeRequestHeader w.rt serviceId methodId payload.length requestId auth with
                sequenceCounter := w.rt.e2e.nextSequence.1 }
              payload.data payload.length auth target) ok ∧
          past = issued :: w.history) := by
  rcases @submit_spec _ _ env handle target serviceId methodId payload hasCallback timeoutMs
      nowMs w with
    ⟨-, none⟩ | ⟨requestId, _, ok, allocated, -, -, -, rt, auth, history⟩
  · rw [none] at occurs
    exact .inl occurs
  · rw [history] at occurs
    rcases List.suffix_cons_iff.mp occurs with sent | earlier
    · cases sent
      exact .inr ⟨requestId, by rw [allocated]; rfl, .inr ⟨rt, auth, ok, rfl, rfl⟩⟩
    · rcases List.suffix_cons_iff.mp earlier with issued | earlier
      · cases issued
        exact .inr ⟨requestId, by rw [allocated]; rfl, .inl ⟨rfl, rfl⟩⟩
      · exact .inl earlier

include runs in
/-- `request_impl` is a run, and what it returns says what has happened. -/
theorem requestImpl_steps {handle : Nat} {w : World cfg} (fresh : handle = w.history.length)
    (target : Address n) (serviceId methodId : UInt16) (payload : Payload)
    (hasCallback : Bool) (timeoutMs nowMs : UInt32) :
    let result := w.requestImpl env body handle target serviceId methodId payload
      hasCallback timeoutMs nowMs
    CallSteps env w result.2 ∧ RequestOutcome result.2.history handle hasCallback result.1 := by
  have submitted : CallSteps env w (w.submit env handle target serviceId methodId payload
      hasCallback timeoutMs nowMs).2 :=
    (Atomic.submit target serviceId methodId payload hasCallback timeoutMs nowMs fresh).callSteps
      rfl
  rcases @submit_spec _ _ env handle target serviceId methodId payload hasCallback
      timeoutMs nowMs w with ⟨-, none⟩ | some
  · rw [requestImpl, none]
    exact ⟨.refl, .inl ⟨rfl, fresh⟩⟩
  · obtain ⟨requestId, tracker, ok, allocated, outcome, trackerEq, -, rt, auth, history⟩ := some
    rcases submission : w.submit env handle target serviceId methodId payload hasCallback
        timeoutMs nowMs with ⟨answer, after⟩
    rw [submission] at submitted outcome trackerEq history
    simp only at submitted outcome trackerEq history
    subst outcome
    obtain ⟨frame, history⟩ : ∃ frame, after.history =
        .sent (.request handle) target frame ok ::
        .issued handle requestId target serviceId methodId payload hasCallback ::
        w.history := ⟨_, history⟩
    have sent : .sent (.request handle) target frame ok ∈ after.history := by simp [history]
    have issued : .issued handle requestId target serviceId methodId payload hasCallback ∈
        after.history := by simp [history]
    cases ok with
    | true =>
        rw [requestImpl, submission]
        exact ⟨submitted, .inr ⟨_, _, _, _, _, _, _, issued, sent, rfl⟩⟩
    | false =>
        obtain ⟨slot, found⟩ := RequestTracker.findActive_allocate allocated
        rw [← trackerEq] at found
        obtain ⟨active, slotId⟩ := RequestTracker.findActive_spec found
        have reason : Finishes after slot .sendFailed .eNotOk [] :=
          .sendFailed history slotId
        have finished := finish_steps runs active reason
        let last := RequestTracker.finish trackerLens (invokeRequest .sendFailed body) slot
          .eNotOk [] after
        have unfolded : w.requestImpl env body handle target serviceId methodId payload
            hasCallback timeoutMs nowMs = (none, last.increment .droppedMessages none) := by
          rw [requestImpl, submission]
          simp only [RequestTracker.complete, trackerLens_get, found, last]
        have counted : CallSteps env last (last.increment .droppedMessages none) :=
          .single (.count _ _ _)
        have grown := Steps.suffix (CallSteps.steps (finished.trans counted))
        rw [unfolded]
        exact ⟨submitted.trans (finished.trans counted), .inr ⟨_, _, _, _, _, _, _,
          grown.subset issued, grown.subset sent, rfl⟩⟩

theorem fireAndForget_steps (serviceId methodId : UInt16) (payload : Payload)
    (w : World cfg) : SendSteps env w (w.fireAndForget env serviceId methodId payload).2 := by
  unfold fireAndForget
  split
  · exact .refl
  · exact transmit_steps _ _ _ _ (.inl ⟨rfl, rfl⟩) w

theorem notifyEvent_steps (serviceId eventId : UInt16) (payload : Payload) (w : World cfg) :
    SendSteps env w (w.notifyEvent env serviceId eventId payload).2 := by
  unfold notifyEvent
  split
  · apply Runs.foldl
    intro state dest
    exact transmit_steps _ _ _ _ (.inr ⟨rfl, rfl⟩) state
  · exact .refl

include runs in
theorem request_steps {handle : Nat} {w : World cfg} (fresh : handle = w.history.length)
    (target : Option (Address n)) (serviceId methodId : UInt16) (payload : Payload)
    (hasCallback : Bool) (timeoutMs nowMs : UInt32) :
    let result := w.request env body handle target serviceId methodId payload hasCallback
      timeoutMs nowMs
    CallSteps env w result.2 ∧ RequestOutcome result.2.history handle hasCallback result.1 := by
  simp only [request]
  cases target.or (w.rt.sd.getProviderAddress serviceId) with
  | none => exact ⟨.refl, .inl ⟨rfl, fresh⟩⟩
  | some provider => exact requestImpl_steps runs fresh _ _ _ _ _ _ _

include runs in
/-- A call with its return is a run. -/
theorem perform_steps (call : ApiCall cfg) (w : World cfg) :
    CallSteps env w (w.perform env body call) := by
  cases local_ : call.isLocal with
  | true =>
      rw [perform_local body local_]
      exact (Atomic.perform local_ w).callSteps rfl
  | false =>
      cases call with
      | request target serviceId methodId payload hasCallback timeoutMs nowMs =>
          obtain ⟨steps, outcome⟩ := request_steps runs (rfl : w.history.length = _) target
            serviceId methodId payload hasCallback timeoutMs nowMs
          refine steps.trans ((Atomic.returned ?_).callSteps rfl)
          exact And.intro (Steps.suffix steps.steps).length_le outcome
      | fireAndForget serviceId methodId payload =>
          refine (fireAndForget_steps serviceId methodId payload w).callSteps.trans
            ((Atomic.returned ?_).callSteps rfl)
          exact True.intro
      | notifyEvent serviceId eventId payload =>
          refine (notifyEvent_steps serviceId eventId payload w).callSteps.trans
            ((Atomic.returned ?_).callSteps rfl)
          exact True.intro
      | _ => cases local_

end World

/-- A callback's body is a run; by induction on the script, the bodies of the
callbacks its calls may run being subscripts. -/
theorem Script.run_steps (script : Script cfg) :
    ∀ w : World cfg, CallSteps env w (script.run env w) := by
  induction script with
  | done => exact fun _ => .refl
  | call operation callback rest callbackIh restIh =>
      intro w
      exact (World.perform_steps callbackIh operation w).trans (restIh _)

namespace World

theorem react_steps (w : World cfg) : CallSteps env w (w.react env) :=
  (env.react w.history).run_steps w

end World

/-! ## Walks

What holds across the single steps of an operation, and across whatever a callback's body
does, holds across the operation. -/

/-- Is it a step of handling a message that neither completes a request nor belongs to an API
call? -/
def StepKind.isHandling : StepKind → Bool
  | validate | enterHandler | reply | callback => true
  | _ => false

/-- A relation along which messages other than discovery's are handled. -/
structure PlainWalk (env : Env cfg) (walks : World cfg → World cfg → Prop) : Prop where
  refl (w : World cfg) : walks w w
  trans {first second third : World cfg} (earlier : walks first second)
    (later : walks second third) : walks first third
  script (script : Script cfg) (w : World cfg) : walks w (script.run env w)
  count (counter : DiagnosticCounter) (header : Option Bytes) (w : World cfg) :
    walks w (w.increment counter header)
  storeDtcs {dtcStore : DtcStore cfg} {w : World cfg}
    (write : DiagnosticsService.DtcWrite w.rt.dtcStore dtcStore) :
    walks w { w with rt := { w.rt with dtcStore } }
  fillResponse (responseBuffer : Buffer cfg.maxPayloadSize) (w : World cfg) :
    walks w { w with rt := { w.rt with responseBuffer } }
  handling {kind : StepKind} {before after : World cfg} (isHandling : kind.isHandling = true)
    (step : Atomic env kind before after) : walks before after
  reply {slot : Fin cfg.maxPendingRequests} {rc : ReturnCode} {payload : Bytes} {w : World cfg}
    (active : (w.rt.requestTracker.entries slot).active = true)
    (reason : Finishes w slot .reply rc payload) :
    walks w (RequestTracker.finish World.trackerLens (World.invokeRequest .reply id) slot rc
      payload w)

/-- A relation along which discovery works as long as it resets no peer. -/
structure DiscoveryWalk (env : Env cfg) (walks : World cfg → World cfg → Prop) : Prop
    extends PlainWalk env walks where
  background {before after : World cfg} (step : Background env before after) :
    walks before after
  sdWrite {sd : ServiceDiscovery cfg} {w : World cfg} (write : SdWrite w.rt.sd sd) :
    walks w { w with rt := { w.rt with sd } }
  markRenewals (nowMs : UInt32) (w : World cfg) : walks w (w.markRenewals nowMs)

/-- A relation along which every message is handled and every pass of a cycle made, except that
in which requests time out. -/
structure Walk (env : Env cfg) (walks : World cfg → World cfg → Prop) : Prop
    extends DiscoveryWalk env walks where
  resetPeer (addr : Address n) (w : World cfg) : walks w (w.resetPeer addr)

theorem plainWalk_plainSteps : PlainWalk env (PlainSteps env) where
  refl _ := .refl
  trans := .trans
  script script w := (script.run_steps w).plainSteps
  count counter header w := .single (.count counter header w)
  storeDtcs write := .single (.storeDtcs write)
  fillResponse buffer w := .single (.fillResponse buffer w)
  handling {kind} _ _ isHandling step := by
    refine step.plainSteps ?_
    cases kind with
    | validate | enterHandler | reply | callback => rfl
    | _ => cases isHandling
  reply active reason := (Atomic.finish active reason).plainSteps rfl

theorem walk_steps : Walk env (Steps env) where
  refl _ := .refl
  trans := .trans
  script script w := (script.run_steps w).steps
  count counter header w := (Background.increment counter header w).steps
  storeDtcs write := (Background.storeDtcs write).steps
  fillResponse buffer w := (Background.fillResponse buffer w).steps
  handling _ step := step.steps
  reply active reason := (Atomic.finish active reason).steps
  background step := step.steps
  resetPeer addr w := (Atomic.resetPeer addr w).steps
  sdWrite write := (Atomic.sdWrite write).steps
  markRenewals nowMs w := (Atomic.markRenewals nowMs w).steps

/-- A datagram that passes validation is the one accepted last. -/
theorem World.validate_accepted {source : Address n} {data : Bytes} {hdr : MessageHeader}
    {w after : World cfg} (passes : w.validate source data = (some hdr, after)) :
    Accepted source data hdr after := by
  unfold validate at passes
  cases checked : checkFrame cfg data with
  | error failure =>
      rw [checked] at passes
      cases passes
  | ok parsed =>
      rw [checked] at passes
      rcases sequence : (w.emit (.received source data)).checkSequence source data parsed with
        ⟨proceed, last⟩
      simp only [sequence] at passes
      cases proceed with
      | false => cases passes
      | true =>
          simp only at passes
          split at passes
          · next authentic =>
              cases passes
              exact ⟨rfl, checked, authentic⟩
          · cases passes

theorem World.accepted_of_passed {source : Address n} {data : Bytes} {hdr : MessageHeader}
    {w : World cfg} (passed : (w.validate source data).1 = some hdr) :
    Accepted source data hdr (w.validate source data).2 :=
  validate_accepted (Prod.ext passed rfl)

namespace PlainWalk

open World

variable {walks : World cfg → World cfg → Prop} (walk : PlainWalk env walks)

include walk

theorem react (w : World cfg) : walks w (w.react env) :=
  walk.script _ w

theorem callback {callback : Callback n}
    (other : ∀ handle cause rc payload, callback ≠ .request handle cause rc payload)
    (w : World cfg) : walks w (w.callback env callback) :=
  walk.trans (walk.handling rfl (.callback callback other w)) (walk.react _)

section Handlers

variable {source : Address n} {data : Bytes} {hdr : MessageHeader} {w : World cfg}

/-- A handler's run, and a bound on the response it reports. -/
theorem callHandler (accepted : Accepted source data hdr w)
    (notSd : hdr.serviceId ≠ sdServiceId) {entry : ServiceEntry}
    (found : w.rt.dispatcher.find hdr.serviceId = some entry) (capacity : Option Nat)
    (room : capacity.getD 0 ≤ cfg.maxPayloadSize) :
    let result := w.callHandler env entry hdr.methodEventId (payloadOf hdr data) capacity
    walks w result.2 ∧ (env.Honest → result.1.responseLength ≤ cfg.maxPayloadSize) := by
  have entered : walks w (w.emit (.onRequest entry w.rt.authenticator
      hdr.methodEventId (payloadOf hdr data) capacity)) :=
    walk.handling rfl (.enterHandler capacity accepted notSd found)
  simp only [World.callHandler]
  cases entry.context with
  | application context =>
      exact ⟨walk.trans entered (walk.script _ _), fun honest => honest _ _ _ _⟩
  | diagnostics =>
      have written := DiagnosticsService.onRequest_write w.rt.diagService w.rt.diag w.rt.dispatcher
        ((w.emit (.onRequest entry w.rt.authenticator hdr.methodEventId (payloadOf hdr data)
          capacity)).isReady env) w.rt.uptimeMs hdr.methodEventId (payloadOf hdr data)
        (capacity.getD 0) w.rt.dtcStore
      refine ⟨walk.trans entered (walk.storeDtcs written), fun _ => ?_⟩
      exact (DiagnosticsService.onRequest_responseLength_le ..).trans room

theorem dispatch (accepted : Accepted source data hdr w)
    (notSd : hdr.serviceId ≠ sdServiceId) :
    let result := w.dispatch env hdr.serviceId hdr.methodEventId (payloadOf hdr data)
    walks w result.2 ∧ (env.Honest → result.1.2 ≤ cfg.maxPayloadSize) := by
  simp only [World.dispatch]
  cases found : w.rt.dispatcher.find hdr.serviceId with
  | none => exact ⟨walk.refl w, fun _ => Nat.le_refl _⟩
  | some entry =>
      simp only
      split
      · have handled := walk.callHandler accepted notSd found (some cfg.maxPayloadSize)
          (Nat.le_refl _)
        exact ⟨walk.trans handled.1 (walk.fillResponse _ _), handled.2⟩
      · exact ⟨walk.refl w, fun _ => Nat.le_refl _⟩

theorem handleRequest (accepted : Accepted source data hdr w)
    (notSd : hdr.serviceId ≠ sdServiceId)
    (isRequest : MessageType.ofByte hdr.messageType = some .request) :
    walks w (w.handleRequest env source hdr (payloadOf hdr data)) := by
  obtain ⟨dispatched, fits⟩ := walk.dispatch accepted notSd
  have steps := (@plainWalk_plainSteps _ _ env).dispatch accepted notSd
  have still := (Steps.suffix steps.1.steps).subset (List.mem_of_mem_head? accepted.current)
  exact walk.trans dispatched
    (walk.handling rfl (.reply still accepted.checked notSd isRequest _ fits))

theorem handleFireAndForget (accepted : Accepted source data hdr w)
    (notSd : hdr.serviceId ≠ sdServiceId) :
    walks w (w.handleFireAndForget env hdr (payloadOf hdr data)) := by
  unfold World.handleFireAndForget
  cases found : w.rt.dispatcher.find hdr.serviceId with
  | none => exact walk.count _ _ _
  | some entry =>
      simp only
      split
      · exact (walk.callHandler accepted notSd found none (Nat.zero_le _)).1
      · exact walk.refl w

theorem handleReply (accepted : Accepted source data hdr w)
    (notSd : hdr.serviceId ≠ sdServiceId)
    (type : MessageType.ofByte hdr.messageType = some .response ∨
      MessageType.ofByte hdr.messageType = some .error) :
    walks w (w.handleReply env hdr (payloadOf hdr data)) := by
  unfold World.handleReply RequestTracker.complete
  cases found : (trackerLens.get w).findActive hdr.requestId with
  | none => exact walk.refl w
  | some slot =>
      obtain ⟨active, requestId⟩ := RequestTracker.findActive_spec found
      have entered := walk.reply active (.reply accepted notSd type requestId)
      dsimp only
      rw [finish_body]
      cases (w.rt.requestTracker.entries slot).callback with
      | none => exact entered
      | some handle => exact walk.trans entered (walk.react _)

theorem handleNotification (hdr : MessageHeader) (payload : Bytes) (w : World cfg) :
    walks w (w.handleNotification env hdr payload) := by
  unfold World.handleNotification
  split
  · exact walk.refl w
  · exact walk.callback (by simp) w

/-- Messages other than discovery's. -/
theorem dispatchMessage (accepted : Accepted source data hdr w)
    (notSd : hdr.serviceId ≠ sdServiceId) (nowMs : UInt32) :
    walks w (w.dispatchMessage env source hdr (payloadOf hdr data) nowMs) := by
  rw [World.dispatchMessage, if_neg notSd]
  split
  · next type => exact walk.handleRequest accepted notSd type
  · exact walk.handleFireAndForget accepted notSd
  · next type => exact walk.handleReply accepted notSd (.inl type)
  · next type => exact walk.handleReply accepted notSd (.inr type)
  · exact walk.handleNotification _ _ _
  · exact walk.refl w

end Handlers

theorem callServiceLost (serviceId : UInt16) (w : World cfg) :
    walks w (ServiceDiscovery.callServiceLost sdLens (sdHooks env) serviceId w) := by
  unfold ServiceDiscovery.callServiceLost
  split
  · exact walk.callback (by simp) w
  · exact walk.refl w

theorem callServiceFound (serviceId : UInt16) (provider : Address n) (w : World cfg) :
    walks w (ServiceDiscovery.callServiceFound sdLens (sdHooks env) serviceId provider w) := by
  unfold ServiceDiscovery.callServiceFound
  split
  · exact walk.callback (by simp) w
  · exact walk.refl w

theorem foldl {α : Type} {body : World cfg → α → World cfg}
    (each : ∀ w item, walks w (body w item)) (items : List α) (w : World cfg) :
    walks w (items.foldl body w) := by
  induction items generalizing w with
  | nil => exact walk.refl w
  | cons item rest ih => exact walk.trans (each w item) (ih _)

end PlainWalk

namespace DiscoveryWalk

open World

variable {walks : World cfg → World cfg → Prop} (walk : DiscoveryWalk env walks)

include walk

theorem modifySd {update : ServiceDiscovery cfg → ServiceDiscovery cfg}
    (write : ∀ sd, SdWrite sd (update sd)) (w : World cfg) :
    walks w (sdLens.modify update w) :=
  walk.sdWrite (write w.rt.sd)

/-- The three branches of `handle_offer` interleave writes with callbacks. -/
theorem sdHandleOffer (serviceId : UInt16) (major : UInt8) (ttl session : UInt16)
    (provider : Address n) (nowMs : UInt32) (w : World cfg) :
    walks w (ServiceDiscovery.handleOffer sdLens (sdHooks env) serviceId major ttl
      session provider nowMs w) := by
  have recorded : ∀ w : World cfg, walks w (sdLens.modify (fun sd =>
      sd.recordOffer serviceId ttl session provider nowMs) w) :=
    walk.modifySd fun _ => .recordOffer _ _ _ _ _
  have found : ∀ w : World cfg, walks w (sdLens.modify (fun sd => sd.markFound serviceId) w) :=
    walk.modifySd fun _ => .markFound _
  have flagged : ∀ w : World cfg, walks w
      (sdLens.modify (fun sd => sd.flagResubscribe serviceId nowMs) w) :=
    walk.modifySd fun _ => .flagResubscribe _ _
  unfold ServiceDiscovery.handleOffer
  split
  · exact walk.refl w
  · split
    · exact walk.refl w
    · split
      · exact walk.refl w
      · refine walk.trans (recorded w) ?_
        dsimp only
        split
        · exact walk.trans (walk.callServiceLost _ _) (walk.trans (found _)
            (walk.trans (walk.callServiceFound _ _ _) (flagged _)))
        · split
          · exact walk.trans (found _) (walk.trans (flagged _) (walk.callServiceFound _ _ _))
          · split
            · exact walk.trans (flagged _) (walk.callServiceFound _ _ _)
            · exact walk.refl _

theorem handleSubscribeAck (serviceId eventId : UInt16) (result : ReturnCode)
    (grantedTtl : UInt16) (w : World cfg) :
    walks w (ServiceDiscovery.handleSubscribeAck sdLens (sdHooks env) serviceId eventId result
      grantedTtl w) := by
  have recorded : walks w (sdLens.modify (fun sd =>
      sd.recordAck serviceId eventId result grantedTtl) w) :=
    walk.modifySd (fun _ => .recordAck _ _ _ _) w
  refine walk.trans recorded ?_
  unfold ServiceDiscovery.handleSubscribeAck
  dsimp only
  split
  · exact walk.callback (by simp) _
  · exact walk.refl _

theorem processFind (nowMs : UInt32) (w : World cfg) (index : Nat) :
    walks w (ServiceDiscovery.processFind sdLens (sdHooks env) nowMs w index) := by
  unfold ServiceDiscovery.processFind
  split
  · exact walk.refl w
  · next entry _ =>
      split
      · have sent : walks w ((sdHooks env).broadcast (.find entry.serviceId) w) :=
          walk.background (.sdBroadcast _ w)
        refine walk.trans sent ?_
        dsimp only
        split
        · exact walk.trans (walk.modifySd (fun _ => .giveUpFind _ _) _)
            (walk.callServiceLost _ _)
        · exact walk.modifySd (fun _ => .scheduleRetry _ _ _) _
      · exact walk.refl w

/-- The passes of a cycle between those in which requests and providers time out. -/
theorem housekeepingSends (nowMs : UInt32) (w : World cfg) :
    walks w (((w.evictSubscribers nowMs).broadcastOffers env nowMs).renewSubscriptions env
      nowMs) := by
  have offers : ∀ w : World cfg, walks w (w.broadcastOffers env nowMs) := fun w =>
    walk.trans (walk.modifySd (fun _ => .processOffers nowMs) w)
      (walk.foldl (fun _ _ => walk.background (.sdBroadcast _ _)) _ _)
  have renewals : ∀ w : World cfg, walks w (w.renewSubscriptions env nowMs) := fun w =>
    walk.trans (walk.markRenewals nowMs w)
      (walk.foldl (fun _ _ => walk.background (.sdUnicast _ _ _)) _ _)
  exact walk.trans (walk.background (.evictSubscribers nowMs w))
    (walk.trans (offers _) (renewals _))

end DiscoveryWalk

namespace Walk

open World

variable {walks : World cfg → World cfg → Prop} (walk : Walk env walks)

include walk

theorem handleOffer (offer : SdPayload.Offer n) (nowMs : UInt32) (w : World cfg) :
    walks w (w.handleOffer env offer nowMs) := by
  unfold World.handleOffer
  refine walk.trans ?_ (walk.sdHandleOffer _ _ _ _ _ _ _)
  split
  · exact walk.resetPeer _ w
  · exact walk.refl w

theorem handleFind (source : Address n) (serviceId : UInt16) (w : World cfg) :
    walks w (w.handleFind env source serviceId) :=
  walk.trans (walk.resetPeer source w)
    (walk.foldl (fun w message => walk.background (.sdUnicast source message w)) _ _)

theorem handleSdMessage (source : Address n) (hdr : MessageHeader) (payload : Bytes)
    (nowMs : UInt32) (w : World cfg) :
    walks w (w.handleSdMessage env source hdr payload nowMs) := by
  unfold World.handleSdMessage
  split
  all_goals first | exact walk.refl w | split
  · exact walk.handleOffer _ _ _
  · exact walk.refl w
  · exact walk.handleFind _ _ _
  · exact walk.refl w
  · exact walk.background (.subscribeRequest _ _ _ _ _)
  · exact walk.refl w
  · exact walk.handleSubscribeAck _ _ _ _ _
  · exact walk.refl w
  · exact walk.background (.unsubscribeRequest _ _ _)
  · exact walk.refl w

theorem handleMessage {source : Address n} {data : Bytes} {hdr : MessageHeader} {w : World cfg}
    (accepted : Accepted source data hdr w) (nowMs : UInt32) :
    walks w (w.dispatchMessage env source hdr (payloadOf hdr data) nowMs) := by
  by_cases sd : hdr.serviceId = sdServiceId
  · rw [World.dispatchMessage, if_pos sd]
    exact walk.handleSdMessage _ _ _ _ _
  · exact walk.dispatchMessage accepted sd nowMs

theorem validateAndDispatch (source : Address n) (data : Bytes) (nowMs : UInt32)
    (w : World cfg) : walks w (w.validateAndDispatch env source data nowMs) := by
  have validated : walks w (w.validate source data).2 :=
    walk.handling rfl (.validate source data w)
  unfold World.validateAndDispatch
  rcases outcome : w.validate source data with ⟨passed, after⟩
  rw [outcome] at validated
  cases passed with
  | none => exact validated
  | some hdr => exact walk.trans validated (walk.handleMessage (validate_accepted outcome) nowMs)

theorem processConsumerTtl (nowMs : UInt32) (w : World cfg) (index : Nat) :
    walks w (ServiceDiscovery.processConsumerTtl sdLens (sdHooks env) nowMs w index) := by
  unfold ServiceDiscovery.processConsumerTtl
  split
  · exact walk.refl w
  · split
    · exact walk.trans (walk.modifySd (fun _ => .expireConsumer _) _)
        (walk.trans (walk.resetPeer _ _) (walk.callServiceLost _ _))
    · exact walk.refl w

/-- What a cycle does behind the pass in which requests time out. -/
theorem housekeeping (nowMs : UInt32) (w : World cfg) :
    walks (w.evictRequests env nowMs) (w.housekeeping env nowMs) := by
  exact walk.trans (walk.housekeepingSends nowMs _)
    (walk.trans (walk.foldl (walk.processConsumerTtl nowMs) _ _)
      (walk.foldl (walk.processFind nowMs) _ _))

end Walk

/-! ## Operations as steps -/

namespace World

theorem callback_steps {callback : Callback n}
    (other : ∀ handle cause rc payload, callback ≠ .request handle cause rc payload)
    (w : World cfg) : PlainSteps env w (w.callback env callback) :=
  plainWalk_plainSteps.callback other w

theorem callServiceLost_steps (serviceId : UInt16) (w : World cfg) :
    PlainSteps env w (ServiceDiscovery.callServiceLost sdLens (sdHooks env) serviceId w) :=
  plainWalk_plainSteps.callServiceLost serviceId w

theorem callServiceFound_steps (serviceId : UInt16) (provider : Address n) (w : World cfg) :
    PlainSteps env w
      (ServiceDiscovery.callServiceFound sdLens (sdHooks env) serviceId provider w) :=
  plainWalk_plainSteps.callServiceFound serviceId provider w

theorem sdWrite_steps {update : ServiceDiscovery cfg → ServiceDiscovery cfg}
    (write : ∀ sd, SdWrite sd (update sd)) (w : World cfg) :
    Steps env w (sdLens.modify update w) :=
  walk_steps.modifySd write w

theorem handleOffer_steps (offer : SdPayload.Offer n) (nowMs : UInt32) (w : World cfg) :
    Steps env w (w.handleOffer env offer nowMs) :=
  walk_steps.handleOffer offer nowMs w

theorem processFind_steps (nowMs : UInt32) (w : World cfg) (index : Nat) :
    Steps env w (ServiceDiscovery.processFind sdLens (sdHooks env) nowMs w index) :=
  walk_steps.processFind nowMs w index

theorem evictSlot_steps (nowMs : UInt32) (w : World cfg) (slot : Fin cfg.maxPendingRequests) :
    CallSteps env w (RequestTracker.evictSlot trackerLens (invokeRequest .timeout (react env))
      nowMs w slot) := by
  unfold RequestTracker.evictSlot
  simp only
  split
  · next expired =>
      rw [Bool.and_eq_true] at expired
      exact finish_steps react_steps expired.1 (.timeout expired.2)
  · exact .refl

theorem evictRequests_steps (nowMs : UInt32) (w : World cfg) :
    CallSteps env w (w.evictRequests env nowMs) :=
  Runs.foldl (evictSlot_steps nowMs) _ w

theorem step_steps (w : World cfg) (move : Move cfg) : Steps env w (w.step env move) := by
  cases move with
  | api call => exact (perform_steps react_steps call w).steps
  | start nowMs => exact (Background.startCycle nowMs w).steps
  | deliver source data nowMs => exact walk_steps.validateAndDispatch source data nowMs w
  | housekeeping nowMs =>
      exact (evictRequests_steps nowMs w).steps.trans (walk_steps.housekeeping nowMs w)

theorem run_steps (moves : List (Move cfg)) (w : World cfg) :
    Steps env w (run env moves w) :=
  Runs.foldl step_steps moves w

/-- What holds initially and is preserved by every step holds of every reachable
world. -/
theorem Reachable.invariant {holds : World cfg → Prop}
    (initially : ∀ clientId, holds (World.initial cfg clientId))
    (preserves : ∀ kind before after, holds before → Atomic env kind before after →
      holds after)
    {w : World cfg} (reachable : Reachable env w) : holds w := by
  obtain ⟨clientId, moves, rfl⟩ := reachable
  refine Runs.invariant ?_ (run_steps moves _) (initially clientId)
  rintro before after holding ⟨kind, step⟩
  exact preserves kind before after holding step

end World

end Sero
