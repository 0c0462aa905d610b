import Sero.Properties.RequestFrames
import Sero.Properties.RequestOutcome

/-!
# Requests at the return of their calls

Nothing comes between the frame the transport takes and the return of the call, so a request
that has an id is still pending when the caller learns of it.  A request whose frame is refused
has been reported before the call returns.
-/

namespace Sero

open Library ServiceDiscovery

variable {n : Nat} {cfg : Config n} {env : Env cfg}

/-- With distinct ids, the request found under a new id is the new one. -/
theorem RequestTracker.callback_of_found {tracker after : RequestTracker cfg Nat}
    {serviceId methodId : UInt16} {timeoutMs nowMs : UInt32} {callback : Option Nat}
    {requestId : UInt32} {slot : Fin cfg.maxPendingRequests}
    (allocated : tracker.allocate serviceId methodId timeoutMs nowMs callback =
      some (requestId, after))
    (unique : after.UniqueIds) (found : after.findActive requestId = some slot) :
    (after.entries slot).callback = callback := by
  obtain ⟨active, slotId⟩ := findActive_spec found
  obtain ⟨-, filled, entry, -, entryId, -, -, entryCallback, filledActive, rfl⟩ :=
    allocate_spec allocated
  have same : slot = filled :=
    unique slot filled active (by simpa using filledActive) (slotId.trans (by simp [entryId]))
  rw [same, ← entryCallback]
  exact congrArg PendingEntry.callback (Function.update_self _ _ _)

/-- Is it the return of a call of `request`? -/
def Event.returnsRequest : Event cfg → Bool
  | .returned (.request ..) _ => true
  | _ => false

structure RequestsReturned (w : World cfg) : Prop where
  unique : w.rt.requestTracker.UniqueIds
  /-- An id is returned right after the transport has taken the frame. -/
  taken : ∀ target serviceId methodId payload hasCallback timeoutMs nowMs handle requestId past,
    (.returned (.request target serviceId methodId payload hasCallback timeoutMs nowMs)
      (.request handle (some requestId)) :: past) <:+ w.history →
    ∃ dest frame older, past = .sent (.request handle) dest frame true ::
      .issued handle requestId dest serviceId methodId payload hasCallback :: older
  /-- A call that returns none has done nothing, or has reported its request. -/
  failed : ∀ target serviceId methodId payload timeoutMs nowMs handle past,
    (.returned (.request target serviceId methodId payload true timeoutMs nowMs)
      (.request handle none) :: past) <:+ w.history →
    handle = past.length ∨ handle ∈ calledHandles past

namespace RequestsReturned

variable {before after : World cfg} {events : History cfg}

theorem initial (clientId : UInt16) : RequestsReturned (World.initial cfg clientId) where
  unique := RequestTracker.uniqueIds_empty
  taken := by
    intro target serviceId methodId payload hasCallback timeoutMs nowMs handle requestId past occurs
    simp [World.initial] at occurs
  failed := by
    intro target serviceId methodId payload timeoutMs nowMs handle past occurs
    simp [World.initial] at occurs

/-- Without such a return there is nothing more to account for. -/
theorem grow (returned : RequestsReturned before)
    (history : after.history = events ++ before.history)
    (other : ∀ event ∈ events, event.returnsRequest = false)
    (unique : after.rt.requestTracker.UniqueIds) : RequestsReturned after where
  unique := unique
  taken := by
    intro target serviceId methodId payload hasCallback timeoutMs nowMs handle requestId past occurs
    rw [history] at occurs
    exact returned.taken _ _ _ _ _ _ _ _ _ _
      (Runs.suffix_of_notMem occurs fun new => by cases other _ new)
  failed := by
    intro target serviceId methodId payload timeoutMs nowMs handle past occurs
    rw [history] at occurs
    exact returned.failed _ _ _ _ _ _ _ _
      (Runs.suffix_of_notMem occurs fun new => by cases other _ new)

/-- Another call returns. -/
theorem emit (returned : RequestsReturned before) {event : Event cfg}
    (other : event.returnsRequest = false) : RequestsReturned (before.emit event) :=
  @grow _ _ before (before.emit event) [event] returned rfl (by simpa using other) returned.unique

end RequestsReturned

/-- Wherever requests are accounted for before, they are afterwards. -/
def KeepsReturned (before after : World cfg) : Prop :=
  RequestsReturned before → RequestsReturned after

theorem Atomic.keepsReturned (bounded : cfg.maxPendingRequests < UInt32.size) {kind : StepKind}
    {before after : World cfg} (step : Atomic env kind before after)
    (notReturned : kind ≠ .returned) : KeepsReturned before after := by
  intro returned
  obtain ⟨events, history, kinds⟩ := step.observes
  have other : ∀ event ∈ events, event.returnsRequest = false := by
    intro event member
    cases event with
    | returned call =>
        cases call with
        | request =>
            rcases kinds _ member with own | quiet
            · exact absurd own.symm notReturned
            · cases quiet
        | _ => rfl
    | _ => rfl
  refine returned.grow history other ?_
  have table := step.frame.requestTracker
  cases step with
  | returned => contradiction
  | @submit handle target serviceId methodId payload hasCallback timeoutMs nowMs =>
      rcases @World.submit_spec _ _ env handle target serviceId methodId payload hasCallback
          timeoutMs nowMs before with
        ⟨-, none⟩ | ⟨requestId, tracker, ok, allocated, -, filled, -⟩
      · rw [none]
        exact returned.unique
      · rw [filled]
        exact returned.unique.allocate bounded allocated
  | finish =>
      rw [World.finish_requestTracker]
      exact returned.unique.release _
  | _ =>
      rw [table (by simp)]
      exact returned.unique

namespace World

variable {body : World cfg → World cfg} (keeps : ∀ w, KeepsReturned w (body w))
  (runs : ∀ w, CallSteps env w (body w))

include keeps in
theorem finish_keepsReturned (bounded : cfg.maxPendingRequests < UInt32.size) {w : World cfg}
    {slot : Fin cfg.maxPendingRequests} {cause : Cause} {rc : ReturnCode} {payload : Bytes}
    (active : (w.rt.requestTracker.entries slot).active = true)
    (reason : Finishes w slot cause rc payload) :
    KeepsReturned w (RequestTracker.finish trackerLens (invokeRequest cause body) slot rc payload
      w) := by
  intro returned
  have step : Atomic (.benign cfg) .finish w _ := .finish active reason
  have entered := step.keepsReturned bounded (by simp) returned
  rw [finish_body]
  cases (w.rt.requestTracker.entries slot).callback with
  | none => exact entered
  | some handle => exact keeps _ entered

include runs in
/-- Completing a request reports it. -/
theorem finish_reports {w : World cfg} {slot : Fin cfg.maxPendingRequests} {cause : Cause}
    {rc : ReturnCode} {payload : Bytes} {handle : Nat}
    (owed : (w.rt.requestTracker.entries slot).callback = some handle) :
    handle ∈ calledHandles
      (RequestTracker.finish trackerLens (invokeRequest cause body) slot rc payload w).history := by
  rw [finish_body, owed]
  refine ((Steps.suffix (CallSteps.steps (runs _))).sublist.filterMap _).subset ?_
  rw [RequestTracker.finish, trackerLens_get, owed]
  exact .head _

include keeps runs in
/-- What becomes of a request: the transport takes it and nothing else happens, or it is reported
before the call returns. -/
theorem requestImpl_returned (bounded : cfg.maxPendingRequests < UInt32.size) {w : World cfg}
    (returned : RequestsReturned w) (target : Address n) (serviceId methodId : UInt16)
    (payload : Payload) (hasCallback : Bool) (timeoutMs nowMs : UInt32) :
    let handle := w.history.length
    let result := w.requestImpl env body handle target serviceId methodId payload hasCallback
      timeoutMs nowMs
    RequestsReturned result.2 ∧
      (∀ requestId, result.1 = some requestId →
        ∃ frame, result.2.history = .sent (.request handle) target frame true ::
          .issued handle requestId target serviceId methodId payload hasCallback :: w.history) ∧
      (result.1 = none → result.2.history = w.history ∨
        (hasCallback = true → handle ∈ calledHandles result.2.history)) := by
  intro handle
  have submitted : RequestsReturned (w.submit env handle target serviceId methodId payload
      hasCallback timeoutMs nowMs).2 :=
    (Atomic.submit target serviceId methodId payload hasCallback timeoutMs nowMs rfl).keepsReturned
      bounded (by simp) returned
  rcases @submit_spec _ _ env handle target serviceId methodId payload hasCallback timeoutMs nowMs w
    with ⟨-, none⟩ | some
  · rw [requestImpl, none]
    exact ⟨returned, by simp, fun _ => .inl rfl⟩
  · obtain ⟨requestId, tracker, ok, allocated, outcome, table, -, rt, auth, history⟩ := some
    rcases submission : w.submit env handle target serviceId methodId payload hasCallback timeoutMs
        nowMs with ⟨answer, after⟩
    rw [submission] at submitted outcome table history
    simp only at submitted outcome table history
    subst outcome
    generalize Runtime.builtFrame rt _ _ _ _ _ = frame at history
    cases ok with
    | true =>
        rw [requestImpl, submission]
        refine ⟨submitted, ?_, by simp⟩
        rintro id ⟨⟩
        exact ⟨frame, history⟩
    | false =>
        obtain ⟨slot, found⟩ := RequestTracker.findActive_allocate allocated
        rw [← table] at found
        obtain ⟨active, slotId⟩ := RequestTracker.findActive_spec found
        let last := RequestTracker.finish trackerLens (invokeRequest .sendFailed body) slot .eNotOk
          [] after
        have unfolded : w.requestImpl env body handle target serviceId methodId payload
            hasCallback timeoutMs nowMs = (none, last.increment .droppedMessages none) := by
          rw [requestImpl, submission]
          simp only [RequestTracker.complete, trackerLens_get, found, last]
        have owed : (after.rt.requestTracker.entries slot).callback =
            if hasCallback then some handle else none := by
          have unique := submitted.unique
          rw [table] at found unique ⊢
          exact RequestTracker.callback_of_found allocated unique found
        have finished : RequestsReturned last :=
          finish_keepsReturned keeps bounded active (.sendFailed history slotId) submitted
        have counted : Atomic env .background last (last.increment .droppedMessages none) :=
          .background (.increment .droppedMessages none last)
        rw [unfolded]
        refine ⟨counted.keepsReturned bounded (by simp) finished, by simp, fun _ => .inr ?_⟩
        intro asked
        rw [if_pos asked] at owed
        exact (counted.observes.suffix.sublist.filterMap _).subset (finish_reports runs owed)

include keeps runs in
/-- A call with its return. -/
theorem perform_keepsReturned (bounded : cfg.maxPendingRequests < UInt32.size) (call : ApiCall cfg)
    (w : World cfg) : KeepsReturned w (w.perform env body call) := by
  intro returned
  have sends : ∀ {after : World cfg}, SendSteps env w after → RequestsReturned after := by
    intro after steps
    induction steps with
    | refl => exact returned
    | tail _ step ih =>
        cases step with
        | count counter header =>
            exact (Atomic.background (.increment counter header _) : Atomic env _ _ _).keepsReturned
              bounded (by simp) ih
        | transmit step => exact step.keepsReturned bounded (by simp) ih
  cases isLocal : call.isLocal with
  | true =>
      rw [perform_local body isLocal]
      exact (Atomic.perform isLocal w : Atomic env _ _ _).keepsReturned bounded (by simp) returned
  | false =>
      cases call with
      | fireAndForget serviceId methodId payload =>
          exact (sends (fireAndForget_steps serviceId methodId payload w)).emit rfl
      | notifyEvent serviceId eventId payload =>
          exact (sends (notifyEvent_steps serviceId eventId payload w)).emit rfl
      | request target serviceId methodId payload hasCallback timeoutMs nowMs =>
          let result := w.request env body w.history.length target serviceId methodId payload
            hasCallback timeoutMs nowMs
          have asked : RequestsReturned result.2 ∧
              (∀ requestId, result.1 = some requestId →
                ∃ dest frame older, result.2.history =
                  .sent (.request w.history.length) dest frame true ::
                  .issued w.history.length requestId dest serviceId methodId payload hasCallback ::
                  older) ∧
              (result.1 = none → result.2.history = w.history ∨
                (hasCallback = true → w.history.length ∈ calledHandles result.2.history)) := by
            simp only [result, request]
            cases target.or (w.rt.sd.getProviderAddress serviceId) with
            | none => exact ⟨returned, by simp, fun _ => .inl rfl⟩
            | some provider =>
                obtain ⟨after, taken, failed⟩ := @requestImpl_returned _ _ env _ keeps runs
                  bounded _ returned provider serviceId methodId payload hasCallback timeoutMs nowMs
                refine ⟨after, fun requestId accepted => ?_, failed⟩
                obtain ⟨frame, history⟩ := taken requestId accepted
                exact ⟨provider, frame, _, history⟩
          obtain ⟨after, taken, failed⟩ := asked
          change RequestsReturned (result.2.emit (.returned _ (.request w.history.length result.1)))
          refine ⟨after.unique, ?_, ?_⟩
          · intro _ _ _ _ _ _ _ handle requestId past occurs
            rcases List.suffix_cons_iff.mp occurs with now | earlier
            · injection now with same behind
              injection same with sameCall sameResult
              injection sameCall
              injection sameResult with sameHandle accepted
              subst behind
              obtain ⟨dest, frame, older, history⟩ := taken requestId accepted.symm
              refine ⟨dest, frame, older, ?_⟩
              rw [history]
              subst_vars
              rfl
            · exact after.taken _ _ _ _ _ _ _ _ _ _ earlier
          · intro _ _ _ _ _ _ handle past occurs
            rcases List.suffix_cons_iff.mp occurs with now | earlier
            · injection now with same behind
              injection same with sameCall sameResult
              injection sameCall with _ _ _ _ asked
              injection sameResult with sameHandle refused
              subst behind
              rw [sameHandle]
              rcases failed refused.symm with same | called
              · exact .inl (congrArg List.length same).symm
              · exact .inr (called asked.symm)
            · exact after.failed _ _ _ _ _ _ _ _ earlier
      | _ => cases isLocal

end World

/-- By induction on the script, the bodies of callbacks being subscripts. -/
theorem Script.keepsReturned (bounded : cfg.maxPendingRequests < UInt32.size)
    (script : Script cfg) : ∀ w : World cfg, KeepsReturned w (script.run env w) := by
  induction script with
  | done => exact fun _ returned => returned
  | call operation callback rest callbackIh restIh =>
      intro w returned
      have performed :=
        World.perform_keepsReturned callbackIh callback.run_steps bounded operation w returned
      exact restIh _ performed

theorem walk_keepsReturned (bounded : cfg.maxPendingRequests < UInt32.size) :
    Walk env (@KeepsReturned n cfg) := by
  have step : ∀ {kind before after}, Atomic env kind before after → kind ≠ .returned →
      KeepsReturned before after := fun step other => step.keepsReturned bounded other
  exact {
    refl := fun _ returned => returned
    trans := fun earlier later returned => later (earlier returned)
    script := fun script w => script.keepsReturned bounded w
    count := fun counter header w => step (.background (.increment counter header w)) (by simp)
    storeDtcs := fun write => step (.background (.storeDtcs write)) (by simp)
    fillResponse := fun buffer w => step (.background (.fillResponse buffer w)) (by simp)
    handling := by
      intro kind before after isHandling handled
      refine step handled ?_
      rintro rfl
      cases isHandling
    reply := fun active reason => step (.finish active reason) (by simp)
    background := fun quiet => step (.background quiet) (by simp)
    resetPeer := fun addr w => step (.resetPeer addr w) (by simp)
    sdWrite := fun write => step (.sdWrite write) (by simp)
    markRenewals := fun nowMs w => step (.markRenewals nowMs w) (by simp) }

namespace World

theorem evictRequests_keepsReturned (bounded : cfg.maxPendingRequests < UInt32.size)
    (nowMs : UInt32) (w : World cfg) : KeepsReturned w (w.evictRequests env nowMs) := by
  have each : ∀ (w : World cfg) slot, KeepsReturned w
      (RequestTracker.evictSlot trackerLens (invokeRequest .timeout (react env)) nowMs w slot) := by
    intro w slot
    unfold RequestTracker.evictSlot
    simp only
    split
    · next expired =>
        rw [Bool.and_eq_true] at expired
        exact finish_keepsReturned (fun w => Script.keepsReturned bounded _ w) bounded expired.1
          (.timeout expired.2)
    · exact fun returned => returned
  exact (@walk_keepsReturned _ _ env bounded).toPlainWalk.foldl each _ w

theorem step_keepsReturned (bounded : cfg.maxPendingRequests < UInt32.size) (w : World cfg)
    (move : Move cfg) : KeepsReturned w (w.step env move) := by
  have walk := @walk_keepsReturned _ _ env bounded
  cases move with
  | api call =>
      exact perform_keepsReturned (fun w => Script.keepsReturned bounded _ w) react_steps bounded
        call w
  | start nowMs => exact walk.background (.startCycle nowMs w)
  | deliver source data nowMs => exact walk.validateAndDispatch source data nowMs w
  | housekeeping nowMs =>
      exact walk.trans (evictRequests_keepsReturned bounded nowMs w) (walk.housekeeping nowMs w)

theorem Reachable.requestsReturned {w : World cfg} (reachable : World.Reachable env w)
    (bounded : cfg.maxPendingRequests < UInt32.size) : RequestsReturned w := by
  obtain ⟨clientId, moves, rfl⟩ := reachable
  exact (@walk_keepsReturned _ _ env bounded).toPlainWalk.foldl (step_keepsReturned bounded) moves _
    (.initial clientId)

end World

end Sero
