import Sero.Runtime.Decomposition

/-!
# The outcome of a request call

Every request that gets a slot owes its callback until the entry leaves the table,
and then runs it once.  A call that returns an id therefore has one outcome.  A call
that returns none should have no outcome at all, but one whose frame the transport
refused has already got its slot.
-/

namespace Sero

open Library

variable {n : Nat} {cfg : Config n} {env : Env cfg}

/-- Handles of the requests with a callback that have been given a slot. -/
def issuedHandles (history : History cfg) : List Nat :=
  history.filterMap fun
    | .issued handle _ _ _ _ _ true => some handle
    | _ => none

/-- Handles of the request callbacks that have been invoked. -/
def calledHandles (history : History cfg) : List Nat :=
  history.filterMap fun
    | .callback (.request handle _ _ _) => some handle
    | _ => none

/-- How often the callback of a request has been invoked or is still owed. -/
def outcomes (handle : Nat) (w : World cfg) : Nat :=
  (calledHandles w.history ++ w.rt.requestTracker.pending).count handle

/-- What the return value of `request` promises: no outcome, or exactly one. -/
def OneOutcome (handle : Nat) (w : World cfg) : Option UInt32 → Prop
  | none => outcomes handle w = 0
  | some _ => outcomes handle w = 1

/-! ## The invariant -/

structure RequestsTracked (w : World cfg) : Prop where
  /-- A request's handle is the length of the history it is issued after. -/
  fresh : ∀ handle requestId target serviceId methodId payload hasCallback past,
    (.issued handle requestId target serviceId methodId payload hasCallback :: past) <:+
      w.history → handle = past.length
  /-- A request frame is sent right after its request is issued. -/
  sent : ∀ handle dest frame ok past,
    (.sent (.request handle) dest frame ok :: past) <:+ w.history →
    ∃ requestId target serviceId methodId payload hasCallback older,
      past = .issued handle requestId target serviceId methodId payload hasCallback :: older
  returned : ∀ target serviceId methodId payload hasCallback timeoutMs nowMs handle result
    past,
    (.returned (.request target serviceId methodId payload hasCallback timeoutMs nowMs)
      (.request handle result) :: past) <:+ w.history →
    RequestOutcome past handle hasCallback result
  balance : (issuedHandles w.history).Perm
    (calledHandles w.history ++ w.rt.requestTracker.pending)

namespace RequestsTracked

theorem initial (clientId : UInt16) : RequestsTracked (World.initial cfg clientId) where
  fresh := by
    intro handle requestId target serviceId methodId payload hasCallback past occurs
    simp [World.initial] at occurs
  sent := by
    intro handle dest frame ok past occurs
    simp [World.initial] at occurs
  returned := by
    intro target serviceId methodId payload hasCallback timeoutMs nowMs handle result past
      occurs
    simp [World.initial] at occurs
  balance := by
    simp [World.initial, issuedHandles, calledHandles, RequestTracker.pending, Slots.held,
      RequestTracker.owed]

/-- Issuing a request adds its handle to both sides. -/
theorem balance_submit {before : World cfg} (tracked : RequestsTracked before) {handle : Nat}
    (target : Address n) (serviceId methodId : UInt16) (payload : Payload)
    (hasCallback : Bool) (timeoutMs nowMs : UInt32) :
    let after := (before.submit env handle target serviceId methodId payload hasCallback
      timeoutMs nowMs).2
    (issuedHandles after.history).Perm
      (calledHandles after.history ++ after.rt.requestTracker.pending) := by
  intro after
  rcases @World.submit_spec _ _ env handle target serviceId methodId payload hasCallback
      timeoutMs nowMs before with ⟨-, none⟩ | ⟨_, _, _, allocated, -, table, -, _, _, history⟩
  · have same : after = before := congrArg Prod.snd none
    rw [same]
    exact tracked.balance
  · have issued : issuedHandles after.history =
        (if hasCallback then some handle else none).toList ++
          issuedHandles before.history := by
      rw [show after.history = _ from history]
      cases hasCallback <;> rfl
    have called : calledHandles after.history = calledHandles before.history := by
      rw [show after.history = _ from history]
      rfl
    have pending := RequestTracker.pending_allocate allocated
    rw [issued, called, show after.rt.requestTracker = _ from table]
    apply (tracked.balance.append_left _).trans
    apply (List.perm_append_comm_assoc _ _ _).trans
    exact pending.symm.append_left _

/-- An entry that leaves the table moves its handle from owed to called. -/
theorem balance_finish {before : World cfg} (tracked : RequestsTracked before)
    {slot : Fin cfg.maxPendingRequests} (cause : Cause) (rc : ReturnCode) (payload : Bytes)
    (active : (before.rt.requestTracker.entries slot).active = true) :
    let after := RequestTracker.finish World.trackerLens (World.invokeRequest cause id) slot
      rc payload before
    (issuedHandles after.history).Perm
      (calledHandles after.history ++ after.rt.requestTracker.pending) := by
  intro after
  have released := RequestTracker.pending_release before.rt.requestTracker active
  have moved := tracked.balance.trans (released.append_left _)
  cases held : (before.rt.requestTracker.entries slot).callback with
  | none =>
      have equal : after = World.trackerLens.modify (fun tracker => tracker.release slot)
          before := by
        simp only [after, RequestTracker.finish, World.trackerLens_get, held]
      rw [held] at moved
      rw [equal]
      exact moved
  | some handle =>
      have equal : after = (World.trackerLens.modify (fun tracker => tracker.release slot)
          before).emit (.callback (.request handle cause rc payload)) := by
        simp only [after, RequestTracker.finish, World.trackerLens_get, held]
        rfl
      rw [held] at moved
      rw [equal]
      exact moved.trans List.perm_middle

theorem step {kind : StepKind} {before after : World cfg} (tracked : RequestsTracked before)
    (step : Atomic env kind before after) : RequestsTracked after where
  fresh := by
    intro handle requestId target serviceId methodId payload hasCallback past occurs
    by_cases submits : kind = .submit
    · subst submits
      cases step with
      | submit _ _ _ _ _ _ _ fresh =>
          rcases World.submit_occurs occurs with earlier | ⟨_, -, now | ⟨_, _, _, sent, -⟩⟩
          · exact tracked.fresh _ _ _ _ _ _ _ _ earlier
          · obtain ⟨issued, rfl⟩ := now
            cases issued
            exact fresh
          · cases sent
    · have earlier := step.observes.earlier occurs (Ne.symm submits) (by simp [Event.kind])
      exact tracked.fresh _ _ _ _ _ _ _ _ earlier
  sent := by
    intro handle dest frame ok past occurs
    by_cases submits : kind = .submit
    · subst submits
      cases step with
      | submit =>
          rcases World.submit_occurs occurs with earlier | ⟨_, -, issued | now⟩
          · exact tracked.sent _ _ _ _ _ earlier
          · cases issued.1
          · obtain ⟨_, _, _, sent, rfl⟩ := now
            cases sent
            exact ⟨_, _, _, _, _, _, _, rfl⟩
    · have earlier := step.observes.earlier occurs (Ne.symm submits) (by simp [Event.kind])
      exact tracked.sent _ _ _ _ _ earlier
  returned := by
    intro target serviceId methodId payload hasCallback timeoutMs nowMs handle result past
      occurs
    by_cases returns : kind = .returned
    · subst returns
      cases step with
      | returned outcome =>
          rcases List.suffix_cons_iff.mp occurs with now | earlier
          · cases now
            exact outcome.2
          · exact tracked.returned _ _ _ _ _ _ _ _ _ _ earlier
    · have earlier := step.observes.earlier occurs (Ne.symm returns)
        (by simp [Event.kind, ApiCall.isLocal])
      exact tracked.returned _ _ _ _ _ _ _ _ _ _ earlier
  balance := by
    have table := step.frame.requestTracker
    have issued : kind ≠ .submit →
        issuedHandles after.history = issuedHandles before.history := by
      intro other
      apply step.observes.filterMap
      rintro event (own | quiet) <;> cases event <;>
        simp_all [Event.kind]
    have called : kind ≠ .finish →
        calledHandles after.history = calledHandles before.history := by
      intro other
      apply step.observes.filterMap
      rintro (_ | _ | _ | _ | _ | _ | _ | _ | _ | ⟨_ | _⟩ | _ | _ | _) (own | quiet) <;>
        simp_all [Event.kind]
    cases step with
    | submit => exact tracked.balance_submit _ _ _ _ _ _ _
    | finish active reason => exact tracked.balance_finish _ _ _ active
    | _ =>
        rw [issued (by simp), called (by simp), table (by simp)]
        exact tracked.balance

end RequestsTracked

theorem World.Reachable.requestsTracked {w : World cfg} (reachable : World.Reachable env w) :
    RequestsTracked w :=
  reachable.invariant RequestsTracked.initial fun _ _ _ tracked step => tracked.step step

/-! ## What identifies a request -/

namespace RequestsTracked

variable {w : World cfg}

/-- No request is issued twice. -/
theorem nodup_issuedHandles (tracked : RequestsTracked w) :
    (issuedHandles w.history).Nodup := by
  have fresh := tracked.fresh
  have both : (∀ handle ∈ issuedHandles w.history, handle < w.history.length) ∧
      (issuedHandles w.history).Nodup := by
    generalize w.history = history at fresh
    induction history with
    | nil => simp [issuedHandles]
    | cons event past ih =>
        obtain ⟨below, distinct⟩ := ih fun handle _ _ _ _ _ _ earlier occurs =>
          fresh handle _ _ _ _ _ _ earlier (occurs.trans (List.suffix_cons event past))
        have later : ∀ handle ∈ issuedHandles past, handle < (event :: past).length :=
          fun handle member => Nat.lt_succ_of_lt (below handle member)
        cases event with
        | issued handle requestId target serviceId methodId payload hasCallback =>
            cases hasCallback with
            | false => exact ⟨later, distinct⟩
            | true =>
                have length := fresh _ _ _ _ _ _ _ _ (List.suffix_refl _)
                change (∀ other ∈ handle :: issuedHandles past, _) ∧
                  (handle :: issuedHandles past).Nodup
                constructor
                · intro other member
                  rcases List.mem_cons.mp member with rfl | earlier
                  · exact length ▸ Nat.lt_succ_self _
                  · exact later other earlier
                · apply List.nodup_cons.mpr
                  exact ⟨fun member => absurd (below _ member) (by omega), distinct⟩
        | _ => exact ⟨later, distinct⟩
  exact both.2

/-- Every request has at most one frame. -/
theorem sent_unique (tracked : RequestsTracked w) {handle : Nat} {left right : Address n}
    {leftFrame rightFrame : Bytes} {leftOk rightOk : Bool}
    (leftSent : .sent (.request handle) left leftFrame leftOk ∈ w.history)
    (rightSent : .sent (.request handle) right rightFrame rightOk ∈ w.history) :
    leftOk = rightOk := by
  obtain ⟨leftPast, leftOccurs⟩ := Runs.exists_suffix leftSent
  obtain ⟨rightPast, rightOccurs⟩ := Runs.exists_suffix rightSent
  obtain ⟨_, _, _, _, _, _, leftOlder, rfl⟩ := tracked.sent _ _ _ _ _ leftOccurs
  obtain ⟨_, _, _, _, _, _, rightOlder, rfl⟩ := tracked.sent _ _ _ _ _ rightOccurs
  have leftLength := tracked.fresh _ _ _ _ _ _ _ _
    ((List.suffix_cons _ _).trans leftOccurs)
  have rightLength := tracked.fresh _ _ _ _ _ _ _ _
    ((List.suffix_cons _ _).trans rightOccurs)
  have same := Runs.suffix_unique leftOccurs rightOccurs (by simp [← leftLength, ← rightLength])
  cases same
  rfl

/-- A handle issued with a callback has one outcome, and no other handle has any. -/
theorem outcomes_eq (tracked : RequestsTracked w) (handle : Nat) :
    outcomes handle w = if handle ∈ issuedHandles w.history then 1 else 0 := by
  rw [outcomes, ← tracked.balance.count_eq, tracked.nodup_issuedHandles.count]

/-- Nothing is issued under the handle of a call that returned before it got a slot. -/
theorem not_issued (tracked : RequestsTracked w) {call : ApiCall cfg} {result : ApiResult}
    {past : History cfg} (returned : (.returned call result :: past) <:+ w.history)
    (requestId : UInt32) (target : Address n) (serviceId methodId : UInt16)
    (payload : Payload) (hasCallback : Bool) :
    .issued past.length requestId target serviceId methodId payload hasCallback ∉
      w.history := by
  intro issued
  obtain ⟨older, occurs⟩ := Runs.exists_suffix issued
  have length := tracked.fresh _ _ _ _ _ _ _ _ occurs
  cases Runs.suffix_unique occurs returned (by simp [length])

end RequestsTracked

theorem mem_issuedHandles {handle : Nat} {history : History cfg} :
    handle ∈ issuedHandles history ↔ ∃ requestId target serviceId methodId payload,
      .issued handle requestId target serviceId methodId payload true ∈ history := by
  constructor
  · intro member
    obtain ⟨event, occurs, selected⟩ := List.mem_filterMap.mp member
    cases event with
    | issued other requestId target serviceId methodId payload hasCallback =>
        cases hasCallback with
        | false => cases selected
        | true =>
            cases selected
            exact ⟨_, _, _, _, _, occurs⟩
    | _ => cases selected
  · rintro ⟨requestId, target, serviceId, methodId, payload, occurs⟩
    exact List.mem_filterMap.mpr ⟨_, occurs, rfl⟩

/-- A call of `request` with a callback has one outcome, whatever happens later, exactly
if the transport has not refused its frame. -/
theorem oneOutcome_iff_not_refused {w : World cfg} (reachable : World.Reachable env w)
    {target : Option (Address n)} {serviceId methodId : UInt16} {payload : Payload}
    {timeoutMs nowMs : UInt32} {handle : Nat} {result : Option UInt32}
    (returned : .returned (.request target serviceId methodId payload true timeoutMs nowMs)
      (.request handle result) ∈ w.history) :
    OneOutcome handle w result ↔
      ∀ dest frame, .sent (.request handle) dest frame false ∉ w.history := by
  have tracked := reachable.requestsTracked
  obtain ⟨past, occurs⟩ := Runs.exists_suffix returned
  have earlier : past <:+ w.history := (List.suffix_cons _ _).trans occurs
  rcases tracked.returned _ _ _ _ _ _ _ _ _ _ occurs with
    ⟨rfl, rfl⟩ | ⟨requestId, provider, _, _, _, frame, ok, issued, sent, rfl⟩
  · -- the call failed before a slot was allocated
    have absent : past.length ∉ issuedHandles w.history := by
      intro member
      obtain ⟨_, _, _, _, _, issued⟩ := mem_issuedHandles.mp member
      exact tracked.not_issued occurs _ _ _ _ _ _ issued
    constructor
    · intro _ dest frame refused
      obtain ⟨older, sentOccurs⟩ := Runs.exists_suffix refused
      obtain ⟨_, _, _, _, _, _, _, rfl⟩ := tracked.sent _ _ _ _ _ sentOccurs
      apply tracked.not_issued occurs
      exact sentOccurs.subset (.tail _ (.head _))
    · intro _
      rw [OneOutcome, tracked.outcomes_eq, if_neg absent]
  · have member : handle ∈ issuedHandles w.history :=
      mem_issuedHandles.mpr ⟨_, _, _, _, _, earlier.subset issued⟩
    cases ok with
    | true =>
        constructor
        · intro _ dest other refused
          cases tracked.sent_unique (earlier.subset sent) refused
        · intro _
          simp only [if_true, OneOutcome, tracked.outcomes_eq, if_pos member]
    | false =>
        constructor
        · intro holds
          simp [OneOutcome, tracked.outcomes_eq, member] at holds
        · intro kept
          exact absurd (earlier.subset sent) (kept provider frame)

/-! A request over a transport that takes its frame, and one over a transport that refuses
every frame. -/

def takenRequest : ApiCall embeddedConfig :=
  .request (some (Address.filled 8 2)) 0x1000 1 (.bytes [7]) true 100 0

/-- The frame leaves, nobody answers, and the callback comes with the timeout. -/
theorem oneOutcome_taken :
    let w := World.run (.benign _) [.api takenRequest, .housekeeping 200] (World.initial _ 1)
    OneOutcome 0 w (some 1) ∧ calledHandles w.history = [0] := by
  intro w
  have returned : w.history[2]? = some (.returned takenRequest (.request 0 (some 1))) := rfl
  have taken : w.history.all (fun | .sent _ _ _ ok => ok | _ => true) = true := by
    decide +kernel
  refine ⟨(oneOutcome_iff_not_refused ⟨1, _, rfl⟩ (List.mem_of_getElem? returned)).mpr ?_, ?_⟩
  · intro dest frame refused
    cases List.all_eq_true.mp taken _ refused
  · decide +kernel

def refusing : Env embeddedConfig :=
  { Env.benign embeddedConfig with sendOk := fun _ _ _ => false }

def refusedRequest : ApiCall embeddedConfig :=
  .request (some (Address.filled 8 2)) 0x1000 1 (.bytes []) true 100 0

/-- The call returns no id, yet its callback has been invoked. -/
theorem refused_request_calls_back :
    let w := World.run refusing [.api refusedRequest] (World.initial _ 1)
    World.Reachable refusing w ∧
      w.history.head? = some (.returned refusedRequest (.request 0 none)) ∧
      calledHandles w.history = [0] ∧ ¬OneOutcome 0 w none := by
  intro w
  have called : calledHandles w.history = [0] := by decide +kernel
  have outcome : outcomes 0 w = 1 := by decide +kernel
  exact ⟨⟨1, _, rfl⟩, rfl, called, by simp [OneOutcome, outcome]⟩

end Sero
