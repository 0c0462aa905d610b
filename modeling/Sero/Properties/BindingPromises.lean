import Sero.Properties.BindingMemory

/-!
# Promises of the Node binding

Every call of `request` makes a promise, settled in the callback, when the call fails, or when the
binding is destroyed.  It is settled once, and its context deleted once, unless the transport
refuses the request's frame: then both the callback and the failed call do it.
-/

namespace Sero

open Library

variable {n : Nat} {cfg : Config n} {env : Env cfg}

/-- A request is reported after it has been issued. -/
theorem World.Reachable.callback_issued {w : World cfg} (reachable : World.Reachable env w)
    {handle : Nat} {cause : Cause} {rc : ReturnCode} {payload : Bytes} {past : History cfg}
    (occurs : (.callback (.request handle cause rc payload) :: past) <:+ w.history) :
    handle ∈ issuedHandles past := by
  let Reported (w : World cfg) : Prop := ∀ handle cause rc payload past,
    (.callback (.request handle cause rc payload) :: past) <:+ w.history →
    handle ∈ issuedHandles past
  have known : RequestsTracked w ∧ Reported w := by
    apply reachable.invariant
    · intro clientId
      refine ⟨.initial clientId, ?_⟩
      intro handle cause rc payload past occurs
      simp [World.initial] at occurs
    · rintro kind before after ⟨tracked, reported⟩ step
      refine ⟨tracked.step step, ?_⟩
      intro handle cause rc payload past occurs
      by_cases finishes : kind = .finish
      · subst finishes
        cases step with
        | @finish slot finishCause _ _ _ active reason =>
            rw [RequestTracker.finish, World.trackerLens_get] at occurs
            cases owed : (before.rt.requestTracker.entries slot).callback with
            | none =>
                rw [owed] at occurs
                exact reported _ _ _ _ _ occurs
            | some owner =>
                rw [owed] at occurs
                rcases List.suffix_cons_iff.mp occurs with now | earlier
                · injection now with same behind
                  injection same with sameCallback
                  injection sameCallback with sameHandle
                  subst behind
                  have pending := (RequestTracker.pending_release before.rt.requestTracker
                    active).mem_iff (a := handle)
                  rw [owed] at pending
                  have waits : handle ∈ before.rt.requestTracker.pending :=
                    pending.mpr (by simp [sameHandle])
                  exact tracked.balance.mem_iff.mpr (List.mem_append_right _ waits)
                · exact reported _ _ _ _ _ earlier
      · have earlier := step.observes.earlier occurs (Ne.symm finishes) (by simp [Event.kind])
        exact reported _ _ _ _ _ earlier
  exact known.2 _ _ _ _ _ occurs

namespace Node

/-- The calls that have returned no id, by the handles of their requests. -/
def failedHandles (history : History cfg) : List Nat :=
  history.filterMap fun
    | .returned (.request ..) (.request handle none) => some handle
    | _ => none

/-- How often the promise of a request has been settled. -/
def PendingRequests.timesSettled (handle : Nat) (requests : PendingRequests) : Nat :=
  (requests.settlements.map Prod.fst).count handle

namespace PendingRequests

variable {requests : PendingRequests} {handle other : Nat}

/-- The contexts that exist are those in the set. -/
structure Sound (requests : PendingRequests) : Prop where
  distinct : requests.pending.Nodup
  live : ∀ handle, handle ∈ requests.heap.live ↔ handle ∈ requests.pending

theorem Sound.create (sound : requests.Sound) (fresh : handle ∉ requests.pending) :
    (requests.create handle).Sound where
  distinct := List.nodup_cons.mpr ⟨fresh, sound.distinct⟩
  live other := by simp [PendingRequests.create, sound.live]

theorem Sound.settle (sound : requests.Sound) (handle : Nat) (settlement : Settlement) :
    (requests.settle handle settlement).Sound where
  distinct := sound.distinct.erase handle
  live other := by
    simp [PendingRequests.settle, sound.live, sound.distinct.mem_erase_iff]

theorem mem_misused_settle (settlement : Settlement) :
    other ∈ (requests.settle handle settlement).heap.misused ↔
      other ∈ requests.heap.misused ∨ other = handle ∧ handle ∉ requests.heap.live := by
  rw [PendingRequests.settle]
  simp only [Heap.misused_delete, Heap.mem_misused_use, Heap.live_use]
  tauto

theorem timesSettled_settle (settlement : Settlement) :
    (requests.settle handle settlement).timesSettled other =
      requests.timesSettled other + if handle = other then 1 else 0 := by
  simp [timesSettled, PendingRequests.settle, List.count_cons]

/-- When the binding is destroyed every pending promise is settled, and nothing is left. -/
theorem Sound.destroy (sound : requests.Sound) :
    requests.destroy.heap.live = ∅ ∧ requests.destroy.heap.misused = requests.heap.misused ∧
      ∀ handle, requests.destroy.timesSettled handle =
        requests.timesSettled handle + requests.pending.count handle := by
  have each : ∀ (handles : List Nat) (requests : PendingRequests), handles.Nodup →
      (∀ handle, handle ∈ requests.heap.live ↔ handle ∈ handles) →
      let closed := handles.foldl (fun requests handle =>
        requests.settle handle (.rejected "Runtime destroyed")) requests
      closed.heap.live = ∅ ∧ closed.heap.misused = requests.heap.misused ∧
        ∀ handle, closed.timesSettled handle =
          requests.timesSettled handle + handles.count handle := by
    intro handles
    induction handles with
    | nil =>
        intro requests _ live
        exact ⟨Finset.eq_empty_of_forall_notMem fun handle => by simp [live handle], rfl,
          fun handle => rfl⟩
    | cons first rest ih =>
        intro requests distinct live
        obtain ⟨notRest, restDistinct⟩ := List.nodup_cons.mp distinct
        have present : first ∈ requests.heap.live := (live first).mpr (.head _)
        let settled := requests.settle first (.rejected "Runtime destroyed")
        have remaining : ∀ handle, handle ∈ settled.heap.live ↔ handle ∈ rest := by
          intro handle
          by_cases same : handle = first
          · simp [settled, PendingRequests.settle, same, notRest]
          · simp [settled, PendingRequests.settle, live, same]
        have unharmed : settled.heap.misused = requests.heap.misused := by
          simp only [settled, PendingRequests.settle, Heap.use_of_live present,
            Heap.misused_delete_of_live present]
        obtain ⟨gone, misused, times⟩ := ih settled restDistinct remaining
        refine ⟨gone, misused.trans unharmed, fun handle => (times handle).trans ?_⟩
        simp only [settled, timesSettled_settle, List.count_cons, beq_iff_eq]
        omega
  exact each requests.pending requests sound.distinct sound.live

end PendingRequests

/-! ## Requests -/

section Bookkeeping

variable {w : World cfg} {history past : History cfg} {handle : Nat}

theorem mem_failedHandles : handle ∈ failedHandles history ↔
    ∃ target serviceId methodId payload hasCallback timeoutMs nowMs,
      .returned (.request target serviceId methodId payload hasCallback timeoutMs nowMs)
        (.request handle none) ∈ history := by
  constructor
  · intro member
    obtain ⟨event, occurs, selected⟩ := List.mem_filterMap.mp member
    cases event with
    | returned call result =>
        cases call with
        | request =>
            cases result with
            | request other requestId =>
                cases requestId with
                | none =>
                    cases selected
                    exact ⟨_, _, _, _, _, _, _, occurs⟩
                | some requestId => cases selected
            | _ => cases selected
        | _ => cases selected
    | _ => cases selected
  · rintro ⟨_, _, _, _, _, _, _, occurs⟩
    exact List.mem_filterMap.mpr ⟨_, occurs, rfl⟩

theorem any_issues (made : MadeByBinding history) :
    history.any (Binding.issues handle) = true ↔ handle ∈ issuedHandles history := by
  rw [List.any_eq_true, mem_issuedHandles]
  constructor
  · rintro ⟨event, occurs, selected⟩
    cases event with
    | issued other requestId target serviceId methodId payload hasCallback =>
        obtain rfl : other = handle := by simpa [Binding.issues] using selected
        obtain rfl : hasCallback = true := made.callbacks _ occurs
        exact ⟨_, _, _, _, _, occurs⟩
    | _ => cases selected
  · rintro ⟨_, _, _, _, _, occurs⟩
    exact ⟨_, occurs, by simp [Binding.issues]⟩

/-- A request is issued before as many events as its handle counts. -/
theorem issued_before (tracked : RequestsTracked w) (earlier : past <:+ w.history)
    (issued : handle ∈ issuedHandles past) : handle < past.length := by
  obtain ⟨_, _, _, _, _, occurs⟩ := mem_issuedHandles.mp issued
  obtain ⟨older, suffix⟩ := Runs.exists_suffix occurs
  rw [tracked.fresh _ _ _ _ _ _ _ _ (suffix.trans earlier)]
  exact suffix.length_le

/-- A call that fails either has issued its request or returns at once. -/
theorem failed_before (tracked : RequestsTracked w) (made : MadeByBinding w.history)
    (earlier : past <:+ w.history) (failed : handle ∈ failedHandles past) :
    handle < past.length := by
  obtain ⟨_, _, _, _, hasCallback, _, _, occurs⟩ := mem_failedHandles.mp failed
  obtain ⟨older, suffix⟩ := Runs.exists_suffix occurs
  obtain rfl : hasCallback = true := made.callbacks _ (earlier.subset occurs)
  rcases tracked.returned _ _ _ _ _ _ _ _ _ _ (suffix.trans earlier) with ⟨-, rfl⟩ | slotted
  · exact suffix.length_le
  · obtain ⟨_, _, _, _, _, _, _, issued, -, -⟩ := slotted
    have before : handle < older.length :=
      issued_before tracked (((List.suffix_cons _ _).trans suffix).trans earlier)
        (mem_issuedHandles.mpr ⟨_, _, _, _, _, issued⟩)
    have longer := suffix.length_le
    rw [List.length_cons] at longer
    omega

theorem called_issued (reachable : World.Reachable env w) (earlier : past <:+ w.history)
    (called : handle ∈ calledHandles past) : handle ∈ issuedHandles past := by
  obtain ⟨event, occurs, selected⟩ := List.mem_filterMap.mp called
  cases event with
  | callback callback =>
      cases callback with
      | request other cause rc payload =>
          cases selected
          obtain ⟨older, suffix⟩ := Runs.exists_suffix occurs
          have issued := reachable.callback_issued (suffix.trans earlier)
          have inside := (List.suffix_cons _ older).trans suffix
          exact (inside.sublist.filterMap _).subset issued
      | _ => cases selected
  | _ => cases selected

theorem nodup_calledHandles (tracked : RequestsTracked w) : (calledHandles w.history).Nodup :=
  (tracked.balance.nodup tracked.nodup_issuedHandles).of_append_left

/-- A request that is never issued fails in one call. -/
theorem failed_once (tracked : RequestsTracked w) (made : MadeByBinding w.history)
    (notIssued : handle ∉ issuedHandles w.history) (earlier : past <:+ w.history) :
    (failedHandles past).count handle ≤ 1 := by
  induction past with
  | nil => exact Nat.zero_le _
  | cons event past ih =>
      have before := (List.suffix_cons event past).trans earlier
      have rest := ih before
      cases event with
      | returned call result =>
          cases call with
          | request target serviceId methodId payload hasCallback timeoutMs nowMs =>
              obtain rfl : hasCallback = true := made.callbacks _ (earlier.subset (.head _))
              cases result with
              | request other requestId =>
                  cases requestId with
                  | none =>
                      change (other :: failedHandles past).count handle ≤ 1
                      by_cases same : other = handle
                      · subst same
                        have young := (tracked.returned _ _ _ _ _ _ _ _ _ _ earlier).resolve_right
                          (by
                            rintro ⟨_, _, _, _, _, _, _, issued, -, -⟩
                            exact notIssued (mem_issuedHandles.mpr
                              ⟨_, _, _, _, _, before.subset issued⟩))
                        have new : other ∉ failedHandles past := fun failed =>
                          absurd (failed_before tracked made before failed) (by omega)
                        rw [List.count_cons_self, List.count_eq_zero.mpr new]
                      · rw [List.count_cons_of_ne same]
                        exact rest
                  | some requestId => exact rest
              | _ => exact rest
          | _ => exact rest
      | _ => exact rest

section Outcome

variable {target : Option (Address n)} {serviceId methodId : UInt16} {payload : Payload}
  {hasCallback : Bool} {timeoutMs nowMs : UInt32} {result : Option UInt32}

/-- The call of a request that has been issued fails exactly if its frame is refused. -/
theorem failed_iff_refused (tracked : RequestsTracked w)
    (issued : handle ∈ issuedHandles w.history)
    (returned : .returned (.request target serviceId methodId payload hasCallback timeoutMs nowMs)
      (.request handle result) ∈ w.history) :
    handle ∈ failedHandles w.history ↔
      ∃ dest frame, .sent (.request handle) dest frame false ∈ w.history := by
  have outcome : ∀ target serviceId methodId payload hasCallback timeoutMs nowMs result,
      .returned (.request target serviceId methodId payload hasCallback timeoutMs nowMs)
        (.request handle result) ∈ w.history →
      ∃ dest frame ok requestId, .sent (.request handle) dest frame ok ∈ w.history ∧
        result = if ok then some requestId else none := by
    intro target serviceId methodId payload hasCallback timeoutMs nowMs result occurs
    obtain ⟨past, suffix⟩ := Runs.exists_suffix occurs
    rcases tracked.returned _ _ _ _ _ _ _ _ _ _ suffix with ⟨-, rfl⟩ | slotted
    · obtain ⟨_, _, _, _, _, before⟩ := mem_issuedHandles.mp issued
      exact absurd before (tracked.not_issued suffix _ _ _ _ _ _)
    · obtain ⟨requestId, dest, _, _, _, frame, ok, -, sent, same⟩ := slotted
      have inside := (List.suffix_cons _ past).trans suffix
      exact ⟨dest, frame, ok, requestId, inside.subset sent, same⟩
  constructor
  · intro failed
    obtain ⟨_, _, _, _, _, _, _, occurs⟩ := mem_failedHandles.mp failed
    obtain ⟨dest, frame, ok, requestId, sent, same⟩ := outcome _ _ _ _ _ _ _ _ occurs
    cases ok with
    | true => cases same
    | false => exact ⟨dest, frame, sent⟩
  · rintro ⟨dest, frame, refused⟩
    obtain ⟨_, _, ok, requestId, sent, same⟩ := outcome _ _ _ _ _ _ _ _ returned
    obtain rfl := tracked.sent_unique refused sent
    subst same
    exact mem_failedHandles.mpr ⟨_, _, _, _, _, _, _, returned⟩

/-- The call of a request that is never issued fails, and nothing is sent. -/
theorem failed_of_not_issued (tracked : RequestsTracked w) (made : MadeByBinding w.history)
    (notIssued : handle ∉ issuedHandles w.history)
    (returned : .returned (.request target serviceId methodId payload hasCallback timeoutMs nowMs)
      (.request handle result) ∈ w.history) :
    handle ∈ failedHandles w.history ∧
      ¬∃ dest frame, .sent (.request handle) dest frame false ∈ w.history := by
  have unissued : ∀ requestId target serviceId methodId payload hasCallback,
      .issued handle requestId target serviceId methodId payload hasCallback ∉ w.history := by
    intro requestId target serviceId methodId payload hasCallback occurs
    obtain rfl : hasCallback = true := made.callbacks _ occurs
    exact notIssued (mem_issuedHandles.mpr ⟨_, _, _, _, _, occurs⟩)
  constructor
  · obtain ⟨past, suffix⟩ := Runs.exists_suffix returned
    rcases tracked.returned _ _ _ _ _ _ _ _ _ _ suffix with ⟨rfl, -⟩ | slotted
    · exact mem_failedHandles.mpr ⟨_, _, _, _, _, _, _, returned⟩
    · obtain ⟨_, _, _, _, _, _, _, issued, -, -⟩ := slotted
      have inside := (List.suffix_cons _ past).trans suffix
      exact absurd (inside.subset issued) (unissued _ _ _ _ _ _)
  · rintro ⟨dest, frame, refused⟩
    obtain ⟨past, suffix⟩ := Runs.exists_suffix refused
    obtain ⟨_, _, _, _, _, _, older, rfl⟩ := tracked.sent _ _ _ _ _ suffix
    exact unissued _ _ _ _ _ _ (suffix.subset (.tail _ (.head _)))

end Outcome

end Bookkeeping

/-- The contexts that exist are those of the requests that are issued and not reported, and the
misused ones those of the requests whose calls failed all the same. -/
structure RequestsOwned (past : History cfg) : Prop where
  sound : (Binding.after past).requests.Sound
  pending : ∀ handle, handle ∈ (Binding.after past).requests.pending ↔
    handle ∈ issuedHandles past ∧ handle ∉ calledHandles past
  settled : ∀ handle, (Binding.after past).requests.timesSettled handle =
    (calledHandles past).count handle + (failedHandles past).count handle
  misused : ∀ handle, handle ∈ (Binding.after past).requests.heap.misused ↔
    handle ∈ failedHandles past ∧ handle ∈ issuedHandles past

namespace RequestsOwned

variable {past : History cfg}

theorem nil : RequestsOwned ([] : History cfg) where
  sound := ⟨List.nodup_nil, fun handle => by simp [Binding.after]⟩
  pending handle := by simp [Binding.after, issuedHandles]
  settled handle := rfl
  misused handle := by simp [Binding.after, issuedHandles]

/-- Events that have nothing to do with requests. -/
theorem skip (owned : RequestsOwned past) {event : Event cfg}
    (requests : (Binding.after (event :: past)).requests = (Binding.after past).requests)
    (issued : issuedHandles (event :: past) = issuedHandles past)
    (called : calledHandles (event :: past) = calledHandles past)
    (failed : failedHandles (event :: past) = failedHandles past) :
    RequestsOwned (event :: past) where
  sound := requests ▸ owned.sound
  pending handle := by rw [requests, issued, called, owned.pending]
  settled handle := by rw [requests, called, failed, owned.settled]
  misused handle := by rw [requests, failed, issued, owned.misused]

/-- A new context is created for a request that gets a slot. -/
theorem issue (owned : RequestsOwned past) {handle : Nat} {requestId : UInt32}
    {target : Address n} {serviceId methodId : UInt16} {payload : Payload}
    (notIssued : handle ∉ issuedHandles past) (notCalled : handle ∉ calledHandles past)
    (notFailed : handle ∉ failedHandles past) :
    RequestsOwned (.issued handle requestId target serviceId methodId payload true :: past) := by
  have fresh : handle ∉ (Binding.after past).requests.pending :=
    fun waits => notIssued ((owned.pending handle).mp waits).1
  refine ⟨owned.sound.create fresh, fun other => ?_, owned.settled, fun other => ?_⟩
  · change other ∈ handle :: (Binding.after past).requests.pending ↔
      other ∈ handle :: issuedHandles past ∧ other ∉ calledHandles past
    rw [List.mem_cons, List.mem_cons, owned.pending]
    by_cases same : other = handle
    · simp [same, notCalled]
    · simp [same]
  · change other ∈ (Binding.after past).requests.heap.misused ↔
      other ∈ failedHandles past ∧ other ∈ handle :: issuedHandles past
    rw [owned.misused, List.mem_cons]
    by_cases same : other = handle
    · simp [same, notFailed]
    · simp [same]

/-- A context that exists is deleted in the callback. -/
theorem complete (owned : RequestsOwned past) {handle : Nat} {cause : Cause} {rc : ReturnCode}
    {payload : Bytes} (issued : handle ∈ issuedHandles past)
    (notCalled : handle ∉ calledHandles past) :
    RequestsOwned (.callback (.request handle cause rc payload) :: past) := by
  have waits := (owned.pending handle).mpr ⟨issued, notCalled⟩
  have present := (owned.sound.live handle).mpr waits
  refine ⟨owned.sound.settle handle _, fun other => ?_, fun other => ?_, fun other => ?_⟩
  · change other ∈ (Binding.after past).requests.pending.erase handle ↔
      other ∈ issuedHandles past ∧ other ∉ handle :: calledHandles past
    rw [owned.sound.distinct.mem_erase_iff, owned.pending, List.mem_cons]
    tauto
  · change ((Binding.after past).requests.settle handle (.resolved rc payload)).timesSettled
      other = (handle :: calledHandles past).count other + (failedHandles past).count other
    rw [PendingRequests.timesSettled_settle, owned.settled, List.count_cons]
    simp only [beq_iff_eq]
    omega
  · change other ∈ ((Binding.after past).requests.settle handle
      (.resolved rc payload)).heap.misused ↔
        other ∈ failedHandles past ∧ other ∈ issuedHandles past
    rw [PendingRequests.mem_misused_settle, owned.misused]
    simp [present]

/-- A context is read once more when its call returns. -/
theorem promise (owned : RequestsOwned past) {target : Option (Address n)}
    {serviceId methodId : UInt16} {payload : Payload} {hasCallback : Bool}
    {timeoutMs nowMs : UInt32} {handle : Nat} {requestId : UInt32}
    (issued : handle ∈ issuedHandles past) (notCalled : handle ∉ calledHandles past) :
    RequestsOwned (.returned (.request target serviceId methodId payload hasCallback timeoutMs
      nowMs) (.request handle (some requestId)) :: past) := by
  have present := (owned.sound.live handle).mpr ((owned.pending handle).mpr ⟨issued, notCalled⟩)
  refine owned.skip ?_ rfl rfl rfl
  change (Binding.after past).requests.promise handle = (Binding.after past).requests
  rw [PendingRequests.promise, Heap.use_of_live present]

/-- A failed call deletes the context, whether it still exists or not. -/
theorem fail (owned : RequestsOwned past) (made : MadeByBinding past)
    {target : Option (Address n)} {serviceId methodId : UInt16} {payload : Payload}
    {hasCallback : Bool} {timeoutMs nowMs : UInt32} {handle : Nat}
    (reported : handle ∈ issuedHandles past → handle ∈ calledHandles past) :
    RequestsOwned (.returned (.request target serviceId methodId payload hasCallback timeoutMs
      nowMs) (.request handle none) :: past) := by
  let call : ApiCall cfg :=
    .request target serviceId methodId payload hasCallback timeoutMs nowMs
  let begun := if past.any (Binding.issues handle) then Binding.after past
    else (Binding.after past).beginRequest handle
  have notPending : handle ∉ (Binding.after past).requests.pending := by
    intro waits
    obtain ⟨issued, notCalled⟩ := (owned.pending handle).mp waits
    exact notCalled (reported issued)
  have settled : (Binding.after (.returned call (.request handle none) :: past)).requests =
      begun.requests.settle handle (requestFailed target) := rfl
  have state : begun.requests.Sound ∧
      (∀ other, other ∈ begun.requests.pending.erase handle ↔
        other ∈ (Binding.after past).requests.pending) ∧
      begun.requests.settlements = (Binding.after past).requests.settlements ∧
      begun.requests.heap.misused = (Binding.after past).requests.heap.misused ∧
      (handle ∉ begun.requests.heap.live ↔ handle ∈ issuedHandles past) := by
    by_cases issued : handle ∈ issuedHandles past
    · have same : begun = Binding.after past := if_pos ((any_issues made).mpr issued)
      have gone : handle ∉ (Binding.after past).requests.heap.live :=
        fun live => notPending ((owned.sound.live handle).mp live)
      rw [same, List.erase_of_not_mem notPending]
      exact ⟨owned.sound, fun _ => Iff.rfl, rfl, rfl, iff_of_true gone issued⟩
    · have created : begun = (Binding.after past).beginRequest handle :=
        if_neg fun any => issued ((any_issues made).mp any)
      rw [created]
      refine ⟨owned.sound.create notPending, fun other => ?_, rfl, rfl, ?_⟩
      · change other ∈ (handle :: (Binding.after past).requests.pending).erase handle ↔ _
        rw [List.erase_cons_head]
      · refine iff_of_false (fun gone => gone ?_) issued
        exact Finset.mem_insert_self _ _
  obtain ⟨sound, pending, settlements, misused, present⟩ := state
  refine ⟨settled ▸ sound.settle handle _, fun other => ?_, fun other => ?_, fun other => ?_⟩
  · rw [settled]
    exact (pending other).trans (owned.pending other)
  · change _ = (calledHandles past).count other + (handle :: failedHandles past).count other
    have times : begun.requests.timesSettled other =
        (Binding.after past).requests.timesSettled other := by
      rw [PendingRequests.timesSettled, settlements, PendingRequests.timesSettled]
    rw [settled, PendingRequests.timesSettled_settle, times, owned.settled, List.count_cons]
    simp only [beq_iff_eq]
    omega
  · change _ ↔ other ∈ handle :: failedHandles past ∧ other ∈ issuedHandles past
    rw [settled, PendingRequests.mem_misused_settle, misused, owned.misused, present,
      List.mem_cons]
    by_cases same : other = handle
    · subst same
      tauto
    · simp [same]

end RequestsOwned

theorem requestsOwned {w : World cfg} (reachable : World.Reachable env w)
    (bounded : cfg.maxPendingRequests < UInt32.size) (made : MadeByBinding w.history)
    {past : History cfg} (earlier : past <:+ w.history) : RequestsOwned past := by
  have tracked := reachable.requestsTracked
  have returned := reachable.requestsReturned bounded
  induction past with
  | nil => exact .nil
  | cons event past ih =>
      have before := (List.suffix_cons event past).trans earlier
      have owned := ih before
      have mine := made.suffix before
      cases event with
      | issued handle requestId target serviceId methodId payload hasCallback =>
          obtain rfl : hasCallback = true := made.callbacks _ (earlier.subset (.head _))
          have length := tracked.fresh _ _ _ _ _ _ _ _ earlier
          have notIssued : handle ∉ issuedHandles past := fun issued =>
            absurd (issued_before tracked before issued) (by omega)
          refine owned.issue notIssued ?_ ?_
          · exact fun called => notIssued (called_issued reachable before called)
          · exact fun failed => absurd (failed_before tracked made before failed) (by omega)
      | callback callback =>
          cases callback with
          | request handle cause rc payload =>
              have distinct := (nodup_calledHandles tracked).sublist (earlier.sublist.filterMap _)
              exact owned.complete (reachable.callback_issued earlier)
                (List.nodup_cons.mp distinct).1
          | _ => exact owned.skip rfl rfl rfl rfl
      | onRequest entry =>
          refine owned.skip ?_ rfl rfl rfl
          rw [Binding.after]
          cases entry.context <;> rfl
      | returned call result =>
          cases call with
          | request target serviceId methodId payload hasCallback timeoutMs nowMs =>
              obtain rfl : hasCallback = true := made.callbacks _ (earlier.subset (.head _))
              cases result with
              | request handle requestId =>
                  cases requestId with
                  | some requestId =>
                      obtain ⟨dest, frame, older, rfl⟩ :=
                        returned.taken _ _ _ _ _ _ _ _ _ _ earlier
                      have inside : older <:+ w.history :=
                        ((List.suffix_cons _ _).trans (List.suffix_cons _ _)).trans before
                      have length := tracked.fresh _ _ _ _ _ _ _ _
                        ((List.suffix_cons _ _).trans before)
                      refine owned.promise (.head _) fun called => ?_
                      have issued : handle ∈ issuedHandles older :=
                        called_issued reachable inside called
                      exact absurd (issued_before tracked inside issued) (by omega)
                  | none =>
                      refine owned.fail mine fun issued => ?_
                      have young := issued_before tracked before issued
                      exact (returned.failed _ _ _ _ _ _ _ _ earlier).resolve_left (by omega)
              | _ => exact owned.skip rfl rfl rfl rfl
          | _ => exact owned.skip rfl rfl rfl rfl
      | _ => exact owned.skip rfl rfl rfl rfl

/-- A binding destroyed after any run has settled the promise of every call of `request`, and
has settled it once and deleted its context once, exactly if the transport has not refused the
request's frame. -/
theorem promises_settled {w : World cfg} (reachable : World.Reachable env w)
    (bounded : cfg.maxPendingRequests < UInt32.size) (made : MadeByBinding w.history)
    {target : Option (Address n)} {serviceId methodId : UInt16} {payload : Payload}
    {hasCallback : Bool} {timeoutMs nowMs : UInt32} {handle : Nat} {result : Option UInt32}
    (returned : .returned (.request target serviceId methodId payload hasCallback timeoutMs nowMs)
      (.request handle result) ∈ w.history) :
    let closed := (Binding.after w.history).destroy.requests
    let refused := ∃ dest frame, .sent (.request handle) dest frame false ∈ w.history
    closed.heap.live = ∅ ∧ 0 < closed.timesSettled handle ∧
      (closed.timesSettled handle = 1 ↔ ¬refused) ∧ (handle ∈ closed.heap.misused ↔ refused) := by
  intro closed refused
  have owned := requestsOwned reachable bounded made (List.suffix_refl _)
  have tracked := reachable.requestsTracked
  obtain ⟨gone, unharmed, times⟩ := owned.sound.destroy
  have misused : handle ∈ closed.heap.misused ↔
      handle ∈ failedHandles w.history ∧ handle ∈ issuedHandles w.history :=
    (congrArg (handle ∈ ·) unharmed).to_iff.trans (owned.misused handle)
  have settled : closed.timesSettled handle = (calledHandles w.history).count handle +
      (failedHandles w.history).count handle +
        (Binding.after w.history).requests.pending.count handle := by
    rw [← owned.settled]
    exact times handle
  have once : (calledHandles w.history).count handle +
      (Binding.after w.history).requests.pending.count handle =
        if handle ∈ issuedHandles w.history then 1 else 0 := by
    have sound : (Binding.after w.history).requests.pending.Nodup := owned.sound.distinct
    rw [(nodup_calledHandles tracked).count, sound.count]
    simp only [owned.pending]
    by_cases called : handle ∈ calledHandles w.history
    · simp [called, called_issued reachable (List.suffix_refl _) called]
    · simp [called]
  by_cases issued : handle ∈ issuedHandles w.history
  · have failed := failed_iff_refused tracked issued returned
    rw [if_pos issued] at once
    have settledOnce : closed.timesSettled handle = 1 ↔ handle ∉ failedHandles w.history := by
      rw [← List.count_eq_zero]
      omega
    exact ⟨gone, by omega, settledOnce.trans (not_congr failed),
      misused.trans ((and_iff_left issued).trans failed)⟩
  · obtain ⟨failed, taken⟩ := failed_of_not_issued tracked made issued returned
    have atMost := failed_once tracked made issued (List.suffix_refl _)
    have atLeast := List.count_pos_iff.mpr failed
    rw [if_neg issued] at once
    refine ⟨gone, by omega, iff_of_true (by omega) taken, ?_⟩
    exact iff_of_false (fun bad => issued (misused.mp bad).2) taken

/-- A request whose context is deleted in the callback, and again when the call returns. -/
theorem promises_settled_refused :
    let w := World.run refusing [.api refusedRequest] (World.initial _ 1)
    ∃ dest frame, .sent (.request 0) dest frame false ∈ w.history := by
  intro w
  have made : MadeByBinding w.history := ⟨by decide +kernel, by decide +kernel, by decide +kernel⟩
  have returned : .returned refusedRequest (.request 0 none) ∈ w.history :=
    List.mem_of_mem_head? rfl
  have settled := promises_settled ⟨1, _, rfl⟩ (by decide) made returned
  exact settled.2.2.2.mp (by decide +kernel)

end Node

end Sero
