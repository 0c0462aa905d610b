import Sero.Runtime.Decomposition

/-!
# Deadlines of requests

Every entry of the table that has a callback keeps the deadline of the call it was made by,
until the callback is invoked.  So a pass reports a request as timed out only if it sees the
deadline of its own call as past, and all requests whose deadline it does.
-/

namespace Sero

open Library

variable {n : Nat} {cfg : Config n} {env : Env cfg}

/-- The timeout of a request, 0 meaning `RequestTimeoutMs`. -/
def effectiveTimeout (cfg : Config n) (timeoutMs : UInt32) : UInt32 :=
  if timeoutMs > 0 then timeoutMs else cfg.requestTimeoutMs

/-- Does a cycle see a deadline as past? -/
def expiredAt (nowMs deadlineMs : UInt32) : Prop :=
  timeAfter nowMs deadlineMs = true

/-- What an allocation writes. -/
theorem RequestTracker.allocate_entry {tracker after : RequestTracker cfg Nat}
    {serviceId methodId : UInt16} {timeoutMs nowMs : UInt32} {callback : Option Nat}
    {requestId : UInt32}
    (allocated : tracker.allocate serviceId methodId timeoutMs nowMs callback =
      some (requestId, after)) :
    ∃ slot entry, (tracker.entries slot).active = false ∧
      after.entries = Function.update tracker.entries slot entry ∧ entry.active = true ∧
      entry.requestId = requestId ∧ entry.callback = callback ∧
      entry.deadlineMs = nowMs + effectiveTimeout cfg timeoutMs := by
  rw [allocate] at allocated
  cases found : tracker.firstFree with
  | none =>
      rw [found] at allocated
      cases allocated
  | some slot =>
      rw [found] at allocated
      cases allocated
      exact ⟨slot, _, firstFree_inactive found, rfl, rfl, rfl, rfl, rfl⟩

/-! ## What entries remember -/

/-- A call has returned an id for the request with this handle. -/
def Submitted (history : History cfg) (handle : Nat) (timeoutMs nowMs : UInt32) : Prop :=
  ∃ target serviceId methodId payload requestId,
    .returned (.request target serviceId methodId payload true timeoutMs nowMs)
      (.request handle (some requestId)) ∈ history

/-- The callback of a request has been invoked. -/
def Called (history : History cfg) (handle : Nat) : Prop :=
  ∃ cause rc payload, .callback (.request handle cause rc payload) ∈ history

/-- An entry of the table is waiting for the reply to a request. -/
def WaitsIn (tracker : RequestTracker cfg Nat) (slot : Fin cfg.maxPendingRequests)
    (handle : Nat) : Prop :=
  (tracker.entries slot).active = true ∧ (tracker.entries slot).callback = some handle

structure RequestsTimed (w : World cfg) : Prop where
  unique : w.rt.requestTracker.UniqueIds
  fresh : ∀ handle timeoutMs nowMs, Submitted w.history handle timeoutMs nowMs →
    handle < w.history.length
  once : ∀ handle timeoutMs nowMs otherMs laterMs, Submitted w.history handle timeoutMs nowMs →
    Submitted w.history handle otherMs laterMs → timeoutMs = otherMs ∧ nowMs = laterMs
  awaits : ∀ slot handle, WaitsIn w.rt.requestTracker slot handle →
    ∃ timeoutMs nowMs, Submitted w.history handle timeoutMs nowMs ∧
      (w.rt.requestTracker.entries slot).deadlineMs = nowMs + effectiveTimeout cfg timeoutMs
  /-- Until its callback is invoked a request has an entry. -/
  owed : ∀ handle timeoutMs nowMs, Submitted w.history handle timeoutMs nowMs →
    (∃ slot, WaitsIn w.rt.requestTracker slot handle) ∨ Called w.history handle
  /-- A request that could not be sent has no id. -/
  refused : ∀ handle rc payload, .callback (.request handle .sendFailed rc payload) ∈ w.history →
    handle < w.history.length ∧ ∀ timeoutMs nowMs, ¬Submitted w.history handle timeoutMs nowMs
  /-- Only requests that have one time out. -/
  reported : ∀ handle rc payload, .callback (.request handle .timeout rc payload) ∈ w.history →
    ∃ timeoutMs nowMs, Submitted w.history handle timeoutMs nowMs

theorem requestsTimed_initial (clientId : UInt16) :
    RequestsTimed (World.initial cfg clientId) where
  unique := RequestTracker.uniqueIds_empty
  fresh := by rintro handle timeoutMs nowMs ⟨_, _, _, _, _, ⟨⟩⟩
  once := by rintro handle timeoutMs nowMs otherMs laterMs ⟨_, _, _, _, _, ⟨⟩⟩
  awaits := by rintro slot handle ⟨⟨⟩, -⟩
  owed := by rintro handle timeoutMs nowMs ⟨_, _, _, _, _, ⟨⟩⟩
  refused := by rintro handle rc payload ⟨⟩
  reported := by rintro handle rc payload ⟨⟩

theorem Submitted.mono {older newer : History cfg} {handle : Nat} {timeoutMs nowMs : UInt32}
    (submitted : Submitted older handle timeoutMs nowMs) (grown : older ⊆ newer) :
    Submitted newer handle timeoutMs nowMs := by
  obtain ⟨target, serviceId, methodId, payload, requestId, returned⟩ := submitted
  exact ⟨target, serviceId, methodId, payload, requestId, grown returned⟩

theorem submitted_append {newer older : History cfg} {handle : Nat} {timeoutMs nowMs : UInt32} :
    Submitted (newer ++ older) handle timeoutMs nowMs ↔
      Submitted newer handle timeoutMs nowMs ∨ Submitted older handle timeoutMs nowMs := by
  simp only [Submitted, List.mem_append, exists_or]

theorem Called.mono {older newer : History cfg} {handle : Nat} (called : Called older handle)
    (grown : older ⊆ newer) : Called newer handle := by
  obtain ⟨cause, rc, payload, entered⟩ := called
  exact ⟨cause, rc, payload, grown entered⟩

/-! ## What an operation does to requests -/

/-- A request that has an id is reported, and its deadline is one of those that expire. -/
def Due (expires : UInt32 → Prop) (history : History cfg) (handle : Nat) (rc : ReturnCode)
    (payload : Bytes) : Prop :=
  rc = .eTimeout ∧ payload = [] ∧ ∃ timeoutMs nowMs,
    Submitted history handle timeoutMs nowMs ∧ expires (nowMs + effectiveTimeout cfg timeoutMs)

theorem Due.mono {expires later : UInt32 → Prop} {older newer : History cfg} {handle : Nat}
    {rc : ReturnCode} {payload : Bytes} (due : Due expires older handle rc payload)
    (weaker : ∀ deadlineMs, expires deadlineMs → later deadlineMs) (grown : older ⊆ newer) :
    Due later newer handle rc payload := by
  obtain ⟨isTimeout, empty, timeoutMs, nowMs, submitted, expired⟩ := due
  exact ⟨isTimeout, empty, timeoutMs, nowMs, submitted.mono grown, weaker _ expired⟩

/-- Entries keep remembering, ids are returned under new handles, and only requests whose
deadline expires are reported. -/
structure Passes (expires : UInt32 → Prop) (before after : World cfg) : Prop where
  timed : RequestsTimed after
  events : ∃ events, after.history = events ++ before.history ∧
    (∀ handle timeoutMs nowMs, Submitted events handle timeoutMs nowMs →
      before.history.length ≤ handle) ∧
    ∀ handle rc payload, .callback (.request handle .timeout rc payload) ∈ events →
      Due expires after.history handle rc payload

/-- An operation that does so wherever entries remember. -/
def Timely (expires : UInt32 → Prop) (before after : World cfg) : Prop :=
  RequestsTimed before → Passes expires before after

namespace Passes

variable {expires : UInt32 → Prop} {first second third : World cfg}

theorem grown (passes : Passes expires first second) : first.history <:+ second.history := by
  obtain ⟨events, history, -⟩ := passes.events
  exact ⟨events, history.symm⟩

theorem trans (earlier : Passes expires first second) (later : Passes expires second third) :
    Passes expires first third where
  timed := later.timed
  events := by
    obtain ⟨older, olderEq, olderFresh, olderDue⟩ := earlier.events
    obtain ⟨newer, newerEq, newerFresh, newerDue⟩ := later.events
    refine ⟨newer ++ older, by rw [newerEq, olderEq, List.append_assoc], ?_, ?_⟩
    · intro handle timeoutMs nowMs submitted
      rcases submitted_append.mp submitted with inNewer | inOlder
      · exact earlier.grown.length_le.trans (newerFresh _ _ _ inNewer)
      · exact olderFresh _ _ _ inOlder
    · intro handle rc payload entered
      rcases List.mem_append.mp entered with inNewer | inOlder
      · exact newerDue _ _ _ inNewer
      · exact (olderDue _ _ _ inOlder).mono (fun _ expired => expired) later.grown.subset

theorem mono {later : UInt32 → Prop} (passes : Passes expires first second)
    (weaker : ∀ deadlineMs, expires deadlineMs → later deadlineMs) :
    Passes later first second where
  timed := passes.timed
  events := by
    obtain ⟨events, history, fresh, due⟩ := passes.events
    exact ⟨events, history, fresh,
      fun _ _ _ entered => (due _ _ _ entered).mono weaker (fun _ member => member)⟩

end Passes

section Release

variable {expires : UInt32 → Prop} {before after : World cfg} {events : History cfg}

/-- An operation that at most takes entries from the table. -/
theorem RequestsTimed.passes (timed : RequestsTimed before)
    (history : after.history = events ++ before.history)
    (kept : ∀ slot, (after.rt.requestTracker.entries slot).active = true →
      after.rt.requestTracker.entries slot = before.rt.requestTracker.entries slot)
    (released : ∀ slot handle, WaitsIn before.rt.requestTracker slot handle →
      WaitsIn after.rt.requestTracker slot handle ∨ Called events handle)
    (noReturn : ∀ handle timeoutMs nowMs, ¬Submitted events handle timeoutMs nowMs)
    (refused : ∀ handle rc payload, .callback (.request handle .sendFailed rc payload) ∈ events →
      handle < after.history.length ∧
        ∀ timeoutMs nowMs, ¬Submitted before.history handle timeoutMs nowMs)
    (reported : ∀ handle rc payload, .callback (.request handle .timeout rc payload) ∈ events →
      Due expires before.history handle rc payload) :
    Passes expires before after := by
  have grown : before.history ⊆ after.history := by
    rw [history]
    exact List.subset_append_right _ _
  have longer : before.history.length ≤ after.history.length := by
    rw [history, List.length_append]
    exact Nat.le_add_left _ _
  have submitted : ∀ {handle timeoutMs nowMs}, Submitted after.history handle timeoutMs nowMs ↔
      Submitted before.history handle timeoutMs nowMs := by
    intro handle timeoutMs nowMs
    rw [history, submitted_append]
    exact or_iff_right (noReturn handle timeoutMs nowMs)
  refine ⟨?_, events, history, fun _ _ _ new => absurd new (noReturn _ _ _), ?_⟩
  · exact {
      unique := by
        intro left right leftActive rightActive same
        have leftKept := kept left leftActive
        have rightKept := kept right rightActive
        rw [leftKept] at leftActive same
        rw [rightKept] at rightActive same
        exact timed.unique left right leftActive rightActive same
      fresh := fun _ _ _ old => (timed.fresh _ _ _ (submitted.mp old)).trans_le longer
      once := fun _ _ _ _ _ left right =>
        timed.once _ _ _ _ _ (submitted.mp left) (submitted.mp right)
      awaits := by
        intro slot handle awaits
        have same := kept slot awaits.1
        rw [WaitsIn, same] at awaits
        obtain ⟨timeoutMs, nowMs, old, deadline⟩ := timed.awaits slot handle awaits
        exact ⟨timeoutMs, nowMs, submitted.mpr old, same ▸ deadline⟩
      owed := by
        intro handle timeoutMs nowMs old
        rcases timed.owed _ _ _ (submitted.mp old) with ⟨slot, awaits⟩ | called
        · rcases released slot handle awaits with still | called
          · exact .inl ⟨slot, still⟩
          · exact .inr (called.mono (history ▸ List.subset_append_left _ _))
        · exact .inr (called.mono grown)
      refused := by
        intro handle rc payload entered
        rw [history, List.mem_append] at entered
        rcases entered with new | old
        · obtain ⟨below, unsubmitted⟩ := refused _ _ _ new
          exact ⟨below, fun _ _ => unsubmitted _ _ ∘ submitted.mp⟩
        · obtain ⟨below, unsubmitted⟩ := timed.refused _ _ _ old
          exact ⟨below.trans_le longer, fun _ _ => unsubmitted _ _ ∘ submitted.mp⟩
      reported := by
        intro handle rc payload entered
        rw [history, List.mem_append] at entered
        rcases entered with new | old
        · obtain ⟨-, -, timeoutMs, nowMs, known, -⟩ := reported _ _ _ new
          exact ⟨timeoutMs, nowMs, submitted.mpr known⟩
        · obtain ⟨timeoutMs, nowMs, known⟩ := timed.reported _ _ _ old
          exact ⟨timeoutMs, nowMs, submitted.mpr known⟩ }
  · intro handle rc payload entered
    exact (reported _ _ _ entered).mono (fun _ expired => expired) grown

/-- Is it an id that is returned to a caller with a callback, or such a callback? -/
def Event.settles : Event cfg → Bool
  | .returned (.request _ _ _ _ true _ _) (.request _ (some _)) => true
  | .callback (.request ..) => true
  | _ => false

/-- An operation that does not touch the table. -/
theorem RequestsTimed.quiet (timed : RequestsTimed before)
    (history : after.history = events ++ before.history)
    (table : after.rt.requestTracker = before.rt.requestTracker)
    (quiet : ∀ event ∈ events, event.settles = false) : Passes expires before after := by
  apply timed.passes history
  · exact fun slot _ => by rw [table]
  · exact fun slot handle awaits => .inl (table ▸ awaits)
  · rintro handle timeoutMs nowMs ⟨target, serviceId, methodId, payload, requestId, returned⟩
    cases quiet _ returned
  · intro handle rc payload entered
    cases quiet _ entered
  · intro handle rc payload entered
    cases quiet _ entered

/-- An entry that leaves the table, other than that of a request that could not be sent. -/
theorem timely_finish {w : World cfg} {slot : Fin cfg.maxPendingRequests} {cause : Cause}
    {rc : ReturnCode} {payload : Bytes}
    (active : (w.rt.requestTracker.entries slot).active = true) (sent : cause ≠ .sendFailed)
    (expired : cause = .timeout → rc = .eTimeout ∧ payload = [] ∧
      expires (w.rt.requestTracker.entries slot).deadlineMs) :
    Timely expires w (RequestTracker.finish World.trackerLens (World.invokeRequest cause id) slot
      rc payload w) := by
  intro timed
  have kept : ∀ other, ((w.rt.requestTracker.release slot).entries other).active = true →
      (w.rt.requestTracker.release slot).entries other = w.rt.requestTracker.entries other :=
    fun other stillActive => (RequestTracker.release_active stillActive).2
  have others : ∀ other handle, other ≠ slot → WaitsIn w.rt.requestTracker other handle →
      WaitsIn (w.rt.requestTracker.release slot) other handle := by
    intro other handle different awaits
    simpa [WaitsIn, RequestTracker.release, different] using awaits
  cases held : (w.rt.requestTracker.entries slot).callback with
  | none =>
      have after : RequestTracker.finish World.trackerLens (World.invokeRequest cause id) slot rc
          payload w = World.trackerLens.modify (fun tracker => tracker.release slot) w := by
        simp only [RequestTracker.finish, World.trackerLens_get, held]
      rw [after]
      refine timed.passes (List.nil_append _).symm kept ?_ ?_ ?_ ?_
      · intro other handle awaits
        refine .inl (others other handle ?_ awaits)
        rintro rfl
        cases held.symm.trans awaits.2
      · rintro handle timeoutMs nowMs ⟨_, _, _, _, _, ⟨⟩⟩
      · rintro handle rc payload ⟨⟩
      · rintro handle rc payload ⟨⟩
  | some handle =>
      have after : RequestTracker.finish World.trackerLens (World.invokeRequest cause id) slot rc
          payload w = (World.trackerLens.modify (fun tracker => tracker.release slot) w).emit
            (.callback (.request handle cause rc payload)) := by
        simp only [RequestTracker.finish, World.trackerLens_get, held]
        rfl
      rw [after]
      refine timed.passes (List.singleton_append.symm :
        _ = [.callback (.request handle cause rc payload)] ++ w.history) kept ?_ ?_ ?_ ?_
      · intro other owner awaits
        by_cases same : other = slot
        · subst same
          cases held.symm.trans awaits.2
          exact .inr ⟨cause, rc, payload, List.mem_singleton_self _⟩
        · exact .inl (others other owner same awaits)
      · rintro owner timeoutMs nowMs ⟨_, _, _, _, _, returned⟩
        cases List.mem_singleton.mp returned
      · intro owner code bytes entered
        cases List.mem_singleton.mp entered
        contradiction
      · intro owner code bytes entered
        cases List.mem_singleton.mp entered
        obtain ⟨isTimeout, empty, expiry⟩ := expired rfl
        obtain ⟨timeoutMs, nowMs, submitted, deadline⟩ := timed.awaits slot handle ⟨active, held⟩
        exact ⟨isTimeout, empty, timeoutMs, nowMs, submitted, deadline ▸ expiry⟩

end Release

section Submission

variable {expires : UInt32 → Prop} {before after : World cfg} {target : Option (Address n)}
  {dest : Address n} {serviceId methodId : UInt16} {payload : Payload} {hasCallback : Bool}
  {timeoutMs nowMs requestId : UInt32} {tracker : RequestTracker cfg Nat} {frame : Bytes}

/-- A request that the transport takes. -/
theorem RequestsTimed.accepted (timed : RequestsTimed before)
    (bounded : cfg.maxPendingRequests < UInt32.size)
    (allocated : before.rt.requestTracker.allocate serviceId methodId timeoutMs nowMs
      (if hasCallback then some before.history.length else none) = some (requestId, tracker))
    (table : after.rt.requestTracker = tracker)
    (history : after.history =
      [.returned (.request target serviceId methodId payload hasCallback timeoutMs nowMs)
          (.request before.history.length (some requestId)),
        .sent (.request before.history.length) dest frame true,
        .issued before.history.length requestId dest serviceId methodId payload hasCallback] ++
      before.history) :
    Passes expires before after := by
  obtain ⟨filled, entry, inactive, entries, active, -, callback, deadline⟩ :=
    RequestTracker.allocate_entry allocated
  have grown : before.history ⊆ after.history := history ▸ List.subset_append_right _ _
  have longer : before.history.length < after.history.length := by
    rw [history, List.length_append]
    exact Nat.lt_add_of_pos_left (Nat.succ_pos _)
  have here : after.rt.requestTracker.entries filled = entry := by
    rw [table, entries, Function.update_self]
  have others : ∀ slot, slot ≠ filled →
      after.rt.requestTracker.entries slot = before.rt.requestTracker.entries slot := by
    intro slot different
    rw [table, entries, Function.update_of_ne different]
  have submitted : ∀ {handle otherMs laterMs}, Submitted after.history handle otherMs laterMs →
      hasCallback = true ∧ handle = before.history.length ∧ otherMs = timeoutMs ∧
        laterMs = nowMs ∨ Submitted before.history handle otherMs laterMs := by
    intro handle otherMs laterMs known
    rw [history, submitted_append] at known
    rcases known with ⟨_, _, _, _, _, returned⟩ | old
    · rcases List.mem_cons.mp returned with now | rest
      · cases now
        exact .inl ⟨rfl, rfl, rfl, rfl⟩
      · simp at rest
    · exact .inr old
  have entered : ∀ {handle cause rc bytes},
      .callback (.request handle cause rc bytes) ∈ after.history →
        .callback (.request handle cause rc bytes) ∈ before.history := by
    intro handle cause rc bytes member
    rw [history] at member
    simpa using member
  refine ⟨?_, _, history, ?_, ?_⟩
  · exact {
      unique := table ▸ timed.unique.allocate bounded allocated
      fresh := by
        intro handle otherMs laterMs known
        rcases submitted known with ⟨-, rfl, -, -⟩ | old
        · exact longer
        · exact (timed.fresh _ _ _ old).trans longer
      once := by
        intro handle leftMs leftNow rightMs rightNow left right
        rcases submitted left with ⟨-, rfl, rfl, rfl⟩ | leftOld <;>
          rcases submitted right with ⟨-, same, rfl, rfl⟩ | rightOld
        · exact ⟨rfl, rfl⟩
        · exact absurd (timed.fresh _ _ _ rightOld) (Nat.lt_irrefl _)
        · subst same
          exact absurd (timed.fresh _ _ _ leftOld) (Nat.lt_irrefl _)
        · exact timed.once _ _ _ _ _ leftOld rightOld
      awaits := by
        intro slot handle awaits
        by_cases same : slot = filled
        · subst same
          rw [WaitsIn, here, callback] at awaits
          cases hasCallback with
          | false => cases awaits.2
          | true =>
              cases awaits.2
              refine ⟨timeoutMs, nowMs, ?_, here ▸ deadline⟩
              exact ⟨target, serviceId, methodId, payload, requestId, by simp [history]⟩
        · have kept := others slot same
          rw [WaitsIn, kept] at awaits
          obtain ⟨otherMs, laterMs, old, due⟩ := timed.awaits slot handle awaits
          exact ⟨otherMs, laterMs, old.mono grown, kept ▸ due⟩
      owed := by
        intro handle otherMs laterMs known
        rcases submitted known with ⟨called, rfl, -, -⟩ | old
        · subst called
          exact .inl ⟨filled, by rw [WaitsIn, here]; exact ⟨active, callback⟩⟩
        · rcases timed.owed _ _ _ old with ⟨slot, awaits⟩ | called
          · refine .inl ⟨slot, ?_⟩
            rw [WaitsIn, others slot]
            · exact awaits
            · rintro rfl
              cases inactive.symm.trans awaits.1
          · exact .inr (called.mono grown)
      refused := by
        intro handle rc bytes member
        obtain ⟨below, unsubmitted⟩ := timed.refused _ _ _ (entered member)
        refine ⟨below.trans longer, fun otherMs laterMs known => ?_⟩
        rcases submitted known with ⟨-, rfl, -, -⟩ | old
        · exact Nat.lt_irrefl _ below
        · exact unsubmitted _ _ old
      reported := by
        intro handle rc bytes member
        obtain ⟨otherMs, laterMs, old⟩ := timed.reported _ _ _ (entered member)
        exact ⟨otherMs, laterMs, old.mono grown⟩ }
  · rintro handle otherMs laterMs ⟨_, _, _, _, _, returned⟩
    rcases List.mem_cons.mp returned with now | rest
    · cases now
      exact Nat.le_refl _
    · simp at rest
  · intro handle rc bytes member
    simp at member

/-- A request that the transport refuses, up to its callback. -/
theorem RequestsTimed.refusal (timed : RequestsTimed before)
    (bounded : cfg.maxPendingRequests < UInt32.size)
    (allocated : before.rt.requestTracker.allocate serviceId methodId timeoutMs nowMs
      (if hasCallback then some before.history.length else none) = some (requestId, tracker))
    (table : after.rt.requestTracker = tracker)
    (history : after.history =
      [.sent (.request before.history.length) dest frame false,
        .issued before.history.length requestId dest serviceId methodId payload hasCallback] ++
      before.history)
    {slot : Fin cfg.maxPendingRequests}
    (found : after.rt.requestTracker.findActive requestId = some slot) :
    Passes expires before (RequestTracker.finish World.trackerLens
      (World.invokeRequest .sendFailed id) slot .eNotOk [] after) := by
  obtain ⟨filled, entry, inactive, entries, active, entryId, callback, -⟩ :=
    RequestTracker.allocate_entry allocated
  obtain ⟨slotActive, slotId⟩ := RequestTracker.findActive_spec found
  have here : after.rt.requestTracker.entries filled = entry := by
    rw [table, entries, Function.update_self]
  have same : slot = filled := by
    have unique := timed.unique.allocate bounded allocated
    rw [← table] at unique
    exact unique slot filled slotActive (here ▸ active) (by rw [slotId, here, entryId])
  subst same
  have released : ∀ other, other ≠ slot →
      (after.rt.requestTracker.release slot).entries other =
        before.rt.requestTracker.entries other := by
    intro other different
    have update : (after.rt.requestTracker.release slot).entries =
        Function.update after.rt.requestTracker.entries slot {} := rfl
    rw [update, Function.update_of_ne different, table, entries,
      Function.update_of_ne different]
  have kept : ∀ other, ((after.rt.requestTracker.release slot).entries other).active = true →
      (after.rt.requestTracker.release slot).entries other =
        before.rt.requestTracker.entries other :=
    fun other stillActive => released other (RequestTracker.release_active stillActive).1
  have others : ∀ other handle, WaitsIn before.rt.requestTracker other handle →
      WaitsIn (after.rt.requestTracker.release slot) other handle := by
    intro other handle awaits
    rw [WaitsIn, released other]
    · exact awaits
    · rintro rfl
      cases inactive.symm.trans awaits.1
  have unsubmitted : ∀ otherMs laterMs,
      ¬Submitted before.history before.history.length otherMs laterMs :=
    fun _ _ old => absurd (timed.fresh _ _ _ old) (Nat.lt_irrefl _)
  cases hasCallback with
  | false =>
      have finished : RequestTracker.finish World.trackerLens
          (World.invokeRequest .sendFailed id) slot .eNotOk [] after =
          World.trackerLens.modify (fun tracker => tracker.release slot) after := by
        simp only [RequestTracker.finish, World.trackerLens_get, here, callback]
        rfl
      rw [finished]
      refine timed.passes history kept (fun other handle awaits => .inl (others _ _ awaits))
        ?_ ?_ ?_
      · rintro handle otherMs laterMs ⟨_, _, _, _, _, returned⟩
        simp at returned
      · intro handle rc bytes member
        simp at member
      · intro handle rc bytes member
        simp at member
  | true =>
      have finished : RequestTracker.finish World.trackerLens
          (World.invokeRequest .sendFailed id) slot .eNotOk [] after =
          (World.trackerLens.modify (fun tracker => tracker.release slot) after).emit
            (.callback (.request before.history.length .sendFailed .eNotOk [])) := by
        simp only [RequestTracker.finish, World.trackerLens_get, here, callback]
        rfl
      rw [finished]
      have entered := congrArg (List.cons (.callback (.request before.history.length .sendFailed
        .eNotOk []))) history
      rw [← List.cons_append] at entered
      refine timed.passes entered kept
        (fun other handle awaits => .inl (others _ _ awaits)) ?_ ?_ ?_
      · rintro handle otherMs laterMs ⟨_, _, _, _, _, returned⟩
        simp at returned
      · intro handle rc bytes member
        rcases List.mem_cons.mp member with now | rest
        · cases now
          refine ⟨?_, unsubmitted⟩
          have whole := congrArg List.length entered
          rw [List.length_append] at whole
          exact (Nat.lt_add_of_pos_left (Nat.succ_pos _)).trans_eq whole.symm
        · simp at rest
      · intro handle rc bytes member
        simp at member

end Submission

section Operations

variable {expires : UInt32 → Prop}

theorem timely_refl (w : World cfg) : Timely expires w w :=
  fun timed => timed.quiet (List.nil_append _).symm rfl (by simp)

theorem Timely.trans {first second third : World cfg} (earlier : Timely expires first second)
    (later : Timely expires second third) : Timely expires first third := by
  intro timed
  have passed := earlier timed
  exact passed.trans (later passed.timed)

theorem Timely.mono {later : UInt32 → Prop} {before after : World cfg}
    (timely : Timely expires before after)
    (weaker : ∀ deadlineMs, expires deadlineMs → later deadlineMs) : Timely later before after :=
  fun timed => (timely timed).mono weaker

theorem Event.settles_eq_false {event : Event cfg} (notReturned : event.kind ≠ .returned)
    (notFinish : event.kind ≠ .finish) : event.settles = false := by
  cases event with
  | returned call result =>
      cases call with
      | request => exact absurd rfl notReturned
      | _ => rfl
  | callback callback =>
      cases callback with
      | request => exact absurd rfl notFinish
      | _ => rfl
  | _ => rfl

theorem timely_atomic {kind : StepKind} {before after : World cfg}
    (step : Atomic env kind before after) (other : kind ∉ [.submit, .finish, .returned]) :
    Timely expires before after := by
  intro timed
  obtain ⟨events, history, kinds⟩ := step.observes
  have table := step.frame.requestTracker (fun member => other (by simp_all))
  apply timed.quiet history table
  intro event member
  apply Event.settles_eq_false
  · exact Event.kind_ne kinds (fun same => other (by simp [same])) (by simp) event member
  · exact Event.kind_ne kinds (fun same => other (by simp [same])) (by simp) event member

theorem timely_background {before after : World cfg} (step : Background env before after) :
    Timely expires before after :=
  timely_atomic (.background step) (by simp)

theorem timely_count (counter : DiagnosticCounter) (header : Option Bytes) (w : World cfg) :
    Timely expires w (w.increment counter header) :=
  timely_background (Background.increment counter header w : Background (.benign cfg) w _)

theorem timely_returned (call : ApiCall cfg) (result : ApiResult) (w : World cfg)
    (unsettled : (Event.returned call result).settles = false) :
    Timely expires w (w.emit (.returned call result)) := by
  intro timed
  refine timed.quiet (List.singleton_append.symm : _ = [.returned call result] ++ w.history) rfl ?_
  intro event member
  cases List.mem_singleton.mp member
  exact unsettled

theorem timely_send {before after : World cfg} (steps : SendSteps env before after) :
    Timely expires before after := by
  induction steps with
  | refl => exact timely_refl before
  | tail _ step ih =>
      cases step with
      | count counter header => exact ih.trans (timely_count counter header _)
      | transmit step => exact ih.trans (timely_atomic step (by simp))

variable (bounded : cfg.maxPendingRequests < UInt32.size)

include bounded

/-- A call of `request`, with the body of the callback that it may run. -/
theorem timely_request {body : World cfg → World cfg}
    (bodies : ∀ w, Timely expires w (body w)) (target : Option (Address n))
    (serviceId methodId : UInt16) (payload : Payload) (hasCallback : Bool)
    (timeoutMs nowMs : UInt32) (w : World cfg) :
    Timely expires w (w.perform env body
      (.request target serviceId methodId payload hasCallback timeoutMs nowMs)) := by
  have failed : ∀ after : World cfg, Timely expires w after → Timely expires w
      (after.emit (.returned
        (.request target serviceId methodId payload hasCallback timeoutMs nowMs)
        (.request w.history.length none))) := by
    intro after timely
    refine timely.trans (timely_returned _ _ after ?_)
    cases hasCallback <;> rfl
  rw [World.perform, World.apiCall]
  simp only [World.request]
  cases target.or (w.rt.sd.getProviderAddress serviceId) with
  | none => exact failed w (timely_refl w)
  | some provider =>
      simp only [World.requestImpl]
      rcases @World.submit_spec _ _ env w.history.length provider serviceId methodId payload
          hasCallback timeoutMs nowMs w with
        ⟨-, none⟩ | ⟨requestId, tracker, ok, allocated, outcome, table, -, rt, auth, history⟩
      · rw [none]
        exact failed w (timely_refl w)
      · rcases submission : w.submit env w.history.length provider serviceId methodId payload
          hasCallback timeoutMs nowMs with ⟨answer, after⟩
        rw [submission] at outcome table history
        dsimp only at outcome table history
        subst outcome
        cases ok with
        | true =>
            intro timed
            refine timed.accepted bounded allocated ?_ (congrArg (List.cons _) history)
            exact table
        | false =>
            obtain ⟨slot, found⟩ := RequestTracker.findActive_allocate allocated
            rw [← table] at found
            have entered : Timely expires w (RequestTracker.finish World.trackerLens
                (World.invokeRequest .sendFailed id) slot .eNotOk [] after) :=
              fun timed => timed.refusal bounded allocated table history found
            simp only [RequestTracker.complete, World.trackerLens_get, found]
            apply failed
            refine Timely.trans ?_ (timely_count .droppedMessages none _)
            rw [World.finish_body]
            cases (after.rt.requestTracker.entries slot).callback with
            | none => exact entered
            | some handle => exact entered.trans (bodies _)

theorem timely_perform {body : World cfg → World cfg} (bodies : ∀ w, Timely expires w (body w))
    (call : ApiCall cfg) (w : World cfg) : Timely expires w (w.perform env body call) := by
  cases local_ : call.isLocal with
  | true =>
      rw [World.perform_local body local_]
      exact timely_atomic (.perform local_ w) (by simp)
  | false =>
      cases call with
      | request => exact timely_request bounded bodies _ _ _ _ _ _ _ w
      | fireAndForget serviceId methodId payload =>
          exact (timely_send (World.fireAndForget_steps serviceId methodId payload w)).trans
            (timely_returned _ _ _ rfl)
      | notifyEvent serviceId eventId payload =>
          exact (timely_send (World.notifyEvent_steps serviceId eventId payload w)).trans
            (timely_returned _ _ _ rfl)
      | _ => cases local_

/-- By induction on the script: the body of a callback made by a call is a script too. -/
theorem timely_script (script : Script cfg) :
    ∀ w : World cfg, Timely expires w (script.run env w) := by
  induction script with
  | done => exact timely_refl
  | call operation callback rest callbackIh restIh =>
      intro w
      exact (timely_perform bounded callbackIh operation w).trans (restIh _)

theorem timely_walk : Walk env (Timely expires) where
  refl := timely_refl
  trans := .trans
  script script w := timely_script bounded script w
  count := timely_count
  storeDtcs write := timely_background (.storeDtcs write : Background env _ _)
  fillResponse buffer w := timely_background (.fillResponse buffer w : Background env _ _)
  handling {kind} _ _ isHandling step := by
    refine timely_atomic step ?_
    cases kind with
    | validate | enterHandler | reply | callback => simp
    | _ => cases isHandling
  reply active _ := timely_finish active (by simp) (by simp)
  background := timely_background
  resetPeer addr w := timely_atomic (.resetPeer addr w : Atomic env _ _ _) (by simp)
  sdWrite write := timely_atomic (.sdWrite write : Atomic env _ _ _) (by simp)
  markRenewals nowMs w := timely_atomic (.markRenewals nowMs w : Atomic env _ _ _) (by simp)

/-- The pass in which requests time out. -/
theorem timely_evictRequests (nowMs : UInt32) (w : World cfg) :
    Timely (expiredAt nowMs) w (w.evictRequests env nowMs) := by
  refine (@timely_walk _ _ env _ bounded).foldl ?_ _ w
  intro turn slot
  by_cases expired : ((turn.rt.requestTracker.entries slot).active &&
      timeAfter nowMs (turn.rt.requestTracker.entries slot).deadlineMs) = true
  · have evicted : RequestTracker.evictSlot World.trackerLens
        (World.invokeRequest .timeout (World.react env)) nowMs turn slot =
        RequestTracker.finish World.trackerLens (World.invokeRequest .timeout (World.react env))
          slot .eTimeout [] turn := if_pos expired
    rw [Bool.and_eq_true] at expired
    have entered : Timely (expiredAt nowMs) turn _ :=
      timely_finish expired.1 (by simp : Cause.timeout ≠ .sendFailed)
        (fun _ => ⟨rfl, rfl, expired.2⟩)
    rw [evicted, World.finish_body]
    cases (turn.rt.requestTracker.entries slot).callback with
    | none => exact entered
    | some handle => exact entered.trans (timely_script bounded _ _)
  · have same : RequestTracker.evictSlot World.trackerLens
        (World.invokeRequest .timeout (World.react env)) nowMs turn slot = turn := if_neg expired
    rw [same]
    exact timely_refl turn

end Operations

/-! ## Entries that expire are reported -/

/-- An entry stays in its slot until its callback is invoked. -/
theorem Atomic.entry {kind : StepKind} {before after : World cfg}
    (step : Atomic env kind before after) {slot : Fin cfg.maxPendingRequests} {handle : Nat}
    (awaits : WaitsIn before.rt.requestTracker slot handle) :
    after.rt.requestTracker.entries slot = before.rt.requestTracker.entries slot ∨
      Called after.history handle := by
  by_cases other : kind ∈ [.submit, .finish]
  · cases step with
    | submit target serviceId methodId payload hasCallback timeoutMs nowMs fresh =>
        rcases @World.submit_spec _ _ env _ target serviceId methodId payload hasCallback timeoutMs
            nowMs before with ⟨-, none⟩ | ⟨requestId, tracker, ok, allocated, -, table, -⟩
        · exact .inl (by rw [none])
        · obtain ⟨filled, entry, inactive, entries, -⟩ := RequestTracker.allocate_entry allocated
          have different : slot ≠ filled := by
            rintro rfl
            cases inactive.symm.trans awaits.1
          exact .inl (by rw [table, entries, Function.update_of_ne different])
    | @finish left cause rc payload _ active reason =>
        by_cases same : slot = left
        · subst same
          refine .inr ⟨cause, rc, payload, ?_⟩
          simp only [RequestTracker.finish, World.trackerLens_get, awaits.2]
          exact List.mem_cons_self
        · refine .inl ?_
          have released : (before.rt.requestTracker.release left).entries slot =
              before.rt.requestTracker.entries slot := Function.update_of_ne same _ _
          simp only [RequestTracker.finish, World.trackerLens_get]
          cases (before.rt.requestTracker.entries left).callback with
          | none => exact released
          | some owner => exact released
    | _ => simp at other
  · exact .inl (by rw [step.frame.requestTracker other])

theorem Steps.entry {before after : World cfg} (steps : Steps env before after)
    {slot : Fin cfg.maxPendingRequests} {handle : Nat}
    (awaits : WaitsIn before.rt.requestTracker slot handle) :
    after.rt.requestTracker.entries slot = before.rt.requestTracker.entries slot ∨
      Called after.history handle := by
  induction steps with
  | refl => exact .inl rfl
  | @tail middle last _ step ih =>
      obtain ⟨kind, step⟩ := step
      rcases ih with same | called
      · have still : WaitsIn middle.rt.requestTracker slot handle := by
          rw [WaitsIn, same]
          exact awaits
        exact (step.entry still).imp (fun kept => kept.trans same) id
      · exact .inr (called.mono (Steps.suffix step.steps).subset)

/-- The pass calls the callback of every entry whose deadline it sees as past. -/
theorem evictRequests_called {nowMs : UInt32} {w : World cfg}
    {slot : Fin cfg.maxPendingRequests} {handle : Nat}
    (awaits : WaitsIn w.rt.requestTracker slot handle)
    (expired : expiredAt nowMs (w.rt.requestTracker.entries slot).deadlineMs) :
    Called (w.evictRequests env nowMs).history handle := by
  obtain ⟨earlier, later, split⟩ := List.append_of_mem (List.mem_finRange slot)
  let turn := RequestTracker.evictSlot World.trackerLens
    (World.invokeRequest .timeout (World.react env)) nowMs
  have passes : ∀ (slots : List (Fin cfg.maxPendingRequests)) (w : World cfg),
      Steps env w (slots.foldl turn w) :=
    fun slots w => CallSteps.steps (Runs.foldl (World.evictSlot_steps nowMs) slots w)
  have whole : w.evictRequests env nowMs = later.foldl turn (turn (earlier.foldl turn w) slot) := by
    rw [World.evictRequests, RequestTracker.evictExpired, split, List.foldl_append,
      List.foldl_cons]
  rw [whole]
  refine Called.mono ?_ (Steps.suffix (passes later _)).subset
  rcases (passes earlier w).entry awaits with same | called
  · generalize earlier.foldl turn w = before at same
    have due : (before.rt.requestTracker.entries slot).active &&
        timeAfter nowMs (before.rt.requestTracker.entries slot).deadlineMs := by
      rw [same, awaits.1, Bool.true_and]
      exact expired
    have evicted : turn before slot = RequestTracker.finish World.trackerLens
        (World.invokeRequest .timeout (World.react env)) slot .eTimeout [] before := if_pos due
    rw [evicted]
    simp only [RequestTracker.finish, World.trackerLens_get, same, awaits.2]
    refine ⟨.timeout, .eTimeout, [], ?_⟩
    exact (Steps.suffix (World.react_steps _).steps).subset List.mem_cons_self
  · exact called.mono (Steps.suffix (World.evictSlot_steps nowMs _ slot).steps).subset

end Sero
