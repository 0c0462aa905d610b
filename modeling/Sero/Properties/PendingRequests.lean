import Sero.Service.RequestTracker

/-!
# Runs of the pending-request table

The table driven by an application: calls of `allocate`, `complete` and
`evict_expired` in any order, whose callbacks may call `allocate` and `complete`
again before they return.  What a callback does is chosen by `react` from
everything observed so far and given as a script, a tree because completing a
request inside a callback runs a further callback.
-/

namespace Sero.PendingRequests

open Library RequestTracker

variable {n : Nat} {cfg : Config n}

/-- Why an entry left the table. -/
inductive Departure where
  | completed (requestId : UInt32) (rc : ReturnCode) (payload : Bytes)
  | evicted (nowMs : UInt32)
  deriving DecidableEq

/-- What an observer sees.  Every allocation has a handle of its own; a callback
is seen together with the table as it stands when the callback is entered. -/
inductive Event (cfg : Config n) where
  | allocated (handle : Nat) (requestId : UInt32) (hasCallback : Bool)
  | refused
  | invoked (handle : Nat) (departure : Departure) (rc : ReturnCode) (payload : Bytes)
      (table : RequestTracker cfg Nat)

/-- The table and what has been observed, newest first. -/
structure State (cfg : Config n) where
  tracker : RequestTracker cfg Nat := {}
  log : List (Event cfg) := []

/-- The body of a callback. -/
inductive Script where
  | done
  | allocate (serviceId methodId : UInt16) (timeoutMs nowMs : UInt32)
      (hasCallback : Bool) (rest : Script)
  | complete (requestId : UInt32) (rc : ReturnCode) (payload : Bytes)
      (callback rest : Script)

inductive Call where
  | allocate (serviceId methodId : UInt16) (timeoutMs nowMs : UInt32)
      (hasCallback : Bool)
  | complete (requestId : UInt32) (rc : ReturnCode) (payload : Bytes)
  | evictExpired (nowMs : UInt32)

def State.trackerLens : Lens (State cfg) (RequestTracker cfg Nat) where
  get state := state.tracker
  set tracker state := { state with tracker }
  get_set _ _ := rfl
  set_get _ := rfl
  set_set _ _ _ := rfl

/-- `allocate` as the application calls it. -/
def State.allocate (serviceId methodId : UInt16) (timeoutMs nowMs : UInt32)
    (hasCallback : Bool) (state : State cfg) : State cfg :=
  let handle := state.log.length
  match state.tracker.allocate serviceId methodId timeoutMs nowMs
      (if hasCallback then some handle else none) with
  | none => { state with log := .refused :: state.log }
  | some (rid, tracker) =>
      { tracker, log := .allocated handle rid hasCallback :: state.log }

/-- Enter a callback: it is observed, then its body runs. -/
def State.invoke (departure : Departure) (body : State cfg → State cfg) (handle : Nat)
    (rc : ReturnCode) (payload : Bytes) (state : State cfg) : State cfg :=
  body { state with log := .invoked handle departure rc payload state.tracker :: state.log }

def Script.run : Script → State cfg → State cfg
  | .done, state => state
  | .allocate serviceId methodId timeoutMs nowMs hasCallback rest, state =>
      rest.run (state.allocate serviceId methodId timeoutMs nowMs hasCallback)
  | .complete requestId rc payload callback rest, state =>
      rest.run (RequestTracker.complete State.trackerLens
        (State.invoke (.completed requestId rc payload) callback.run)
        requestId rc payload state).2

variable (react : List (Event cfg) → Script)

/-- The body of a callback that has just been observed. -/
def reaction (state : State cfg) : State cfg :=
  (react state.log).run state

def step (state : State cfg) : Call → State cfg
  | .allocate serviceId methodId timeoutMs nowMs hasCallback =>
      state.allocate serviceId methodId timeoutMs nowMs hasCallback
  | .complete requestId rc payload =>
      (complete State.trackerLens
        (State.invoke (.completed requestId rc payload) (reaction react))
        requestId rc payload state).2
  | .evictExpired nowMs =>
      evictExpired State.trackerLens (State.invoke (.evicted nowMs) (reaction react))
        nowMs state

def run (calls : List Call) : State cfg :=
  calls.foldl (step react) {}

/-! ## The invariant -/

/-- Handles of the successful allocations with a callback. -/
def allocatedHandles (log : List (Event cfg)) : List Nat :=
  log.filterMap fun
    | .allocated handle _ true => some handle
    | _ => none

/-- Handles of the callbacks that have been invoked. -/
def invokedHandles (log : List (Event cfg)) : List Nat :=
  log.filterMap fun
    | .invoked handle _ _ _ _ => some handle
    | _ => none

/-- The code and payload a departure must hand to the callback. -/
def Departure.delivers : Departure → ReturnCode → Bytes → Prop
  | .completed _ given bytes, rc, payload => rc = given ∧ payload = bytes
  | .evicted _, rc, payload => rc = .eTimeout ∧ payload = []

/-- `complete` ends the request with the id it is given, eviction any that has expired. -/
def Departure.ends : Departure → UInt32 → Prop
  | .completed requestId _ _, ended => ended = requestId
  | .evicted _, _ => True

/-- A callback is entered when its entry, and no other, has just left the table, and it is the
one `allocate` was given when it returned the id that is ended. -/
def Entered (handle : Nat) (departure : Departure) (rc : ReturnCode) (payload : Bytes)
    (table : RequestTracker cfg Nat) (past : List (Event cfg)) : Prop :=
  departure.delivers rc payload ∧ table.UniqueIds ∧
    (allocatedHandles past).Perm (invokedHandles past ++ handle :: table.pending) ∧
    ∃ requestId, .allocated handle requestId true ∈ past ∧ departure.ends requestId

/-- An active entry with a callback is stored under the id `allocate` has returned. -/
def Filed (tracker : RequestTracker cfg Nat) (log : List (Event cfg)) : Prop :=
  ∀ slot handle, (tracker.entries slot).active = true →
    (tracker.entries slot).callback = some handle →
    .allocated handle (tracker.entries slot).requestId true ∈ log

structure Invariant (state : State cfg) : Prop where
  unique : state.tracker.UniqueIds
  fresh : ∀ handle ∈ allocatedHandles state.log, handle < state.log.length
  distinct : (allocatedHandles state.log).Nodup
  balance : (allocatedHandles state.log).Perm
    (invokedHandles state.log ++ state.tracker.pending)
  filed : Filed state.tracker state.log
  entered : ∀ handle departure rc payload table past,
    (.invoked handle departure rc payload table :: past) <:+ state.log →
      Entered handle departure rc payload table past

theorem invariant_initial : Invariant ({} : State cfg) where
  unique := uniqueIds_empty
  fresh := by simp [allocatedHandles]
  distinct := by simp [allocatedHandles]
  balance := by
    simp [allocatedHandles, invokedHandles, pending, Slots.held, owed]
  filed := by
    intro slot handle active
    cases active
  entered := by
    intro handle departure rc payload table past suffix
    simp at suffix

namespace Filed

variable {tracker after : RequestTracker cfg Nat} {log : List (Event cfg)}

theorem later (filed : Filed tracker log) (event : Event cfg) : Filed tracker (event :: log) :=
  fun slot handle active held => .tail _ (filed slot handle active held)

theorem release (filed : Filed tracker log) (slot : Fin cfg.maxPendingRequests) :
    Filed (tracker.release slot) log := by
  intro other handle active held
  have kept := (release_active active).2
  rw [kept] at active held ⊢
  exact filed other handle active held

theorem allocate (filed : Filed tracker log) {serviceId methodId : UInt16}
    {timeoutMs nowMs : UInt32} {hasCallback : Bool} {handle : Nat} {requestId : UInt32}
    (allocated : tracker.allocate serviceId methodId timeoutMs nowMs
      (if hasCallback then some handle else none) = some (requestId, after)) :
    Filed after (.allocated handle requestId hasCallback :: log) := by
  obtain ⟨-, slot, entry, -, entryId, -, -, callback, -, rfl⟩ := allocate_spec allocated
  intro other owner active held
  by_cases new : other = slot
  · subst new
    simp only [Function.update_self] at held ⊢
    rw [callback] at held
    cases hasCallback with
    | false => cases held
    | true =>
        obtain rfl : handle = owner := Option.some.inj held
        rw [entryId]
        exact .head _
  · simp only [Function.update_of_ne new] at active held ⊢
    exact .tail _ (filed other owner active held)

end Filed

namespace Invariant

variable {state : State cfg}

/-- Allocation keeps the invariant. -/
theorem allocate (bounded : cfg.maxPendingRequests < UInt32.size) (inv : Invariant state)
    (serviceId methodId : UInt16) (timeoutMs nowMs : UInt32) (hasCallback : Bool) :
    Invariant (state.allocate serviceId methodId timeoutMs nowMs hasCallback) := by
  rw [State.allocate]
  cases outcome : state.tracker.allocate serviceId methodId timeoutMs nowMs
      (if hasCallback then some state.log.length else none) with
  | none =>
      exact {
        unique := inv.unique
        fresh := fun handle member => Nat.lt_succ_of_lt (inv.fresh handle member)
        distinct := inv.distinct
        balance := inv.balance
        filed := inv.filed.later .refused
        entered := by
          intro handle departure rc payload table past suffix
          rcases List.suffix_cons_iff.mp suffix with equal | earlier
          · cases equal
          · exact inv.entered handle departure rc payload table past earlier }
  | some result =>
      obtain ⟨rid, tracker⟩ := result
      have filed := inv.filed.allocate outcome
      have pendingAfter := pending_allocate outcome
      have entered : ∀ handle departure rc payload table past,
          (.invoked handle departure rc payload table :: past) <:+
            .allocated state.log.length rid hasCallback :: state.log →
          Entered handle departure rc payload table past := by
        intro handle departure rc payload table past suffix
        rcases List.suffix_cons_iff.mp suffix with equal | earlier
        · cases equal
        · exact inv.entered handle departure rc payload table past earlier
      cases hasCallback with
      | false =>
          exact {
            unique := inv.unique.allocate bounded outcome
            fresh := fun handle member => Nat.lt_succ_of_lt (inv.fresh handle member)
            distinct := inv.distinct
            balance := inv.balance.trans (pendingAfter.symm.append_left _)
            filed := filed
            entered := entered }
      | true =>
          have issued : allocatedHandles (.allocated state.log.length rid true :: state.log) =
              state.log.length :: allocatedHandles state.log := rfl
          exact {
            unique := inv.unique.allocate bounded outcome
            fresh := by
              intro handle member
              rcases List.mem_cons.mp (issued ▸ member) with rfl | earlier
              · exact Nat.lt_succ_self _
              · exact Nat.lt_succ_of_lt (inv.fresh handle earlier)
            distinct := by
              rw [issued]
              exact List.nodup_cons.mpr
                ⟨fun member => absurd (inv.fresh _ member) (Nat.lt_irrefl _), inv.distinct⟩
            balance := by
              have middle : (state.log.length ::
                  (invokedHandles state.log ++ state.tracker.pending)).Perm
                  (invokedHandles state.log ++ state.log.length :: state.tracker.pending) :=
                List.perm_middle.symm
              rw [issued]
              exact (inv.balance.cons _).trans
                (middle.trans (pendingAfter.symm.append_left _))
            filed := filed
            entered := entered }

/-- Letting an entry go keeps the invariant, provided its callback's body does. -/
theorem finish (inv : Invariant state) {departure : Departure} {rc : ReturnCode}
    {payload : Bytes} (delivers : departure.delivers rc payload)
    {body : State cfg → State cfg} (keeps : ∀ state, Invariant state → Invariant (body state))
    {slot : Fin cfg.maxPendingRequests}
    (active : (state.tracker.entries slot).active = true)
    (ends : departure.ends (state.tracker.entries slot).requestId) :
    Invariant (finish State.trackerLens (State.invoke departure body) slot rc payload
      state) := by
  have released := pending_release state.tracker active
  have unique := inv.unique.release slot
  simp only [RequestTracker.finish, Lens.modify, State.trackerLens]
  cases held : (state.tracker.entries slot).callback with
  | none =>
      rw [held] at released
      exact {
        unique := unique
        fresh := inv.fresh
        distinct := inv.distinct
        balance := inv.balance.trans (released.append_left _)
        filed := inv.filed.release slot
        entered := inv.entered }
  | some handle =>
      rw [held] at released
      have left : (allocatedHandles state.log).Perm
          (invokedHandles state.log ++ handle :: (state.tracker.release slot).pending) :=
        inv.balance.trans (released.append_left _)
      apply keeps
      exact {
        unique := unique
        fresh := fun other member => Nat.lt_succ_of_lt (inv.fresh other member)
        distinct := inv.distinct
        balance := left.trans List.perm_middle
        filed := (inv.filed.release slot).later _
        entered := by
          intro other otherDeparture otherRc otherPayload table past suffix
          rcases List.suffix_cons_iff.mp suffix with equal | earlier
          · cases equal
            exact ⟨delivers, unique, left, _, inv.filed slot handle active held, ends⟩
          · exact inv.entered _ _ _ _ _ _ earlier }

theorem complete (inv : Invariant state) {requestId : UInt32} {rc : ReturnCode}
    {payload : Bytes} {body : State cfg → State cfg}
    (keeps : ∀ state, Invariant state → Invariant (body state)) :
    Invariant (complete State.trackerLens
      (State.invoke (.completed requestId rc payload) body) requestId rc payload state).2 := by
  rw [RequestTracker.complete]
  cases found : (State.trackerLens.get state).findActive requestId with
  | none => exact inv
  | some slot =>
      have delivers : (Departure.completed requestId rc payload).delivers rc payload :=
        ⟨rfl, rfl⟩
      obtain ⟨active, named⟩ := findActive_spec found
      exact inv.finish delivers keeps active named

/-- Induction on the script; the nested callback's body is a subscript. -/
theorem script (bounded : cfg.maxPendingRequests < UInt32.size) (script : Script) :
    ∀ state : State cfg, Invariant state → Invariant (script.run state) := by
  induction script with
  | done => exact fun _ inv => inv
  | allocate serviceId methodId timeoutMs nowMs hasCallback rest ih =>
      exact fun _ inv =>
        ih _ (inv.allocate bounded serviceId methodId timeoutMs nowMs hasCallback)
  | complete requestId rc payload callback rest callbackIh restIh =>
      exact fun _ inv => restIh _ (inv.complete callbackIh)

/-- The eviction loop keeps the invariant whatever callbacks do to slots it has
yet to visit. -/
theorem evictExpired (inv : Invariant state) (nowMs : UInt32)
    {body : State cfg → State cfg} (keeps : ∀ state, Invariant state → Invariant (body state)) :
    Invariant (evictExpired State.trackerLens (State.invoke (.evicted nowMs) body)
      nowMs state) := by
  rw [RequestTracker.evictExpired]
  induction List.finRange cfg.maxPendingRequests generalizing state with
  | nil => exact inv
  | cons slot rest ih =>
      apply ih
      rw [evictSlot]
      split
      · next expired =>
          rw [Bool.and_eq_true] at expired
          have delivers : (Departure.evicted nowMs).delivers .eTimeout [] := ⟨rfl, rfl⟩
          exact inv.finish delivers keeps expired.1 trivial
      · exact inv

theorem step (bounded : cfg.maxPendingRequests < UInt32.size) (inv : Invariant state)
    (call : Call) : Invariant (step react state call) := by
  have keeps : ∀ state, Invariant state → Invariant (reaction react state) :=
    fun state => Invariant.script bounded (react state.log) state
  cases call with
  | allocate serviceId methodId timeoutMs nowMs hasCallback =>
      exact inv.allocate bounded serviceId methodId timeoutMs nowMs hasCallback
  | complete requestId rc payload => exact inv.complete keeps
  | evictExpired nowMs => exact inv.evictExpired nowMs keeps

end Invariant

theorem invariant_run (bounded : cfg.maxPendingRequests < UInt32.size) (calls : List Call) :
    Invariant (run react calls) := by
  have keeps : ∀ state, Invariant state → Invariant (calls.foldl (step react) state) := by
    induction calls with
    | nil => exact fun _ inv => inv
    | cons call rest ih => exact fun _ inv => ih _ (inv.step react bounded call)
  exact keeps _ invariant_initial

/-! ## One callback per request -/

/-- In every run ids of active entries are distinct, allocation fails exactly on a full table and
else stores the callback under the id it returns, and `complete` finds a request exactly if one is
stored under the id it is given.  Every allocation with a callback is, at any time, either still
in the table or has had its callback invoked, never both and never twice; the callback is entered
when its entry has just left the table, with the code and payload the departure prescribes and,
if it is `complete`, under the id `allocate` has returned for it. -/
theorem one_callback_per_request (bounded : cfg.maxPendingRequests < UInt32.size)
    (calls : List Call) :
    (run react calls).tracker.UniqueIds ∧
    (∀ serviceId methodId timeoutMs nowMs callback,
      ((run react calls).tracker.allocate serviceId methodId timeoutMs nowMs callback = none ↔
        (run react calls).tracker.activeCount = cfg.maxPendingRequests) ∧
      ∀ requestId after, (run react calls).tracker.allocate serviceId methodId timeoutMs nowMs
          callback = some (requestId, after) →
        ∃ slot entry, ((run react calls).tracker.entries slot).active = false ∧
          entry.requestId = requestId ∧ entry.callback = callback ∧ entry.active = true ∧
          after.entries = Function.update (run react calls).tracker.entries slot entry) ∧
    (∀ requestId rc payload body,
      (complete State.trackerLens (State.invoke (.completed requestId rc payload) body) requestId
          rc payload (run react calls)).1 = true ↔
        ∃ slot, ((run react calls).tracker.entries slot).active = true ∧
          ((run react calls).tracker.entries slot).requestId = requestId) ∧
    (allocatedHandles (run react calls).log).Nodup ∧
    (allocatedHandles (run react calls).log).Perm
      (invokedHandles (run react calls).log ++ (run react calls).tracker.pending) ∧
    ∀ handle departure rc payload table past,
      (.invoked handle departure rc payload table :: past) <:+ (run react calls).log →
        departure.delivers rc payload ∧ table.UniqueIds ∧
        (allocatedHandles past).Perm (invokedHandles past ++ handle :: table.pending) ∧
        ∃ requestId, .allocated handle requestId true ∈ past ∧ departure.ends requestId := by
  have inv := invariant_run react bounded calls
  refine ⟨inv.unique, ?_, ?_, inv.distinct, inv.balance, inv.entered⟩
  · intro serviceId methodId timeoutMs nowMs callback
    refine ⟨allocate_eq_none_iff _ serviceId methodId timeoutMs nowMs callback, ?_⟩
    intro requestId after allocated
    obtain ⟨-, slot, entry, free, stored, -, -, held, active, rfl⟩ := allocate_spec allocated
    exact ⟨slot, entry, free, stored, held, active, rfl⟩
  · intro requestId rc payload body
    exact complete_finds_iff _ _ requestId rc payload _

/-- A request that times out. -/
theorem one_callback_after_timeout :
    let final : State embeddedConfig := run (fun _ => .done)
      [.allocate 0x1000 1 100 0 true, .evictExpired 200]
    invokedHandles final.log = [0] ∧
      (allocatedHandles final.log).Perm
        (invokedHandles final.log ++ final.tracker.pending) :=
  ⟨by decide +kernel, (one_callback_per_request _ (by decide) _).2.2.2.2.1⟩

end Sero.PendingRequests
