import Sero.Core.Types
import Sero.Library.Lens
import Sero.Library.Slots

/-!
# Pending requests

The table of outstanding requests.  A callback is an abstract `κ`, standing for
a function pointer together with its user context.  `complete` and
`evictExpired` hand control to that callback in the middle of their work, so
they act on a surrounding state `σ` that contains the table: whatever `invoke`
does to the table is seen when they resume.
-/

namespace Sero

open Library

variable {n : Nat} {κ : Type}

structure PendingEntry (κ : Type) where
  requestId : UInt32 := 0
  serviceId : UInt16 := 0
  methodId : UInt16 := 0
  deadlineMs : UInt32 := 0
  callback : Option κ := none
  active : Bool := false

structure RequestTracker (cfg : Config n) (κ : Type) where
  entries : Fin cfg.maxPendingRequests → PendingEntry κ := fun _ => {}
  nextRequestId : UInt32 := 1

namespace RequestTracker

variable {cfg : Config n}

/-! ## Allocation -/

/-- The `collision` flag of the probing loop. -/
def idInUse (tracker : RequestTracker cfg κ) (rid : UInt32) : Bool :=
  (List.finRange cfg.maxPendingRequests).any fun slot =>
    (tracker.entries slot).active && (tracker.entries slot).requestId == rid

/-- The probing loop: step past ids in use, at most `attempts` times. -/
def probeId (tracker : RequestTracker cfg κ) : (attempts : Nat) → UInt32 → UInt32
  | 0, rid => rid
  | attempts + 1, rid =>
      if tracker.idInUse rid then probeId tracker attempts (rid + 1) else rid

def firstFree (tracker : RequestTracker cfg κ) : Option (Fin cfg.maxPendingRequests) :=
  (List.finRange cfg.maxPendingRequests).find? fun slot =>
    !(tracker.entries slot).active

/-- Allocate a slot and a request id; `none` when the table is full. -/
def allocate (tracker : RequestTracker cfg κ) (serviceId methodId : UInt16)
    (timeoutMs nowMs : UInt32) (callback : Option κ) :
    Option (UInt32 × RequestTracker cfg κ) :=
  match tracker.firstFree with
  | none => none
  | some slot =>
      let rid := tracker.probeId cfg.maxPendingRequests tracker.nextRequestId
      let entry : PendingEntry κ := {
        requestId := rid
        serviceId
        methodId
        deadlineMs := nowMs + (if timeoutMs > 0 then timeoutMs else cfg.requestTimeoutMs)
        callback
        active := true }
      some (rid, {
        entries := Function.update tracker.entries slot entry
        nextRequestId := rid + 1 })

/-! ## Completion and eviction -/

/-- `entries_[slot] = PendingEntry{}`. -/
def release (tracker : RequestTracker cfg κ) (slot : Fin cfg.maxPendingRequests) :
    RequestTracker cfg κ :=
  { tracker with entries := Function.update tracker.entries slot {} }

def findActive (tracker : RequestTracker cfg κ) (requestId : UInt32) :
    Option (Fin cfg.maxPendingRequests) :=
  (List.finRange cfg.maxPendingRequests).find? fun slot =>
    (tracker.entries slot).active && (tracker.entries slot).requestId == requestId

section Callbacks

variable {σ : Type} (lens : Lens σ (RequestTracker cfg κ))
  (invoke : κ → ReturnCode → Bytes → σ → σ)

/-- Free the slot, then invoke the callback it held. -/
def finish (slot : Fin cfg.maxPendingRequests) (rc : ReturnCode) (payload : Bytes)
    (state : σ) : σ :=
  let entry := (lens.get state).entries slot
  let state := lens.modify (fun tracker => tracker.release slot) state
  match entry.callback with
  | none => state
  | some callback => invoke callback rc payload state

/-- Complete the request with this id; reports whether there was one. -/
def complete (requestId : UInt32) (rc : ReturnCode) (payload : Bytes) (state : σ) :
    Bool × σ :=
  match (lens.get state).findActive requestId with
  | none => (false, state)
  | some slot => (true, finish lens invoke slot rc payload state)

/-- One turn of the eviction loop. -/
def evictSlot (nowMs : UInt32) (state : σ) (slot : Fin cfg.maxPendingRequests) : σ :=
  let entry := (lens.get state).entries slot
  if entry.active && timeAfter nowMs entry.deadlineMs then
    finish lens invoke slot .eTimeout [] state
  else state

def evictExpired (nowMs : UInt32) (state : σ) : σ :=
  (List.finRange cfg.maxPendingRequests).foldl (evictSlot lens invoke nowMs) state

end Callbacks

/-- Completing one request keeps two states in relation when its callback does. -/
theorem complete_alike {σ τ : Type} {related : σ → τ → Prop}
    {left : Lens σ (RequestTracker cfg κ)} {right : Lens τ (RequestTracker cfg κ)}
    (alike : Lens.Alike related left right) {invokeLeft : κ → ReturnCode → Bytes → σ → σ}
    {invokeRight : κ → ReturnCode → Bytes → τ → τ} {rc : ReturnCode} {payload : Bytes}
    (invokes : ∀ callback first second, related first second →
      related (invokeLeft callback rc payload first) (invokeRight callback rc payload second))
    (requestId : UInt32) {first : σ} {second : τ} (holds : related first second) :
    related (complete left invokeLeft requestId rc payload first).2
      (complete right invokeRight requestId rc payload second).2 := by
  rw [complete, complete, alike.get holds]
  cases (right.get second).findActive requestId with
  | none => exact holds
  | some slot =>
      have released := alike.modify holds fun tracker => tracker.release slot
      simp only [finish, alike.get holds]
      cases ((right.get second).entries slot).callback with
      | none => exact released
      | some callback => exact invokes callback _ _ released

def activeCount (tracker : RequestTracker cfg κ) : Nat :=
  (List.finRange cfg.maxPendingRequests).countP fun slot =>
    (tracker.entries slot).active

/-! ## What the operations do to the table -/

/-- Active entries carry pairwise distinct ids. -/
def UniqueIds (tracker : RequestTracker cfg κ) : Prop :=
  ∀ left right, (tracker.entries left).active = true →
    (tracker.entries right).active = true →
    (tracker.entries left).requestId = (tracker.entries right).requestId → left = right

/-- The callback a slot still owes. -/
def owed (tracker : RequestTracker cfg κ) (slot : Fin cfg.maxPendingRequests) : Option κ :=
  if (tracker.entries slot).active then (tracker.entries slot).callback else none

/-- The callbacks of all active entries. -/
def pending (tracker : RequestTracker cfg κ) : List κ :=
  Slots.held tracker.owed

theorem idInUse_iff (tracker : RequestTracker cfg κ) (rid : UInt32) :
    tracker.idInUse rid = true ↔
      ∃ slot, (tracker.entries slot).active = true ∧
        (tracker.entries slot).requestId = rid := by
  simp [idInUse, List.any_eq_true]

theorem firstFree_eq_none (tracker : RequestTracker cfg κ) :
    tracker.firstFree = none ↔ ∀ slot, (tracker.entries slot).active = true := by
  simp [firstFree, List.find?_eq_none]

theorem firstFree_inactive {tracker : RequestTracker cfg κ}
    {slot : Fin cfg.maxPendingRequests} (found : tracker.firstFree = some slot) :
    (tracker.entries slot).active = false := by
  simpa using List.find?_some found

theorem findActive_spec {tracker : RequestTracker cfg κ} {requestId : UInt32}
    {slot : Fin cfg.maxPendingRequests}
    (found : tracker.findActive requestId = some slot) :
    (tracker.entries slot).active = true ∧
      (tracker.entries slot).requestId = requestId := by
  simpa using List.find?_some found

/-- Completing finds a request exactly if one is stored under the id. -/
theorem complete_finds_iff {σ : Type} (lens : Lens σ (RequestTracker cfg κ))
    (invoke : κ → ReturnCode → Bytes → σ → σ) (requestId : UInt32) (rc : ReturnCode)
    (payload : Bytes) (state : σ) :
    (complete lens invoke requestId rc payload state).1 = true ↔
      ∃ slot, ((lens.get state).entries slot).active = true ∧
        ((lens.get state).entries slot).requestId = requestId := by
  rw [complete]
  cases found : (lens.get state).findActive requestId with
  | none =>
      refine iff_of_false Bool.false_ne_true ?_
      rintro ⟨slot, active, stored⟩
      have absent := List.find?_eq_none.mp found slot (List.mem_finRange slot)
      simp [active, stored] at absent
  | some slot => exact iff_of_true rfl ⟨slot, findActive_spec found⟩

/-- The table is full exactly when allocation fails. -/
theorem allocate_eq_none_iff (tracker : RequestTracker cfg κ)
    (serviceId methodId : UInt16) (timeoutMs nowMs : UInt32) (callback : Option κ) :
    tracker.allocate serviceId methodId timeoutMs nowMs callback = none ↔
      tracker.activeCount = cfg.maxPendingRequests := by
  have counted : tracker.activeCount = cfg.maxPendingRequests ↔
      ∀ slot, (tracker.entries slot).active = true := by
    have whole := List.countP_eq_length (l := List.finRange cfg.maxPendingRequests)
      (p := fun slot => (tracker.entries slot).active)
    simpa [activeCount] using whole
  rw [counted, ← firstFree_eq_none, allocate]
  cases tracker.firstFree <;> simp

/-- If probing ends on an id in use then every id it looked at was in use. -/
theorem probeId_exhausted (tracker : RequestTracker cfg κ) {attempts : Nat}
    {rid : UInt32} (collides : tracker.idInUse (tracker.probeId attempts rid) = true) :
    ∀ step < attempts, tracker.idInUse (rid + UInt32.ofNat step) = true := by
  induction attempts generalizing rid with
  | zero => intro step bound; omega
  | succ attempts ih =>
      intro step bound
      rw [probeId] at collides
      split at collides
      · next here =>
          cases step with
          | zero => simpa using here
          | succ step =>
              have later := ih collides step (by omega)
              have shift : rid + UInt32.ofNat (step + 1) =
                  rid + 1 + UInt32.ofNat step := by
                rw [UInt32.ofNat_add, UInt32.add_assoc,
                  UInt32.add_comm (UInt32.ofNat step)]
                rfl
              rwa [shift]
      · next free => exact absurd collides free

/-- With a free slot and fewer slots than ids, probing finds an unused id. -/
theorem probeId_unused (tracker : RequestTracker cfg κ)
    (bounded : cfg.maxPendingRequests < UInt32.size) {free : Fin cfg.maxPendingRequests}
    (inactive : (tracker.entries free).active = false) (rid : UInt32) :
    tracker.idInUse (tracker.probeId cfg.maxPendingRequests rid) = false := by
  by_contra collides
  have exhausted := probeId_exhausted tracker (by simpa using collides)
  let used : Fin cfg.maxPendingRequests → Option UInt32 := fun slot =>
    if (tracker.entries slot).active then some (tracker.entries slot).requestId else none
  let candidates := (List.range cfg.maxPendingRequests).map
    fun step => rid + UInt32.ofNat step
  have distinct : candidates.Nodup := by
    apply List.Nodup.map_on _ List.nodup_range
    intro left leftBound right rightBound same
    have equal := congrArg UInt32.toNat (UInt32.add_right_inj rid |>.mp same)
    simp only [UInt32.toNat_ofNat'] at equal
    rw [List.mem_range] at leftBound rightBound
    simp only [UInt32.size] at bounded
    omega
  have isFree : used free = none := by simp [used, inactive]
  obtain ⟨candidate, member, unused⟩ :=
    Slots.exists_unused used isFree distinct (by simp [candidates])
  obtain ⟨step, bound, rfl⟩ := List.mem_map.mp member
  obtain ⟨slot, active, same⟩ :=
    (idInUse_iff tracker _).mp (exhausted step (List.mem_range.mp bound))
  exact unused slot (by simp [used, active, same])

/-- What a successful allocation does: it fills a free slot under an unused id. -/
theorem allocate_spec {tracker after : RequestTracker cfg κ}
    {serviceId methodId : UInt16} {timeoutMs nowMs : UInt32} {callback : Option κ}
    {rid : UInt32}
    (allocated : tracker.allocate serviceId methodId timeoutMs nowMs callback =
      some (rid, after)) :
    rid = tracker.probeId cfg.maxPendingRequests tracker.nextRequestId ∧
    ∃ slot entry, (tracker.entries slot).active = false ∧
      entry.requestId = rid ∧ entry.serviceId = serviceId ∧
      entry.methodId = methodId ∧ entry.callback = callback ∧ entry.active = true ∧
      after = { entries := Function.update tracker.entries slot entry
                nextRequestId := rid + 1 } := by
  rw [allocate] at allocated
  cases found : tracker.firstFree with
  | none => rw [found] at allocated; cases allocated
  | some slot =>
      rw [found] at allocated
      simp only [Option.some.injEq, Prod.mk.injEq] at allocated
      obtain ⟨rfl, rfl⟩ := allocated
      exact ⟨rfl, slot, _, firstFree_inactive found, rfl, rfl, rfl, rfl, rfl, rfl⟩

theorem owed_update (tracker : RequestTracker cfg κ) (slot : Fin cfg.maxPendingRequests)
    (entry : PendingEntry κ) (next : UInt32) :
    owed { entries := Function.update tracker.entries slot entry, nextRequestId := next } =
      Function.update tracker.owed slot
        (if entry.active then entry.callback else none) := by
  funext other
  by_cases same : other = slot
  · subst same
    simp [owed]
  · simp [owed, same]

theorem pending_allocate {tracker after : RequestTracker cfg κ}
    {serviceId methodId : UInt16} {timeoutMs nowMs : UInt32} {callback : Option κ}
    {rid : UInt32}
    (allocated : tracker.allocate serviceId methodId timeoutMs nowMs callback =
      some (rid, after)) :
    after.pending.Perm (callback.toList ++ tracker.pending) := by
  obtain ⟨-, slot, entry, inactive, -, -, -, rfl, active, rfl⟩ := allocate_spec allocated
  have filled := Slots.held_update tracker.owed slot
    (if entry.active then entry.callback else none)
  have empty : tracker.owed slot = none := by simp [owed, inactive]
  rw [empty, ← owed_update tracker slot entry (rid + 1)] at filled
  simpa [pending, active] using filled

theorem pending_release (tracker : RequestTracker cfg κ)
    {slot : Fin cfg.maxPendingRequests} (active : (tracker.entries slot).active = true) :
    tracker.pending.Perm
      ((tracker.entries slot).callback.toList ++ (tracker.release slot).pending) := by
  have cleared := Slots.held_update tracker.owed slot none
  have contents : tracker.owed slot = (tracker.entries slot).callback := by
    simp [owed, active]
  have after : (tracker.release slot).owed = Function.update tracker.owed slot none :=
    owed_update tracker slot {} tracker.nextRequestId
  rw [contents, ← after] at cleared
  exact cleared.symm

theorem uniqueIds_empty : UniqueIds ({} : RequestTracker cfg κ) := by
  intro left right active
  cases active

theorem UniqueIds.allocate {tracker after : RequestTracker cfg κ}
    (unique : tracker.UniqueIds) (bounded : cfg.maxPendingRequests < UInt32.size)
    {serviceId methodId : UInt16} {timeoutMs nowMs : UInt32} {callback : Option κ}
    {rid : UInt32}
    (allocated : tracker.allocate serviceId methodId timeoutMs nowMs callback =
      some (rid, after)) : after.UniqueIds := by
  obtain ⟨ridEq, slot, entry, inactive, entryRid, -, -, -, -, rfl⟩ :=
    allocate_spec allocated
  have unused := probeId_unused tracker bounded inactive tracker.nextRequestId
  rw [← ridEq, ← Bool.not_eq_true, idInUse_iff] at unused
  intro left right leftActive rightActive same
  by_cases leftNew : left = slot <;> by_cases rightNew : right = slot
  · rw [leftNew, rightNew]
  · subst leftNew
    simp only [Function.update_self, Function.update_of_ne rightNew] at same rightActive
    exact absurd ⟨right, rightActive, same.symm.trans entryRid⟩ unused
  · subst rightNew
    simp only [Function.update_self, Function.update_of_ne leftNew] at same leftActive
    exact absurd ⟨left, leftActive, same.trans entryRid⟩ unused
  · simp only [Function.update_of_ne leftNew, Function.update_of_ne rightNew] at *
    exact unique left right leftActive rightActive same

/-- A request just allocated is found under its id. -/
theorem findActive_allocate {tracker after : RequestTracker cfg κ}
    {serviceId methodId : UInt16} {timeoutMs nowMs : UInt32} {callback : Option κ}
    {rid : UInt32}
    (allocated : tracker.allocate serviceId methodId timeoutMs nowMs callback =
      some (rid, after)) : ∃ slot, after.findActive rid = some slot := by
  obtain ⟨-, filled, entry, -, entryRid, -, -, -, active, rfl⟩ := allocate_spec allocated
  apply Option.isSome_iff_exists.mp
  rw [findActive, List.find?_isSome]
  exact ⟨filled, List.mem_finRange filled, by simp [active, entryRid]⟩

theorem release_active {tracker : RequestTracker cfg κ}
    {slot other : Fin cfg.maxPendingRequests}
    (active : ((tracker.release slot).entries other).active = true) :
    other ≠ slot ∧ (tracker.release slot).entries other = tracker.entries other := by
  have different : other ≠ slot := by
    rintro rfl
    simp [release] at active
  exact ⟨different, by simp [release, different]⟩

theorem UniqueIds.release {tracker : RequestTracker cfg κ} (unique : tracker.UniqueIds)
    (slot : Fin cfg.maxPendingRequests) : (tracker.release slot).UniqueIds := by
  intro left right leftActive rightActive same
  have leftKept := (release_active leftActive).2
  have rightKept := (release_active rightActive).2
  rw [leftKept] at leftActive same
  rw [rightKept] at rightActive same
  exact unique left right leftActive rightActive same

end RequestTracker

end Sero
