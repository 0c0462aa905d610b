import Sero.Core.Clock
import Sero.Library.TableRelation
import Sero.Service.Diagnostics
import Sero.Service.EventManager
import Sero.Service.RequestTracker
import Sero.Service.ServiceDiscovery

/-!
# Components on a shifted clock

Every component keeps the moments it was given and compares them with the current one.
On a clock that differs by a constant it keeps the moments that differ by the same
constant and comes to the same decisions: its operations commute with the shift.
-/

namespace Sero

open Library

variable {n : Nat} {cfg : Config n}

/-! ## Subscribers -/

def Subscriber.shift (offset : UInt32) (subscriber : Subscriber n) : Subscriber n :=
  { subscriber with expiryMs := subscriber.expiryMs + offset }

def EventSlot.shift (offset : UInt32) (slot : EventSlot n) : EventSlot n :=
  { slot with subscribers := slot.subscribers.map (Subscriber.shift offset) }

namespace EventManager

def shift (offset : UInt32) (manager : EventManager cfg) : EventManager cfg where
  events := manager.events.map (EventSlot.shift offset)

variable (offset : UInt32) (manager : EventManager cfg) (serviceId eventId clientId : UInt16)

theorem findEvent_shift : (manager.shift offset).findEvent serviceId eventId =
    (manager.findEvent serviceId eventId).map (EventSlot.shift offset) :=
  Table.find?_map (fun _ => rfl) manager.events

theorem setSubscribers_shift (subscribers : List (Subscriber n)) :
    (manager.shift offset).setSubscribers serviceId eventId
        (subscribers.map (Subscriber.shift offset)) =
      (manager.setSubscribers serviceId eventId subscribers).shift offset := by
  have written : Table.updateFirst (holds serviceId eventId)
      (fun slot : EventSlot n =>
        { slot with subscribers := subscribers.map (Subscriber.shift offset) })
      (manager.events.map (EventSlot.shift offset)) =
      (Table.updateFirst (holds serviceId eventId)
        (fun slot : EventSlot n => { slot with subscribers }) manager.events).map
          (EventSlot.shift offset) := by
    apply Table.updateFirst_map
    · intro slot
      rfl
    · intro slot
      rfl
  exact congrArg EventManager.mk written

theorem registerEvent_shift : (manager.shift offset).registerEvent serviceId eventId =
    (manager.registerEvent serviceId eventId).map id (shift offset) := by
  rw [registerEvent, registerEvent, findEvent_shift, Option.isSome_map]
  have count : (manager.shift offset).events.length = manager.events.length :=
    List.length_map _
  rw [count]
  split
  · rfl
  · split
    · simp [shift, EventSlot.shift]
    · rfl

theorem subscribe_shift (addr : Address n) (ttlSeconds : UInt16) (nowMs : UInt32) :
    (manager.shift offset).subscribe serviceId eventId clientId addr ttlSeconds
        (nowMs + offset) =
      (manager.subscribe serviceId eventId clientId addr ttlSeconds nowMs).map id
        (shift offset) := by
  rw [subscribe, subscribe, findEvent_shift]
  cases manager.findEvent serviceId eventId with
  | none => rfl
  | some slot =>
      have tests : ∀ subscriber : Subscriber n,
          ((subscriber.shift offset).clientId == clientId) =
            (subscriber.clientId == clientId) := fun _ => rfl
      simp only [Option.map_some, EventSlot.shift, expiry_eq]
      rw [Table.any_map tests, List.length_map, add_shift nowMs]
      split
      · let expiryMs := nowMs + (grantedTtl cfg ttlSeconds).toUInt32 * 1000
        have renewed : Table.updateFirst (fun subscriber => subscriber.clientId == clientId)
            (fun subscriber : Subscriber n =>
              { subscriber with addr, expiryMs := expiryMs + offset })
            (slot.subscribers.map (Subscriber.shift offset)) =
            (Table.updateFirst (fun subscriber => subscriber.clientId == clientId)
              (fun subscriber : Subscriber n => { subscriber with addr, expiryMs })
              slot.subscribers).map (Subscriber.shift offset) := by
          apply Table.updateFirst_map tests
          intro subscriber
          rfl
        rw [renewed, setSubscribers_shift]
        rfl
      · split
        · have added := setSubscribers_shift offset manager serviceId eventId
            (slot.subscribers ++ [{
              clientId, addr
              expiryMs := nowMs + (grantedTtl cfg ttlSeconds).toUInt32 * 1000 }])
          rw [List.map_append] at added
          exact congrArg (Prod.mk ReturnCode.eOk) added
        · rfl

theorem unsubscribe_shift : (manager.shift offset).unsubscribe serviceId eventId clientId =
    (manager.unsubscribe serviceId eventId clientId).shift offset := by
  rw [unsubscribe, unsubscribe, findEvent_shift]
  cases manager.findEvent serviceId eventId with
  | none => rfl
  | some slot =>
      have tests : ∀ subscriber : Subscriber n,
          ((subscriber.shift offset).clientId == clientId) =
            (subscriber.clientId == clientId) := fun _ => rfl
      simp only [Option.map_some, EventSlot.shift]
      rw [Table.swapRemove_map tests, setSubscribers_shift]

theorem evictLoop_shift (nowMs : UInt32) (fuel : Nat) (subscribers : List (Subscriber n)) :
    evictLoop (nowMs + offset) fuel (subscribers.map (Subscriber.shift offset)) =
      (evictLoop nowMs fuel subscribers).map (Subscriber.shift offset) := by
  induction fuel generalizing subscribers with
  | zero => rfl
  | succ fuel ih =>
      cases subscribers with
      | nil => rfl
      | cons subscriber rest =>
          have expires : timeAfter (nowMs + offset) (subscriber.shift offset).expiryMs =
              timeAfter nowMs subscriber.expiryMs := timeAfter_shift ..
          rw [List.map_cons, evictLoop, evictLoop, expires, List.getLast?_map, ih]
          split
          · cases rest.getLast? with
            | none => rfl
            | some last =>
                rw [Option.map_some]
                dsimp only
                rw [← ih, List.map_cons, List.map_dropLast]
          · rfl

theorem evictExpired_shift (nowMs : UInt32) :
    (manager.shift offset).evictExpired (nowMs + offset) =
      (manager.evictExpired nowMs).shift offset := by
  rw [evictExpired, evictExpired, shift, shift, List.map_map, List.map_map]
  congr 2
  funext slot
  simp only [Function.comp_apply, EventSlot.shift, evictLoop_shift, List.length_map]
  split <;> rfl

theorem notify_shift :
    (manager.shift offset).notify serviceId eventId = manager.notify serviceId eventId := by
  rw [notify, notify, findEvent_shift]
  cases manager.findEvent serviceId eventId with
  | none => rfl
  | some slot =>
      simp only [Option.map_some, EventSlot.shift, List.map_map]
      rfl

theorem hasSubscribers_shift : (manager.shift offset).hasSubscribers serviceId eventId =
    manager.hasSubscribers serviceId eventId := by
  rw [hasSubscribers, hasSubscribers, findEvent_shift]
  cases manager.findEvent serviceId eventId with
  | none => rfl
  | some slot => simp only [Option.map_some, EventSlot.shift, List.isEmpty_map]

end EventManager

/-! ## Pending requests -/

section Requests

variable {κ : Type}

/-- A free slot keeps no moment. -/
def PendingEntry.shift (offset : UInt32) (entry : PendingEntry κ) : PendingEntry κ :=
  if entry.active then { entry with deadlineMs := entry.deadlineMs + offset } else entry

theorem PendingEntry.shift_same (offset : UInt32) (entry : PendingEntry κ) :
    (entry.shift offset).active = entry.active ∧
      (entry.shift offset).requestId = entry.requestId ∧
      (entry.shift offset).callback = entry.callback := by
  rw [PendingEntry.shift]
  split <;> exact ⟨rfl, rfl, rfl⟩

namespace RequestTracker

def shift (offset : UInt32) (tracker : RequestTracker cfg κ) : RequestTracker cfg κ :=
  { tracker with entries := fun slot => (tracker.entries slot).shift offset }

variable (offset : UInt32) (tracker : RequestTracker cfg κ)

theorem active_shift (slot : Fin cfg.maxPendingRequests) :
    ((tracker.shift offset).entries slot).active = (tracker.entries slot).active :=
  ((tracker.entries slot).shift_same offset).1

theorem requestId_shift (slot : Fin cfg.maxPendingRequests) :
    ((tracker.shift offset).entries slot).requestId = (tracker.entries slot).requestId :=
  ((tracker.entries slot).shift_same offset).2.1

theorem callback_shift (slot : Fin cfg.maxPendingRequests) :
    ((tracker.shift offset).entries slot).callback = (tracker.entries slot).callback :=
  ((tracker.entries slot).shift_same offset).2.2

theorem firstFree_shift : (tracker.shift offset).firstFree = tracker.firstFree := by
  simp only [firstFree, active_shift]

theorem findActive_shift (requestId : UInt32) :
    (tracker.shift offset).findActive requestId = tracker.findActive requestId := by
  simp only [findActive, active_shift, requestId_shift]

theorem probeId_shift (attempts : Nat) (rid : UInt32) :
    (tracker.shift offset).probeId attempts rid = tracker.probeId attempts rid := by
  have used : ∀ rid, (tracker.shift offset).idInUse rid = tracker.idInUse rid := by
    intro rid
    simp only [idInUse, active_shift, requestId_shift]
  induction attempts generalizing rid with
  | zero => rfl
  | succ attempts ih => rw [probeId, probeId, used, ih]

/-- Writing a slot of a shifted table. -/
theorem shift_write (slot : Fin cfg.maxPendingRequests) (entry : PendingEntry κ)
    (nextRequestId : UInt32) :
    shift offset
        { entries := Function.update tracker.entries slot entry
          nextRequestId : RequestTracker cfg κ } =
      { entries := Function.update (tracker.shift offset).entries slot (entry.shift offset)
        nextRequestId } := by
  apply congrArg (fun entries => RequestTracker.mk entries nextRequestId)
  funext other
  dsimp only
  by_cases same : other = slot
  · rw [same, Function.update_self, Function.update_self]
  · rw [Function.update_of_ne same, Function.update_of_ne same]
    rfl

theorem allocate_shift (serviceId methodId : UInt16) (timeoutMs nowMs : UInt32)
    (callback : Option κ) :
    (tracker.shift offset).allocate serviceId methodId timeoutMs (nowMs + offset) callback =
      (tracker.allocate serviceId methodId timeoutMs nowMs callback).map
        (Prod.map id (shift offset)) := by
  rw [allocate, allocate, firstFree_shift]
  cases tracker.firstFree with
  | none => rfl
  | some slot =>
      have next : (tracker.shift offset).nextRequestId = tracker.nextRequestId := rfl
      simp only [Option.map_some, Prod.map_apply, id_eq, probeId_shift, next]
      rw [shift_write, PendingEntry.shift, if_pos rfl, add_shift]

theorem release_shift (slot : Fin cfg.maxPendingRequests) :
    (tracker.shift offset).release slot = (tracker.release slot).shift offset :=
  (shift_write offset tracker slot {} tracker.nextRequestId).symm

theorem expires_shift (slot : Fin cfg.maxPendingRequests) (nowMs : UInt32) :
    (((tracker.shift offset).entries slot).active &&
        timeAfter (nowMs + offset) ((tracker.shift offset).entries slot).deadlineMs) =
      ((tracker.entries slot).active && timeAfter nowMs (tracker.entries slot).deadlineMs) := by
  rw [active_shift]
  cases active : (tracker.entries slot).active with
  | false => rw [Bool.false_and, Bool.false_and]
  | true =>
      have entry : (tracker.shift offset).entries slot = { tracker.entries slot with
          deadlineMs := (tracker.entries slot).deadlineMs + offset } := if_pos active
      rw [entry, timeAfter_shift]

end RequestTracker

end Requests

/-! ## Trouble codes -/

def Dtc.shift (offset : UInt32) (dtc : Dtc) : Dtc :=
  { dtc with
    firstSeenMs := dtc.firstSeenMs + offset
    lastSeenMs := dtc.lastSeenMs + offset }

namespace DtcStore

def shift (offset : UInt32) (store : DtcStore cfg) : DtcStore cfg where
  dtcs := store.dtcs.map (Dtc.shift offset)

variable (offset : UInt32) (store : DtcStore cfg)

theorem holds_shift (code : UInt16) (dtc : Dtc) :
    holds code (dtc.shift offset) = holds code dtc := rfl

theorem report_shift (code : UInt16) (severity : DtcSeverity) (nowMs : UInt32) :
    (store.shift offset).report code severity (nowMs + offset) =
      (store.report code severity nowMs).map id (shift offset) := by
  let count := fun dtc : Dtc =>
    if dtc.occurrenceCount < 0xFFFFFFFF then dtc.occurrenceCount + 1 else dtc.occurrenceCount
  have updated : Table.updateFirst (holds code)
      (fun dtc : Dtc => { dtc with
        severity := severity.toByte
        occurrenceCount := count dtc
        lastSeenMs := nowMs + offset }) (store.dtcs.map (Dtc.shift offset)) =
      (Table.updateFirst (holds code)
        (fun dtc : Dtc => { dtc with
          severity := severity.toByte
          occurrenceCount := count dtc
          lastSeenMs := nowMs }) store.dtcs).map (Dtc.shift offset) := by
    apply Table.updateFirst_map (holds_shift offset code)
    intro dtc
    rfl
  rw [report, report, shift, Table.any_map (holds_shift offset code), List.length_map]
  split
  · exact congrArg (fun dtcs => (true, DtcStore.mk dtcs)) updated
  · split
    · simp [shift, Dtc.shift]
    · rfl

theorem clear_shift (code : UInt16) :
    (store.shift offset).clear code = (store.clear code).map id (shift offset) := by
  rw [clear, clear, shift, Table.any_map (holds_shift offset code),
    Table.swapRemove_map (holds_shift offset code)]
  split <;> rfl

end DtcStore

/-- A reply that lists trouble codes. -/
def dtcReply (dtcs : List Dtc) : Bytes :=
  writeU16 (UInt16.ofNat dtcs.length) ++ (dtcs.map DiagnosticsService.dtcRecord).flatten

/-- What a method writes on both clocks: the same, or a list of trouble codes with their
stamps. -/
inductive WrittenLater (offset : UInt32) (methodId : UInt16) : Bytes → Bytes → Prop where
  | same (written : Bytes) : WrittenLater offset methodId written written
  | dtcs (method : methodId = 0x0001) (dtcs : List Dtc) :
      WrittenLater offset methodId (dtcReply dtcs) (dtcReply (dtcs.map (Dtc.shift offset)))

structure DiagResult.Later (offset : UInt32) (methodId : UInt16)
    (result later : DiagResult cfg) : Prop where
  code : later.code = result.code
  responseLength : later.responseLength = result.responseLength
  written : WrittenLater offset methodId result.written later.written
  dtcStore : later.dtcStore = result.dtcStore.shift offset

namespace DiagnosticsService

/-- Which records fit depends on how many there are, not on what they hold. -/
theorem fitting_map {α : Type} (capacity recordSize offset : Nat) (entries : List α) :
    ∃ kept : List α, ∀ record : α → Bytes,
      fitting capacity recordSize offset (entries.map record) = kept.map record := by
  induction entries generalizing offset with
  | nil => exact ⟨[], fun _ => rfl⟩
  | cons entry rest ih =>
      by_cases full : capacity < offset + recordSize
      · obtain ⟨kept, fits⟩ := ih offset
        refine ⟨kept, ?_⟩
        intro record
        rw [List.map_cons, fitting, if_pos full, fits]
      · obtain ⟨kept, fits⟩ := ih (offset + recordSize)
        refine ⟨entry :: kept, ?_⟩
        intro record
        rw [List.map_cons, fitting, if_neg full, fits, List.map_cons]

variable (offset : UInt32) (store : DtcStore cfg)

theorem handleGetDtcs_shift (capacity : Nat) :
    DiagResult.Later offset 0x0001 (handleGetDtcs capacity store)
      (handleGetDtcs capacity (store.shift offset)) := by
  obtain ⟨kept, fits⟩ := fitting_map capacity 16 2 (store.dtcs.filter Dtc.active)
  have active : (store.shift offset).dtcs.filter Dtc.active =
      (store.dtcs.filter Dtc.active).map (Dtc.shift offset) := List.filter_map
  have shifted := fits (dtcRecord ∘ Dtc.shift offset)
  rw [handleGetDtcs, handleGetDtcs, active, List.map_map, listReply, listReply]
  split
  · exact ⟨rfl, rfl, .same _, rfl⟩
  · have reply := @WrittenLater.dtcs offset 0x0001 rfl kept
    rw [fits, shifted]
    refine ⟨rfl, by simp, ?_, rfl⟩
    simpa [dtcReply] using reply

theorem handleClearDtcs_shift (methodId : UInt16) (payload : Bytes) :
    DiagResult.Later offset methodId (handleClearDtcs payload store)
      (handleClearDtcs payload (store.shift offset)) := by
  rw [handleClearDtcs, handleClearDtcs]
  split
  · exact ⟨rfl, rfl, .same _, rfl⟩
  · dsimp only
    split
    · exact ⟨rfl, rfl, .same _, rfl⟩
    · rw [DtcStore.clear_shift]
      rcases store.clear (readU16 payload 0) with ⟨ok, cleared⟩
      cases ok with
      | false => exact ⟨rfl, rfl, .same _, rfl⟩
      | true => exact ⟨rfl, rfl, .same _, rfl⟩

/-- Only the list of trouble codes shows the clock. -/
theorem onRequest_shift (service : DiagnosticsService) (counters : DiagnosticCounters)
    (dispatcher : MethodDispatcher cfg) (isReady : ServiceContext → Bool) (uptimeMs : UInt32)
    (methodId : UInt16) (payload : Bytes) (capacity : Nat) :
    DiagResult.Later offset methodId
      (service.onRequest counters dispatcher isReady uptimeMs methodId payload capacity store)
      (service.onRequest counters dispatcher isReady uptimeMs methodId payload capacity
        (store.shift offset)) := by
  rw [onRequest, onRequest]
  split
  · next method =>
      rw [method]
      exact handleGetDtcs_shift offset store capacity
  · split
    · exact handleClearDtcs_shift offset store methodId payload
    · split
      · rw [handleGetCounters, handleGetCounters]
        split <;> exact ⟨rfl, rfl, .same _, rfl⟩
      · split
        · rw [handleGetServiceList, handleGetServiceList, listReply, listReply]
          split <;> exact ⟨rfl, rfl, .same _, rfl⟩
        · split
          · rw [handleGetDeviceInfo, handleGetDeviceInfo]
            split <;> exact ⟨rfl, rfl, .same _, rfl⟩
          · exact ⟨rfl, rfl, .same _, rfl⟩

end DiagnosticsService

end Sero
