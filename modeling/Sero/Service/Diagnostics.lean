import Sero.Core.MessageHeader
import Sero.Library.Table
import Sero.Service.MethodDispatcher

/-!
# Trouble codes and the built-in diagnostics service

The service reads the components it was wired to; the only one it writes is the
trouble-code store.
-/

namespace Sero

open Library

variable {n : Nat}

/-! ## The trouble-code store -/

inductive DtcSeverity where
  | info
  | warning
  | error
  | fatal
  deriving DecidableEq, Repr

def DtcSeverity.toByte : DtcSeverity → UInt8
  | info => 0
  | warning => 1
  | error => 2
  | fatal => 3

structure Dtc where
  code : UInt16
  severity : UInt8
  active : Bool := true
  occurrenceCount : UInt32
  firstSeenMs : UInt32
  lastSeenMs : UInt32
  deriving DecidableEq, Repr

structure DtcStore (cfg : Config n) where
  dtcs : List Dtc := []

namespace DtcStore

variable {cfg : Config n}

def holds (code : UInt16) (dtc : Dtc) : Bool :=
  dtc.active && dtc.code == code

def report (store : DtcStore cfg) (code : UInt16) (severity : DtcSeverity)
    (nowMs : UInt32) : Bool × DtcStore cfg :=
  if store.dtcs.any (holds code) then
    (true, {
      dtcs := Table.updateFirst (holds code)
        (fun dtc => { dtc with
          severity := severity.toByte
          occurrenceCount :=
            if dtc.occurrenceCount < 0xFFFFFFFF then dtc.occurrenceCount + 1
            else dtc.occurrenceCount
          lastSeenMs := nowMs }) store.dtcs })
  else if store.dtcs.length < cfg.maxDtcs then
    (true, {
      dtcs := store.dtcs ++ [{
        code
        severity := severity.toByte
        occurrenceCount := 1
        firstSeenMs := nowMs
        lastSeenMs := nowMs }] })
  else (false, store)

def clear (store : DtcStore cfg) (code : UInt16) : Bool × DtcStore cfg :=
  if store.dtcs.any (holds code) then
    (true, { dtcs := Table.swapRemove (holds code) store.dtcs })
  else (false, store)

def clearAll (_ : DtcStore cfg) : DtcStore cfg where
  dtcs := []

def find (store : DtcStore cfg) (code : UInt16) : Option Dtc :=
  store.dtcs.find? (holds code)

def count (store : DtcStore cfg) : Nat :=
  store.dtcs.length

/-- The entries `for_each` passes to its function, in this order. -/
def forEach (store : DtcStore cfg) : List Dtc :=
  store.dtcs.filter Dtc.active

end DtcStore

/-! ## The service -/

/-- `wired` tells whether `init` has connected the service. -/
structure DiagnosticsService where
  wired : Bool := false
  clientId : UInt16 := 0

/-- What a handler leaves behind: its code, the bytes it wrote at the start of
the response buffer and the response length it reports. -/
structure DiagResult (cfg : Config n) where
  code : ReturnCode
  written : Bytes := []
  responseLength : Nat := 0
  dtcStore : DtcStore cfg

namespace DiagnosticsService

variable {cfg : Config n}

/-- The `for_each` body of a list reply: a record that no longer fits is skipped. -/
def fitting (capacity recordSize : Nat) : (offset : Nat) → List Bytes → List Bytes
  | _, [] => []
  | offset, record :: rest =>
      if capacity < offset + recordSize then fitting capacity recordSize offset rest
      else record :: fitting capacity recordSize (offset + recordSize) rest

/-- A two-byte count followed by that many records. -/
def listReply (capacity recordSize : Nat) (records : List Bytes)
    (dtcStore : DtcStore cfg) : DiagResult cfg :=
  if capacity < 2 then { code := .eNotOk, dtcStore }
  else
    let kept := fitting capacity recordSize 2 records
    { code := .eOk
      written := writeU16 (UInt16.ofNat kept.length) ++ kept.flatten
      responseLength := 2 + recordSize * kept.length
      dtcStore }

def dtcRecord (dtc : Dtc) : Bytes :=
  writeU16 dtc.code ++ [dtc.severity, if dtc.active then 1 else 0] ++
    writeU32 dtc.occurrenceCount ++ writeU32 dtc.firstSeenMs ++ writeU32 dtc.lastSeenMs

def handleGetDtcs (capacity : Nat) (dtcStore : DtcStore cfg) : DiagResult cfg :=
  listReply capacity 16 ((dtcStore.dtcs.filter Dtc.active).map dtcRecord) dtcStore

def handleClearDtcs (payload : Bytes) (dtcStore : DtcStore cfg) : DiagResult cfg :=
  if payload.length < 2 then { code := .eMalformedMessage, dtcStore }
  else
    let code := readU16 payload 0
    if code = 0xFFFF then { code := .eOk, dtcStore := dtcStore.clearAll }
    else
      match dtcStore.clear code with
      | (false, _) => { code := .eNotOk, dtcStore }
      | (true, cleared) => { code := .eOk, dtcStore := cleared }

def handleGetCounters (capacity : Nat) (counters : DiagnosticCounters)
    (dtcStore : DtcStore cfg) : DiagResult cfg :=
  let requiredSize := DiagnosticCounter.all.length * 4
  if capacity < requiredSize then { code := .eNotOk, dtcStore }
  else {
    code := .eOk
    written := (DiagnosticCounter.all.map fun c => writeU32 (counters.counters c)).flatten
    responseLength := requiredSize
    dtcStore }

def serviceRecord (isReady : ServiceContext → Bool) (entry : ServiceEntry) : Bytes :=
  writeU16 entry.serviceId ++
    [entry.majorVersion, entry.minorVersion, if entry.authRequired then 1 else 0,
      if isReady entry.context then 1 else 0]

def handleGetServiceList (capacity : Nat) (isReady : ServiceContext → Bool)
    (dispatcher : MethodDispatcher cfg) (dtcStore : DtcStore cfg) : DiagResult cfg :=
  listReply capacity 6
    ((dispatcher.services.filter ServiceEntry.active).map (serviceRecord isReady)) dtcStore

def handleGetDeviceInfo (service : DiagnosticsService) (capacity : Nat)
    (uptimeMs : UInt32) (dtcStore : DtcStore cfg) : DiagResult cfg :=
  if capacity < 8 then { code := .eNotOk, dtcStore }
  else {
    code := .eOk
    written := writeU16 service.clientId ++ writeU32 uptimeMs ++ [protocolVersion, 0]
    responseLength := 8
    dtcStore }

/-- `impl_on_request`. -/
def onRequest (service : DiagnosticsService) (counters : DiagnosticCounters)
    (dispatcher : MethodDispatcher cfg) (isReady : ServiceContext → Bool)
    (uptimeMs : UInt32) (methodId : UInt16) (payload : Bytes) (capacity : Nat)
    (dtcStore : DtcStore cfg) : DiagResult cfg :=
  if methodId = 0x0001 then handleGetDtcs capacity dtcStore
  else if methodId = 0x0002 then handleClearDtcs payload dtcStore
  else if methodId = 0x0003 then handleGetCounters capacity counters dtcStore
  else if methodId = 0x0004 then handleGetServiceList capacity isReady dispatcher dtcStore
  else if methodId = 0x0005 then handleGetDeviceInfo service capacity uptimeMs dtcStore
  else { code := .eUnknownMethod, dtcStore }

/-- What the service does to the trouble codes. -/
inductive DtcWrite (store : DtcStore cfg) : DtcStore cfg → Prop where
  | keep : DtcWrite store store
  | clear (code : UInt16) : DtcWrite store (store.clear code).2
  | clearAll : DtcWrite store store.clearAll

theorem listReply_dtcStore (capacity recordSize : Nat) (records : List Bytes)
    (dtcStore : DtcStore cfg) :
    (listReply capacity recordSize records dtcStore).dtcStore = dtcStore := by
  rw [listReply]
  split <;> rfl

theorem handleClearDtcs_write (payload : Bytes) (dtcStore : DtcStore cfg) :
    DtcWrite dtcStore (handleClearDtcs payload dtcStore).dtcStore := by
  rw [handleClearDtcs]
  split
  · exact .keep
  · dsimp only
    split
    · exact .clearAll
    · split
      · exact .keep
      · next cleared =>
          have written := @DtcWrite.clear _ cfg dtcStore (readU16 payload 0)
          rw [cleared] at written
          exact written

/-- Only `DIAG_CLEAR_DTCS` writes the trouble codes. -/
theorem onRequest_write (service : DiagnosticsService) (counters : DiagnosticCounters)
    (dispatcher : MethodDispatcher cfg) (isReady : ServiceContext → Bool) (uptimeMs : UInt32)
    (methodId : UInt16) (payload : Bytes) (capacity : Nat) (dtcStore : DtcStore cfg) :
    DtcWrite dtcStore (service.onRequest counters dispatcher isReady uptimeMs methodId payload
      capacity dtcStore).dtcStore := by
  have kept : ∀ result : DiagResult cfg, result.dtcStore = dtcStore →
      DtcWrite dtcStore result.dtcStore := by
    intro result same
    rw [same]
    exact .keep
  rw [onRequest]
  split
  · exact kept _ (listReply_dtcStore ..)
  · split
    · exact handleClearDtcs_write payload dtcStore
    · split
      · apply kept
        rw [handleGetCounters]
        split <;> rfl
      · split
        · exact kept _ (listReply_dtcStore ..)
        · split
          · apply kept
            rw [handleGetDeviceInfo]
            split <;> rfl
          · exact .keep

/-- The records kept fit behind the offset. -/
theorem fitting_fits (capacity recordSize offset : Nat) (records : List Bytes)
    (room : offset ≤ capacity) :
    offset + recordSize * (fitting capacity recordSize offset records).length ≤
      capacity := by
  induction records generalizing offset with
  | nil => simpa [fitting] using room
  | cons record rest ih =>
      rw [fitting]
      split
      · exact ih offset room
      · next fits =>
          have later := ih (offset + recordSize) (by omega)
          rw [List.length_cons, Nat.mul_succ]
          omega

/-- The service never reports a response longer than the capacity it was given. -/
theorem onRequest_responseLength_le (service : DiagnosticsService)
    (counters : DiagnosticCounters) (dispatcher : MethodDispatcher cfg)
    (isReady : ServiceContext → Bool) (uptimeMs : UInt32) (methodId : UInt16)
    (payload : Bytes) (capacity : Nat) (dtcStore : DtcStore cfg) :
    (service.onRequest counters dispatcher isReady uptimeMs methodId payload capacity
      dtcStore).responseLength ≤ capacity := by
  have list : ∀ recordSize records,
      (listReply capacity recordSize records dtcStore).responseLength ≤ capacity := by
    intro recordSize records
    rw [listReply]
    split
    · exact Nat.zero_le _
    · next room => exact fitting_fits capacity recordSize 2 records (Nat.not_lt.mp room)
  have cleared : (handleClearDtcs payload dtcStore).responseLength = 0 := by
    rw [handleClearDtcs]
    split
    · rfl
    · dsimp only
      split
      · rfl
      · split <;> rfl
  have counted : (handleGetCounters capacity counters dtcStore).responseLength ≤
      capacity := by
    rw [handleGetCounters]
    split
    · exact Nat.zero_le _
    · next room => exact Nat.not_lt.mp room
  have described : (handleGetDeviceInfo service capacity uptimeMs dtcStore).responseLength ≤
      capacity := by
    rw [handleGetDeviceInfo]
    split
    · exact Nat.zero_le _
    · next room => exact Nat.not_lt.mp room
  unfold onRequest
  split
  · exact list 16 _
  · split
    · rw [cleared]
      exact Nat.zero_le _
    · split
      · exact counted
      · split
        · exact list 6 _
        · split
          · exact described
          · exact Nat.zero_le _

theorem fitting_flatten_length {capacity recordSize : Nat} (offset : Nat) {records : List Bytes}
    (sized : ∀ record ∈ records, record.length = recordSize) :
    (fitting capacity recordSize offset records).flatten.length =
      recordSize * (fitting capacity recordSize offset records).length := by
  induction records generalizing offset with
  | nil => rfl
  | cons record rest ih =>
      have restSized : ∀ record ∈ rest, record.length = recordSize :=
        fun record member => sized record (.tail _ member)
      rw [fitting]
      split
      · exact ih offset restSized
      · rw [List.flatten_cons, List.length_append, ih _ restSized, sized record (.head _),
          List.length_cons, Nat.mul_succ, Nat.add_comm]

/-- The service reports as much as it has written. -/
theorem onRequest_written_length (service : DiagnosticsService)
    (counters : DiagnosticCounters) (dispatcher : MethodDispatcher cfg)
    (isReady : ServiceContext → Bool) (uptimeMs : UInt32) (methodId : UInt16)
    (payload : Bytes) (capacity : Nat) (dtcStore : DtcStore cfg) :
    let result := service.onRequest counters dispatcher isReady uptimeMs methodId payload
      capacity dtcStore
    result.written.length = result.responseLength := by
  have list : ∀ recordSize records, (∀ record ∈ records, record.length = recordSize) →
      (listReply capacity recordSize records dtcStore).written.length =
        (listReply capacity recordSize records dtcStore).responseLength := by
    intro recordSize records sized
    rw [listReply]
    split
    · rfl
    · simp only [List.length_append, writeU16_length, fitting_flatten_length 2 sized]
  have dtcs : ∀ record ∈ (dtcStore.dtcs.filter Dtc.active).map dtcRecord,
      record.length = 16 := by
    intro record member
    obtain ⟨dtc, -, rfl⟩ := List.mem_map.mp member
    rfl
  have services : ∀ record ∈ (dispatcher.services.filter ServiceEntry.active).map
      (serviceRecord isReady), record.length = 6 := by
    intro record member
    obtain ⟨entry, -, rfl⟩ := List.mem_map.mp member
    rfl
  have cleared : (handleClearDtcs payload dtcStore).written.length =
      (handleClearDtcs payload dtcStore).responseLength := by
    rw [handleClearDtcs]
    split
    · rfl
    · dsimp only
      split
      · rfl
      · split <;> rfl
  have counted : (handleGetCounters capacity counters dtcStore).written.length =
      (handleGetCounters capacity counters dtcStore).responseLength := by
    rw [handleGetCounters]
    split <;> rfl
  have described : (handleGetDeviceInfo service capacity uptimeMs dtcStore).written.length =
      (handleGetDeviceInfo service capacity uptimeMs dtcStore).responseLength := by
    rw [handleGetDeviceInfo]
    split <;> rfl
  simp only [onRequest]
  split
  · exact list 16 _ dtcs
  · split
    · exact cleared
    · split
      · exact counted
      · split
        · exact list 6 _ services
        · split
          · exact described
          · rfl

/-- The service never writes behind the capacity it was given. -/
theorem onRequest_written_le (service : DiagnosticsService)
    (counters : DiagnosticCounters) (dispatcher : MethodDispatcher cfg)
    (isReady : ServiceContext → Bool) (uptimeMs : UInt32) (methodId : UInt16)
    (payload : Bytes) (capacity : Nat) (dtcStore : DtcStore cfg) :
    (service.onRequest counters dispatcher isReady uptimeMs methodId payload capacity
      dtcStore).written.length ≤ capacity := by
  rw [onRequest_written_length]
  exact onRequest_responseLength_le ..

end DiagnosticsService

end Sero
