import Sero.Service.DiagScanner

/-!
# Replies of the diagnostics service

The service writes what has room in the buffer it is given, and the scanner reads back what
was written, as long as the sixteen bits of the count can tell how much that is.
-/

namespace Sero

open Library DiagScanner DiagnosticsService

variable {n : Nat} {cfg : Config n}

/-! ## What is read back -/

/-- The trouble codes that are iterated over. -/
def DtcStore.stored (store : DtcStore cfg) : List Dtc :=
  store.dtcs.filter Dtc.active

/-- The services that are iterated over. -/
def MethodDispatcher.registered (dispatcher : MethodDispatcher cfg) : List ServiceEntry :=
  dispatcher.services.filter ServiceEntry.active

/-- The bytes of the response buffer that make up the reply. -/
def DiagResult.reply (result : DiagResult cfg) : Bytes :=
  result.written.take result.responseLength

/-- What the scanner should know of a trouble code. -/
def DiagScanner.DeviceDtc.ofDtc (dtc : Dtc) : DeviceDtc where
  code := dtc.code
  severity := dtc.severity
  status := if dtc.active then 1 else 0
  occurrenceCount := dtc.occurrenceCount
  firstSeenMs := dtc.firstSeenMs
  lastSeenMs := dtc.lastSeenMs

/-- What the scanner should know of a service. -/
def DiagScanner.DeviceService.ofEntry (isReady : ServiceContext → Bool) (entry : ServiceEntry) :
    DeviceService where
  serviceId := entry.serviceId
  major := entry.majorVersion
  minor := entry.minorVersion
  authRequired := entry.authRequired
  ready := isReady entry.context

/-- Of so many entries, those that have room behind the count. -/
def roomFor (recordSize capacity entries : Nat) : Nat :=
  min entries ((capacity - 2) / recordSize)

/-- The first entries are read back, as many as there is room for, and the count tells how
many have been written. -/
structure ReadsBack {α : Type} (onReply : ReturnCode → Bytes → List α → List α)
    (recordSize capacity : Nat) (entries : List α) (result : DiagResult cfg) : Prop where
  decoded : ∀ known, onReply result.code result.reply known =
    entries.take (roomFor recordSize capacity entries.length)
  counted : (readU16 result.reply 0).toNat = roomFor recordSize capacity entries.length
  length : result.responseLength =
    2 + recordSize * roomFor recordSize capacity entries.length

/-! ## Single records -/

theorem readDtc_dtcRecord (front : Bytes) (dtc : Dtc) (rest : Bytes) :
    readDtc (front ++ (dtcRecord dtc ++ rest)) front.length = .ofDtc dtc := by
  have first := readU16_append_right front (dtcRecord dtc ++ rest) 0
  have code : readU16 (dtcRecord dtc ++ rest) 0 = dtc.code := readU16_writeU16 [] _ dtc.code 0 rfl
  have occurrences : readU32 (dtcRecord dtc ++ rest) 4 = dtc.occurrenceCount :=
    readU32_writeU32 (writeU16 dtc.code ++ [dtc.severity, if dtc.active then 1 else 0])
      (writeU32 dtc.firstSeenMs ++ (writeU32 dtc.lastSeenMs ++ rest)) _ 4 rfl
  have firstSeen : readU32 (dtcRecord dtc ++ rest) 8 = dtc.firstSeenMs :=
    readU32_writeU32 (writeU16 dtc.code ++ [dtc.severity, if dtc.active then 1 else 0] ++
      writeU32 dtc.occurrenceCount) (writeU32 dtc.lastSeenMs ++ rest) _ 8 rfl
  have lastSeen : readU32 (dtcRecord dtc ++ rest) 12 = dtc.lastSeenMs :=
    readU32_writeU32 (writeU16 dtc.code ++ [dtc.severity, if dtc.active then 1 else 0] ++
      writeU32 dtc.occurrenceCount ++ writeU32 dtc.firstSeenMs) rest _ 12 rfl
  rw [Nat.add_zero] at first
  rw [readDtc, first, byteAt_append_right, byteAt_append_right, readU32_append_right,
    readU32_append_right, readU32_append_right, code, occurrences, firstSeen, lastSeen]
  rfl

theorem flag_ne_zero (flag : Bool) : ((if flag then 1 else 0 : UInt8) != 0) = flag := by
  cases flag <;> rfl

theorem readService_serviceRecord (isReady : ServiceContext → Bool) (front : Bytes)
    (entry : ServiceEntry) (rest : Bytes) :
    readService (front ++ (serviceRecord isReady entry ++ rest)) front.length =
      .ofEntry isReady entry := by
  have first := readU16_append_right front (serviceRecord isReady entry ++ rest) 0
  have serviceId : readU16 (serviceRecord isReady entry ++ rest) 0 = entry.serviceId :=
    readU16_writeU16 [] _ entry.serviceId 0 rfl
  rw [Nat.add_zero] at first
  rw [readService, first, byteAt_append_right, byteAt_append_right, byteAt_append_right,
    byteAt_append_right, serviceId, DeviceService.ofEntry]
  congr 1
  · exact flag_ne_zero entry.authRequired
  · exact flag_ne_zero (isReady entry.context)

/-! ## List replies -/

/-- Records of one size are kept until the first that has no room. -/
theorem fitting_eq_take {capacity recordSize : Nat} (sized : 0 < recordSize) (offset : Nat)
    (records : List Bytes) :
    fitting capacity recordSize offset records =
      records.take ((capacity - offset) / recordSize) := by
  induction records generalizing offset with
  | nil => simp [fitting]
  | cons record rest ih =>
      rw [fitting]
      split
      · next full =>
          have none : (capacity - offset) / recordSize = 0 := Nat.div_eq_of_lt (by omega)
          rw [ih, none, List.take_zero, List.take_zero]
      · next room =>
          have fits : recordSize ≤ capacity - offset := by omega
          rw [ih, Nat.div_eq_sub_div sized fits, Nat.sub_sub, List.take_succ_cons]

section ListReply

variable {β : Type} {recordSize capacity : Nat} {encode : β → Bytes} {entries : List β}
variable {dtcStore : DtcStore cfg}

/-- A list reply is the count and the records that have room. -/
theorem listReply_spec (sized : ∀ entry, (encode entry).length = recordSize)
    (positive : 0 < recordSize) (room : 2 ≤ capacity) :
    let result := listReply capacity recordSize (entries.map encode) dtcStore
    result.code = .eOk ∧
      result.responseLength = 2 + recordSize * roomFor recordSize capacity entries.length ∧
      result.reply = writeU16 (UInt16.ofNat (roomFor recordSize capacity entries.length)) ++
        ((entries.take (roomFor recordSize capacity entries.length)).map encode).flatten := by
  have kept : fitting capacity recordSize 2 (entries.map encode) =
      (entries.take (roomFor recordSize capacity entries.length)).map encode := by
    rw [fitting_eq_take positive, ← List.map_take, roomFor, List.take_eq_take_min, Nat.min_comm]
  have count : (fitting capacity recordSize 2 (entries.map encode)).length =
      roomFor recordSize capacity entries.length := by
    rw [kept, List.length_map, List.length_take, roomFor]
    omega
  have records : ∀ record ∈ entries.map encode, record.length = recordSize := by
    intro record member
    obtain ⟨entry, -, rfl⟩ := List.mem_map.mp member
    exact sized entry
  have flat := @fitting_flatten_length capacity recordSize 2 _ records
  rw [kept] at flat count
  rw [listReply, if_neg (Nat.not_lt.mpr room)]
  dsimp only [DiagResult.reply]
  rw [kept, count]
  refine ⟨rfl, rfl, List.take_of_length_le ?_⟩
  rw [List.length_append, writeU16_length, flat, count]

/-- It is read back as long as the count can tell how many entries it has. -/
theorem listReply_readsBack {α : Type} {read : Bytes → Nat → α} {shown : β → α}
    (sized : ∀ entry, (encode entry).length = recordSize)
    (reads : ∀ front entry rest,
      read (front ++ (encode entry ++ rest)) front.length = shown entry)
    (positive : 0 < recordSize) (room : 2 ≤ capacity)
    (countable : roomFor recordSize capacity entries.length < 65536) :
    ReadsBack (onList recordSize read) recordSize capacity (entries.map shown)
      (listReply capacity recordSize (entries.map encode) dtcStore) := by
  obtain ⟨code, length, reply⟩ :=
    @listReply_spec _ cfg _ _ _ _ entries dtcStore sized positive room
  have exact : (UInt16.ofNat (roomFor recordSize capacity entries.length)).toNat =
      roomFor recordSize capacity entries.length := UInt16.toNat_ofNat_of_lt countable
  have count : readU16 (listReply capacity recordSize (entries.map encode) dtcStore).reply 0 =
      UInt16.ofNat (roomFor recordSize capacity entries.length) := by
    rw [reply]
    exact readU16_writeU16 [] _ _ 0 rfl
  constructor
  · intro known
    have enough : ¬(ReturnCode.eOk ≠ .eOk ∨
        (listReply capacity recordSize (entries.map encode) dtcStore).reply.length < 2) := by
      rw [reply, List.length_append, writeU16_length]
      rintro (failed | short)
      · exact failed rfl
      · exact absurd short (Nat.not_lt.mpr (Nat.le_add_right _ _))
    have taken : (entries.take (roomFor recordSize capacity entries.length)).length =
        roomFor recordSize capacity entries.length := by
      rw [List.length_take, roomFor]
      omega
    have decoded := readRecords_flatten sized reads
      (writeU16 (UInt16.ofNat (roomFor recordSize capacity entries.length)))
      (entries.take (roomFor recordSize capacity entries.length))
    rw [taken, writeU16_length, ← reply] at decoded
    rw [onList, code, if_neg enough, count, exact, decoded, List.length_map, List.map_take]
  · rw [count, exact, List.length_map]
  · rw [length, List.length_map]

end ListReply

section Replies

variable (service : DiagnosticsService) (counters : DiagnosticCounters)
variable (dispatcher : MethodDispatcher cfg) (isReady : ServiceContext → Bool)
variable (uptimeMs : UInt32) (payload : Bytes) (dtcStore : DtcStore cfg)

/-- No reply leaves the buffer it is written to, and the two list replies are read back
whenever fewer than 65536 entries have room. -/
theorem replies_read_back (capacity : Nat) :
    (∀ methodId,
      (service.onRequest counters dispatcher isReady uptimeMs methodId payload capacity
        dtcStore).written.length ≤ capacity ∧
      (service.onRequest counters dispatcher isReady uptimeMs methodId payload capacity
        dtcStore).responseLength ≤ capacity) ∧
    (2 ≤ capacity → roomFor 16 capacity dtcStore.stored.length < 65536 →
      ReadsBack onDtcs 16 capacity (dtcStore.stored.map .ofDtc)
        (service.onRequest counters dispatcher isReady uptimeMs 0x0001 payload capacity
          dtcStore)) ∧
    (2 ≤ capacity → roomFor 6 capacity dispatcher.registered.length < 65536 →
      ReadsBack onServiceList 6 capacity (dispatcher.registered.map (.ofEntry isReady))
        (service.onRequest counters dispatcher isReady uptimeMs 0x0004 payload capacity
          dtcStore)) := by
  refine ⟨fun methodId => ⟨?_, ?_⟩, ?_, ?_⟩
  · exact onRequest_written_le ..
  · exact onRequest_responseLength_le ..
  · intro room countable
    exact listReply_readsBack (fun _ => rfl) readDtc_dtcRecord (by decide) room countable
  · intro room countable
    exact listReply_readsBack (fun _ => rfl) (readService_serviceRecord isReady) (by decide)
      room countable

end Replies

/-! A store with three trouble codes, of which two have room. -/

def threeDtcs : DtcStore embeddedConfig :=
  ((({} : DtcStore embeddedConfig).report 0x0101 .info 5).2.report 0x0102 .error 6).2.report
    0x0103 .fatal 7 |>.2

theorem replies_read_back_cut :
    ReadsBack onDtcs 16 40 (threeDtcs.stored.map .ofDtc)
      (({} : DiagnosticsService).onRequest {} {} (fun _ => true) 9 0x0001 [] 40 threeDtcs) ∧
    roomFor 16 40 threeDtcs.stored.length = 2 :=
  ⟨(replies_read_back {} {} {} (fun _ => true) 9 [] threeDtcs 40).2.1 (by decide) (by decide),
    by decide⟩

/-! A store with a trouble code for each of the 65536 codes, and a buffer in which there is
room for all of them. -/

def wideConfig : Config 8 :=
  { embeddedConfig with maxDtcs := 65536 }

def dtcsUpTo (codes : Nat) : DtcStore wideConfig where
  dtcs := (List.range codes).map fun code => {
    code := UInt16.ofNat code
    severity := 0
    occurrenceCount := 1
    firstSeenMs := 0
    lastSeenMs := 0 }

theorem dtcsUpTo_stored_length (codes : Nat) : (dtcsUpTo codes).stored.length = codes := by
  have active : ∀ dtc ∈ (dtcsUpTo codes).dtcs, dtc.active = true := by
    intro dtc member
    obtain ⟨code, -, rfl⟩ := List.mem_map.mp member
    rfl
  rw [DtcStore.stored, List.filter_eq_self.mpr active, dtcsUpTo, List.length_map,
    List.length_range]

/-- With 65536 entries the count says that there are none. -/
theorem getDtcs_uncounted {capacity : Nat} {dtcStore : DtcStore cfg} (wide : 2 ≤ capacity)
    (full : roomFor 16 capacity dtcStore.stored.length = 65536) :
    let result := handleGetDtcs capacity dtcStore
    result.responseLength = 1048578 ∧ onDtcs result.code result.reply [] = [] ∧
      ¬ReadsBack onDtcs 16 capacity (dtcStore.stored.map .ofDtc) result := by
  intro result
  obtain ⟨code, length, reply⟩ := @listReply_spec _ cfg _ 16 capacity dtcRecord
    dtcStore.stored dtcStore (fun _ => rfl) (by decide) wide
  have wraps : UInt16.ofNat 65536 = 0 := by decide +kernel
  rw [full, wraps] at reply
  rw [full] at length
  have count : readU16 result.reply 0 = 0 :=
    (congrArg (readU16 · 0) reply).trans (readU16_writeU16 [] _ 0 0 rfl)
  refine ⟨length.trans (by decide +kernel), ?_, ?_⟩
  · rw [onDtcs, onList, count]
    split <;> rfl
  · intro readsBack
    have counted := readsBack.counted
    rw [count, List.length_map, full] at counted
    cases counted

/-- All of them are written, and the scanner reads none. -/
theorem count_wraps :
    let result := ({} : DiagnosticsService).onRequest {} {} (fun _ => true) 0 0x0001 []
      1048578 (dtcsUpTo 65536)
    result.responseLength = 1048578 ∧ onDtcs result.code result.reply [] = [] ∧
      ¬ReadsBack onDtcs 16 1048578 ((dtcsUpTo 65536).stored.map .ofDtc) result := by
  have full : roomFor 16 1048578 (dtcsUpTo 65536).stored.length = 65536 := by
    rw [dtcsUpTo_stored_length]
    decide +kernel
  rw [onRequest, if_pos rfl]
  exact getDtcs_uncounted (by omega) full

end Sero
