import Sero.Properties.HandlerBuffer
import Sero.Runtime.Accesses

/-!
# Memory safety of the receive path

Whatever datagram arrives, the instrumented receive path computes what the plain one
does and stays inside the datagram, the transmit buffer and the response buffer.
-/

namespace Sero

open Library

variable {n : Nat} {cfg : Config n} {data : Bytes}

/-- Handlers write inside the buffer they have been entered with. -/
def Env.StaysInside (env : Env cfg) : Prop :=
  ∀ entry keys methodId payload capacity history context,
    (env.onRequest (.onRequest entry keys methodId payload capacity :: history) context methodId
      payload).writes.Inside (capacity.getD 0)

/-! ## Reading a datagram -/

theorem byteAt_window (data : Bytes) (offset : Nat) {count index : Nat} (inside : index < count) :
    byteAt ((data.drop offset).take count) index = byteAt data (offset + index) := by
  simp only [byteAt, List.getD_eq_getElem?_getD]
  rw [List.getElem?_take_of_lt inside, List.getElem?_drop]

theorem readU16_window (data : Bytes) (offset : Nat) {count index : Nat}
    (inside : index + 2 ≤ count) :
    readU16 ((data.drop offset).take count) index = readU16 data (offset + index) := by
  simp only [readU16, Nat.add_assoc]
  rw [byteAt_window data offset (by omega : index < count),
    byteAt_window data offset (by omega : index + 1 < count)]

theorem readU32_window (data : Bytes) (offset : Nat) {count index : Nat}
    (inside : index + 4 ≤ count) :
    readU32 ((data.drop offset).take count) index = readU32 data (offset + index) := by
  simp only [readU32, Nat.add_assoc]
  rw [byteAt_window data offset (by omega : index < count),
    byteAt_window data offset (by omega : index + 1 < count),
    byteAt_window data offset (by omega : index + 2 < count),
    byteAt_window data offset (by omega : index + 3 < count)]

theorem computes_datagram {offset count : Nat} (inside : offset + count ≤ data.length) :
    Computes (regionSize cfg data) (load .datagram data offset count)
      ((data.drop offset).take count) :=
  computes_load data inside

theorem computes_readByte {offset : Nat} (inside : offset + 1 ≤ data.length) :
    Computes (regionSize cfg data) (readByteLogged data offset) (byteAt data offset) := by
  apply (computes_datagram inside).bind
  exact (Computes.pure _).congr (byteAt_window data offset Nat.one_pos)

theorem computes_readU16 {offset : Nat} (inside : offset + 2 ≤ data.length) :
    Computes (regionSize cfg data) (readU16Logged data offset) (readU16 data offset) := by
  apply (computes_datagram inside).bind
  exact (Computes.pure _).congr (readU16_window data offset (Nat.le_refl _))

theorem computes_readU32 {offset : Nat} (inside : offset + 4 ≤ data.length) :
    Computes (regionSize cfg data) (readU32Logged data offset) (readU32 data offset) := by
  apply (computes_datagram inside).bind
  exact (Computes.pure _).congr (readU32_window data offset (Nat.le_refl _))

theorem computes_deserialize (hasHeader : headerSize ≤ data.length) :
    Computes (regionSize cfg data) (deserializeLogged data) (MessageHeader.deserialize data) := by
  simp only [headerSize] at hasHeader
  have byte : ∀ offset, offset < 20 →
      Computes (regionSize cfg data) (readByteLogged data offset) (byteAt data offset) :=
    fun offset _ => computes_readByte (by omega)
  apply (byte 0 (by omega)).bind
  apply (byte 1 (by omega)).bind
  apply (byte 2 (by omega)).bind
  apply (byte 3 (by omega)).bind
  apply (computes_readU16 (by omega : 4 + 2 ≤ data.length)).bind
  apply (computes_readU16 (by omega : 6 + 2 ≤ data.length)).bind
  apply (computes_readU16 (by omega : 8 + 2 ≤ data.length)).bind
  apply (byte 10 (by omega)).bind
  apply (byte 11 (by omega)).bind
  apply (computes_readU32 (by omega : 12 + 4 ≤ data.length)).bind
  apply (computes_readU32 (by omega : 16 + 4 ≤ data.length)).bind
  exact Computes.pure _

theorem computes_crc16Verify (data : Bytes) :
    Computes (regionSize cfg data) (crc16VerifyLogged data) (crc16Verify data) := by
  rw [crc16VerifyLogged, crc16Verify]
  split
  · exact Computes.pure _
  · next long =>
      apply (computes_datagram (by omega : 0 + (data.length - 2) ≤ data.length)).bind
      apply (computes_readU16 (by omega)).bind
      exact Computes.pure _

/-- A choice made on a value both sides have. -/
theorem Computes.ite {ρ α : Type} {size : ρ → Nat} {condition : Prop} [Decidable condition]
    {first second : Logged ρ α} {left right : α} (yes : condition → Computes size first left)
    (no : ¬condition → Computes size second right) :
    Computes size (if condition then first else second) (if condition then left else right) := by
  split
  · exact yes ‹_›
  · exact no ‹_›

theorem computes_checkFrame (cfg : Config n) (data : Bytes) :
    Computes (regionSize cfg data) (checkFrameLogged cfg data) (checkFrame cfg data) := by
  apply Computes.ite
  · intro _
    exact Computes.pure _
  · intro long
    have hasHeader : headerSize ≤ data.length := by
      simp only [minMessageSize] at long
      omega
    apply (computes_crc16Verify data).bind
    apply Computes.ite
    · intro _
      exact Computes.pure _
    · intro _
      apply (computes_deserialize hasHeader).bind
      refine Computes.ite (fun _ => Computes.pure _) fun _ => ?_
      refine Computes.ite (fun _ => Computes.pure _) fun _ => ?_
      refine Computes.ite (fun _ => Computes.pure _) fun _ => ?_
      refine Computes.ite (fun _ => Computes.pure _) fun _ => ?_
      refine Computes.ite (fun _ => Computes.pure _) fun _ => ?_
      exact Computes.ite (fun _ => Computes.pure _) fun _ => Computes.pure _

/-- Step 9 reads header, payload and tag of a message that is as long as it says. -/
theorem computes_checkAuth {hdr : MessageHeader} (checked : FrameChecked cfg data hdr)
    (source : Address n) (w : World cfg) :
    Computes (regionSize cfg data) (checkAuthLogged source data hdr w)
      (w.checkAuth source data hdr) := by
  have size := checked.size
  rw [MessageHeader.expectedSize] at size
  rw [checkAuthLogged, World.checkAuth]
  refine Computes.ite ?_ fun _ => Computes.ite (fun _ => Computes.pure _) fun _ => ?_
  · intro auth
    rw [if_pos auth] at size
    rw [MessageAuthenticator.verify, MessageAuthenticator.compute]
    cases w.rt.authenticator.findKey source with
    | none => exact Computes.pure _
    | some entry =>
        apply (computes_datagram (by omega : 0 + headerSize ≤ data.length)).bind
        apply (computes_datagram
          (by omega : headerSize + hdr.payloadLength.toNat ≤ data.length)).bind
        apply (computes_datagram
          (by omega : headerSize + hdr.payloadLength.toNat + hmacSize ≤ data.length)).bind
        exact Computes.pure _
  · cases w.rt.dispatcher.find hdr.serviceId with
    | none => exact Computes.pure _
    | some entry => exact Computes.pure _

theorem byteAt_payloadOf {hdr : MessageHeader} {index : Nat}
    (inside : index < hdr.payloadLength.toNat) :
    byteAt (payloadOf hdr data) index = byteAt data (headerSize + index) :=
  byteAt_window data headerSize inside

theorem readU16_payloadOf {hdr : MessageHeader} {index : Nat}
    (inside : index + 2 ≤ hdr.payloadLength.toNat) :
    readU16 (payloadOf hdr data) index = readU16 data (headerSize + index) :=
  readU16_window data headerSize inside

theorem computes_loadAddress {offset : Nat} {bytes : Bytes} {sized : bytes.length = n}
    (inside : offset + n ≤ data.length) (same : (data.drop offset).take n = bytes) :
    Computes (regionSize cfg data) (loadAddress n data offset) ⟨bytes, sized⟩ := by
  apply (computes_datagram inside).bind
  apply (Computes.pure _).congr
  apply Subtype.ext
  rw [same]
  exact (List.takeD_eq_take 0 (Nat.le_of_eq sized.symm)).trans
    (List.take_of_length_le (Nat.le_of_eq sized))

theorem computes_deserializeOffer {hdr : MessageHeader} (checked : FrameChecked cfg data hdr) :
    Computes (regionSize cfg data) (deserializeOfferLogged n data hdr.payloadLength.toNat)
      (SdPayload.deserializeOffer (payloadOf hdr data)) := by
  have size := checked.size
  rw [MessageHeader.expectedSize] at size
  have length := checked.payload_length
  rw [deserializeOfferLogged, SdPayload.deserializeOffer]
  by_cases enough : 8 + n ≤ hdr.payloadLength.toNat
  · rw [if_neg (Nat.not_lt.mpr enough), dif_pos (by rw [length]; exact enough)]
    apply (computes_readU16 (by omega : headerSize + 2 ≤ data.length)).bind
    apply (computes_readByte (by omega : headerSize + 2 + 1 ≤ data.length)).bind
    apply (computes_readByte (by omega : headerSize + 3 + 1 ≤ data.length)).bind
    apply (computes_readU16 (by omega : headerSize + 4 + 2 ≤ data.length)).bind
    apply (computes_readU16 (by omega : headerSize + 6 + 2 ≤ data.length)).bind
    have address : (data.drop (headerSize + 8)).take n = ((payloadOf hdr data).drop 8).take n := by
      rw [payloadOf, List.drop_take, List.take_take, List.drop_drop, Nat.min_eq_left (by omega)]
    apply (computes_loadAddress (by omega) address).bind
    apply (Computes.pure _).congr
    rw [readU16_payloadOf (by omega), byteAt_payloadOf (by omega), byteAt_payloadOf (by omega),
      readU16_payloadOf (by omega), readU16_payloadOf (by omega)]
    rfl
  · rw [if_pos (Nat.not_le.mp enough), dif_neg (by rw [length]; exact enough)]
    exact Computes.pure _

theorem computes_deserializeFind {hdr : MessageHeader} (checked : FrameChecked cfg data hdr) :
    Computes (regionSize cfg data) (deserializeFindLogged data hdr.payloadLength.toNat)
      (SdPayload.deserializeFind (payloadOf hdr data)) := by
  have size := checked.size
  rw [MessageHeader.expectedSize] at size
  rw [deserializeFindLogged, SdPayload.deserializeFind, checked.payload_length]
  refine Computes.ite (fun _ => Computes.pure _) fun enough => ?_
  apply (computes_readU16 (by omega : headerSize + 2 ≤ data.length)).bind
  apply (Computes.pure _).congr
  rw [readU16_payloadOf (by omega)]
  rfl

theorem computes_deserializeSubscribe {hdr : MessageHeader}
    (checked : FrameChecked cfg data hdr) :
    Computes (regionSize cfg data) (deserializeSubscribeLogged data hdr.payloadLength.toNat)
      (SdPayload.deserializeSubscribe (payloadOf hdr data)) := by
  have size := checked.size
  rw [MessageHeader.expectedSize] at size
  rw [deserializeSubscribeLogged, SdPayload.deserializeSubscribe, checked.payload_length]
  refine Computes.ite (fun _ => Computes.pure _) fun enough => ?_
  apply (computes_readU16 (by omega : headerSize + 2 ≤ data.length)).bind
  apply (computes_readU16 (by omega : headerSize + 2 + 2 ≤ data.length)).bind
  apply (computes_readU16 (by omega : headerSize + 4 + 2 ≤ data.length)).bind
  apply (Computes.pure _).congr
  rw [readU16_payloadOf (by omega), readU16_payloadOf (by omega), readU16_payloadOf (by omega)]
  rfl

/-- Only one method looks at its payload, and at no more than two bytes of it. -/
theorem onRequest_payload (service : DiagnosticsService) (counters : DiagnosticCounters)
    (dispatcher : MethodDispatcher cfg) (isReady : ServiceContext → Bool) (uptimeMs : UInt32)
    (methodId : UInt16) {payload other : Bytes} (capacity : Nat) (dtcStore : DtcStore cfg)
    (same : methodId = 0x0002 → (payload.length < 2 ↔ other.length < 2) ∧
      (¬payload.length < 2 → readU16 payload 0 = readU16 other 0)) :
    service.onRequest counters dispatcher isReady uptimeMs methodId payload capacity dtcStore =
      service.onRequest counters dispatcher isReady uptimeMs methodId other capacity
        dtcStore := by
  rw [DiagnosticsService.onRequest, DiagnosticsService.onRequest]
  by_cases clears : methodId = 0x0002
  · obtain ⟨length, code⟩ := same clears
    simp only [clears, DiagnosticsService.handleClearDtcs]
    by_cases short : payload.length < 2
    · rw [if_pos short, if_pos (length.mp short)]
    · rw [if_neg short, if_neg (mt length.mpr short), code short]
  · rw [if_neg clears, if_neg clears]

/-- A handler has room for as much as it was told. -/
theorem computes_answer {capacity : Option Nat} (buffer : Buffer cfg.maxPayloadSize)
    (room : capacity.getD 0 ≤ regionSize cfg data (answerRegion capacity)) {writes : Writes}
    (inside : writes.Inside (capacity.getD 0)) :
    Computes (regionSize cfg data) (storeAll (answerRegion capacity) buffer writes)
      (buffer.writeAll writes) :=
  computes_storeAll buffer fun index covered => Nat.lt_of_lt_of_le (inside index covered) room

theorem computes_diagRequest {hdr : MessageHeader} (checked : FrameChecked cfg data hdr)
    (rt : Runtime cfg) (isReady : ServiceContext → Bool) {capacity : Option Nat}
    (room : capacity.getD 0 ≤ regionSize cfg data (answerRegion capacity)) :
    Computes (regionSize cfg data) (diagRequestLogged rt isReady data hdr capacity)
      (rt.diagService.onRequest rt.diag rt.dispatcher isReady rt.uptimeMs hdr.methodEventId
        (payloadOf hdr data) (capacity.getD 0) rt.dtcStore) := by
  have size := checked.size
  rw [MessageHeader.expectedSize] at size
  have length := checked.payload_length
  have written := rt.diagService.onRequest_written_le rt.diag rt.dispatcher isReady
    rt.uptimeMs hdr.methodEventId (payloadOf hdr data) (capacity.getD 0) rt.dtcStore
  have answers : ∀ payload, rt.diagService.onRequest rt.diag rt.dispatcher isReady rt.uptimeMs
      hdr.methodEventId payload (capacity.getD 0) rt.dtcStore =
        rt.diagService.onRequest rt.diag rt.dispatcher isReady rt.uptimeMs hdr.methodEventId
          (payloadOf hdr data) (capacity.getD 0) rt.dtcStore →
      Computes (regionSize cfg data) (do
        let result := rt.diagService.onRequest rt.diag rt.dispatcher isReady rt.uptimeMs
          hdr.methodEventId payload (capacity.getD 0) rt.dtcStore
        let _ ← store (answerRegion capacity) rt.responseBuffer 0 result.written
        return result)
        (rt.diagService.onRequest rt.diag rt.dispatcher isReady rt.uptimeMs hdr.methodEventId
          (payloadOf hdr data) (capacity.getD 0) rt.dtcStore) := by
    intro payload equal
    rw [equal]
    refine (computes_store rt.responseBuffer _ ?_).bind (Computes.pure _)
    rw [Nat.zero_add]
    exact written.trans room
  rw [diagRequestLogged, clearCodeLogged]
  split
  · next reads =>
      apply (computes_datagram (by omega)).bind
      apply answers
      apply onRequest_payload
      intro _
      have taken : ((data.drop headerSize).take 2).length = 2 := by
        rw [List.length_take, List.length_drop]
        omega
      rw [taken, length, readU16_payloadOf (by omega), readU16_window data headerSize (by omega)]
      exact ⟨by omega, fun _ => rfl⟩
  · next skips =>
      apply (Computes.pure _).bind
      apply answers
      apply onRequest_payload
      intro clears
      have short : hdr.payloadLength.toNat < 2 := Nat.not_le.mp fun long => skips ⟨clears, long⟩
      rw [length, List.length_nil]
      exact ⟨by omega, fun long => absurd Nat.two_pos long⟩

/-! ## Writing frames -/

theorem computes_transmitStore {offset : Nat} (buffer : Buffer (maxMsgSize cfg))
    {bytes : Bytes} (fits : offset + bytes.length ≤ maxMsgSize cfg) :
    Computes (regionSize cfg data) (store .transmit buffer offset bytes)
      (buffer.write offset bytes) :=
  computes_store buffer bytes fits

theorem computes_transmitLoad {offset count : Nat} (contents : Bytes)
    (fits : offset + count ≤ maxMsgSize cfg) :
    Computes (regionSize cfg data) (load .transmit contents offset count)
      ((contents.drop offset).take count) :=
  computes_load contents fits

/-- The source of a payload yields its first bytes, unless they are too many. -/
def Copies (cfg : Config n) (data : Bytes) (source : Option (Logged Region Bytes))
    (payload : Option Bytes) (payloadLength : Nat) : Prop :=
  (source = none ∧ payload = none) ∨
    ∃ copy bytes, source = some copy ∧ payload = some bytes ∧
      (payloadLength ≤ cfg.maxPayloadSize →
        Computes (regionSize cfg data) copy (bytes.take payloadLength))

theorem computes_copy {source : Option (Logged Region Bytes)} {payload : Option Bytes}
    {payloadLength : Nat} (copies : Copies cfg data source payload payloadLength)
    (fits : payloadLength ≤ cfg.maxPayloadSize) (tx : Buffer (maxMsgSize cfg)) :
    Computes (regionSize cfg data) (Runtime.copyLogged tx source)
      (payload.elim tx fun bytes => tx.write headerSize (bytes.take payloadLength)) := by
  rcases copies with ⟨rfl, rfl⟩ | ⟨copy, bytes, rfl, rfl, copied⟩
  · exact Computes.pure _
  · apply (copied fits).bind
    apply computes_transmitStore
    have taken := List.length_take_le payloadLength bytes
    rw [maxMsgSize]
    omega

theorem computes_tag (rt : Runtime cfg) (tx : Buffer (maxMsgSize cfg)) {payloadLength : Nat}
    (auth : Bool) (peer : Address n) (fits : payloadLength ≤ cfg.maxPayloadSize) :
    Computes (regionSize cfg data) (rt.tagLogged tx payloadLength auth peer)
      (if auth then
        (tx.write (headerSize + payloadLength) (rt.messageTag (tx.bytes.take headerSize)
          ((tx.bytes.drop headerSize).take payloadLength) peer),
          headerSize + payloadLength + hmacSize)
      else (tx, headerSize + payloadLength)) := by
  have room : headerSize + payloadLength + hmacSize ≤ maxMsgSize cfg := by
    rw [maxMsgSize]
    omega
  refine Computes.ite (fun _ => ?_) fun _ => Computes.pure _
  apply (computes_transmitLoad _ (by omega : 0 + headerSize ≤ maxMsgSize cfg)).bind
  apply (computes_transmitLoad _ (by omega : headerSize + payloadLength ≤ maxMsgSize cfg)).bind
  apply (computes_transmitStore tx (by rw [rt.messageTag_length]; exact room)).bind
  exact Computes.pure _

theorem computes_buildMessage {source : Option (Logged Region Bytes)} {payload : Option Bytes}
    {payloadLength : Nat} (copies : Copies cfg data source payload payloadLength)
    (rt : Runtime cfg) (hdr : MessageHeader) (auth : Bool) (peer : Address n) :
    Computes (regionSize cfg data)
      (rt.buildMessageLogged hdr source payloadLength auth peer)
      (rt.buildMessage hdr payload payloadLength auth peer) := by
  rw [Runtime.buildMessageLogged, Runtime.buildMessage]
  refine Computes.ite (fun _ => Computes.pure _) fun oversized => ?_
  have fits := Nat.not_lt.mp oversized
  have room : headerSize + payloadLength + hmacSize + crcSize ≤ maxMsgSize cfg := by
    rw [maxMsgSize]
    omega
  have header : 0 + hdr.serialize.length ≤ maxMsgSize cfg := by
    rw [MessageHeader.serialize_length]
    omega
  apply (computes_transmitStore rt.txBuffer header).bind
  apply (computes_copy copies fits _).bind
  apply (computes_tag rt _ auth peer fits).bind
  cases auth with
  | false =>
      apply (computes_transmitLoad _
        (by omega : 0 + (headerSize + payloadLength) ≤ maxMsgSize cfg)).bind
      apply (computes_transmitStore _ (by rw [crc16Trailer_length]; omega)).bind
      apply (Computes.pure _).congr
      cases payload with
      | none => rfl
      | some bytes => rfl
  | true =>
      apply (computes_transmitLoad _
        (by omega : 0 + (headerSize + payloadLength + hmacSize) ≤ maxMsgSize cfg)).bind
      apply (computes_transmitStore _ (by rw [crc16Trailer_length]; exact room)).bind
      apply (Computes.pure _).congr
      cases payload with
      | none => rfl
      | some bytes => rfl

theorem computes_stampSd (rt : Runtime cfg) {message : Bytes}
    (fits : message.length + crcSize ≤ maxMsgSize cfg) :
    Computes (regionSize cfg data) (rt.stampSdLogged message) (rt.stampSd message) := by
  have counter : 10 + 1 ≤ maxMsgSize cfg := by
    simp only [maxMsgSize, headerSize]
    omega
  apply (computes_transmitStore rt.txBuffer (by omega)).bind
  apply (computes_transmitStore _ counter).bind
  apply (computes_transmitLoad _ (by omega : 0 + message.length ≤ maxMsgSize cfg)).bind
  exact computes_transmitStore _ fits

theorem computes_ackFrame (rt : Runtime cfg) (result : ReturnCode)
    (serviceId eventId grantedTtl : UInt16) :
    Computes (regionSize cfg data) (ackFrameLogged rt result serviceId eventId grantedTtl)
      (World.ackFrame rt result serviceId eventId grantedTtl) := by
  have payload : (SdPayload.serializeSubscribe serviceId eventId grantedTtl).length = 8 := rfl
  have room : headerSize + 8 + crcSize ≤ maxMsgSize cfg := by
    simp only [maxMsgSize, hmacSize]
    omega
  apply (computes_transmitStore rt.txBuffer
    (by rw [MessageHeader.serialize_length]; omega)).bind
  apply (computes_transmitStore _ (by rw [payload]; omega)).bind
  apply (computes_transmitLoad _ (by rw [payload]; omega)).bind
  apply (computes_transmitStore _ (by rw [payload]; exact room)).bind
  exact Computes.pure _

theorem ackFrame_total_le (rt : Runtime cfg) (result : ReturnCode)
    (serviceId eventId grantedTtl : UInt16) :
    0 + (World.ackFrame rt result serviceId eventId grantedTtl).2 ≤ maxMsgSize cfg := by
  have total : (World.ackFrame rt result serviceId eventId grantedTtl).2 =
      headerSize + 8 + crcSize := rfl
  rw [total, maxMsgSize]
  simp only [hmacSize]
  omega

theorem buildMessage_total_le (rt : Runtime cfg) (hdr : MessageHeader) (payload : Option Bytes)
    (payloadLength : Nat) (auth : Bool) (peer : Address n) :
    0 + (rt.buildMessage hdr payload payloadLength auth peer).1 ≤ maxMsgSize cfg := by
  rw [Runtime.buildMessage, Nat.zero_add]
  split
  · exact Nat.zero_le _
  · cases auth with
    | false =>
        simp only [Bool.false_eq_true, if_false, maxMsgSize]
        omega
    | true =>
        simp only [if_true, maxMsgSize]
        omega

namespace TracedWorld

/-- The instrumented device is in this state and has stayed inside its memory. -/
abbrev InStep (data : Bytes) (t : TracedWorld cfg) (w : World cfg) : Prop :=
  Traced.Follows (regionSize cfg data) t w

/-- Both yield the same and end in step. -/
def Agree {α : Type} (data : Bytes) (traced : α × TracedWorld cfg) (plain : α × World cfg) :
    Prop :=
  traced.1 = plain.1 ∧ InStep data traced.2 plain.2

/-- A refusal is counted on both sides. -/
theorem Agree.countRefusal {traced : Bool × TracedWorld cfg} {plain : Bool × World cfg}
    (agree : Agree data traced plain) :
    InStep data (traced.2.map (World.countRefusal traced.1))
      (World.countRefusal plain.1 plain.2) := by
  obtain ⟨equal, inStep⟩ := agree
  rw [equal]
  exact inStep.map _

variable {env : Env cfg} {t : TracedWorld cfg} {w : World cfg}

theorem transmit_agrees {source : Option (Logged Region Bytes)} {payload : Option Bytes}
    {payloadLength : Nat} (copies : Copies cfg data source payload payloadLength)
    (inStep : InStep data t w) (kind : SendKind) (dest : Address n) (hdr : MessageHeader)
    (auth : Bool) :
    Agree data (transmit env kind dest hdr source payloadLength auth t)
      (w.transmit env kind dest hdr payload payloadLength auth) := by
  obtain ⟨rfl, -⟩ := id inStep
  let stamped := { hdr with sequenceCounter := t.state.rt.e2e.nextSequence.1 }
  obtain ⟨built, builds, inStep⟩ := inStep.exec
    (computes_buildMessage copies t.state.rt stamped auth dest)
  obtain ⟨sent, reads, inStep⟩ := inStep.exec (computes_transmitLoad
    (t.state.rt.buildMessage stamped payload payloadLength auth dest).2.bytes
    (buildMessage_total_le _ _ _ _ _ _))
  have same := inStep.state_eq
  rw [transmit]
  dsimp only
  rw [builds]
  dsimp only
  rw [reads]
  dsimp only
  rw [same]
  constructor
  · rfl
  · dsimp only
    apply inStep.map_to
    rfl

theorem sendSdUnicast_inStep (inStep : InStep data t w) (dest : Address n)
    (message : SdMessage n) :
    InStep data (sendSdUnicast env dest message t) (w.sendSdUnicast env dest message) := by
  obtain ⟨rfl, -⟩ := id inStep
  rw [sendSdUnicast, World.sendSdUnicast]
  dsimp only
  split
  · exact inStep
  · next small =>
      have fits := Nat.not_lt.mp small
      have whole : 0 + ((message.encode t.state.rt.sd.clientId).length + crcSize) ≤
          maxMsgSize cfg := by
        rw [Nat.zero_add]
        exact fits
      obtain ⟨built, builds, inStep⟩ := inStep.exec (computes_stampSd t.state.rt fits)
      obtain ⟨sent, reads, inStep⟩ := inStep.exec (computes_transmitLoad
        (t.state.rt.stampSd (message.encode t.state.rt.sd.clientId)).bytes whole)
      have same := inStep.state_eq
      rw [builds]
      dsimp only
      rw [reads]
      dsimp only
      rw [same]
      apply inStep.map_to
      rfl

theorem copies_payload (payload : Payload) :
    Copies cfg data (copyPayload payload) payload.data payload.length := by
  cases payload with
  | null length => exact .inl ⟨rfl, rfl⟩
  | bytes bytes =>
      refine .inr ⟨pure bytes, bytes, rfl, rfl, fun _ => ?_⟩
      exact (Computes.pure _).congr (List.take_length).symm

theorem submit_agrees (inStep : InStep data t w) (handle : Nat) (target : Address n)
    (serviceId methodId : UInt16) (payload : Payload) (hasCallback : Bool)
    (timeoutMs nowMs : UInt32) :
    Agree data
      (submit env handle target serviceId methodId payload hasCallback timeoutMs nowMs t)
      (w.submit env handle target serviceId methodId payload hasCallback timeoutMs nowMs) := by
  obtain ⟨rfl, -⟩ := id inStep
  rw [submit, World.submit]
  cases t.state.rt.requestTracker.allocate serviceId methodId timeoutMs nowMs
    (if hasCallback then some handle else none) with
  | none => exact ⟨rfl, inStep⟩
  | some allocated =>
      dsimp only
      have issued := inStep.map fun w => World.emit
        (.issued handle allocated.1 target serviceId methodId payload hasCallback)
        { w with rt := { w.rt with requestTracker := allocated.2 } }
      obtain ⟨equal, after⟩ := @transmit_agrees _ _ _ env _ _ _ _ _ (copies_payload payload)
        issued (.request handle) target
        (World.makeRequestHeader t.state.rt serviceId methodId payload.length allocated.1
          (t.state.rt.shouldAuthOutgoing target)) (t.state.rt.shouldAuthOutgoing target)
      exact ⟨congrArg (fun ok => some (allocated.1, ok)) equal, after⟩

/-- A callback's body on both sides. -/
def BodiesAgree (data : Bytes) (traced : TracedWorld cfg → TracedWorld cfg)
    (plain : World cfg → World cfg) : Prop :=
  ∀ t w, InStep data t w → InStep data (traced t) (plain w)

theorem invokeRequest_inStep {body : TracedWorld cfg → TracedWorld cfg}
    {plain : World cfg → World cfg} (bodies : BodiesAgree data body plain)
    {read : Bytes → Logged Region Bytes} {payload : Bytes}
    (reads : Computes (regionSize cfg data) (read payload) payload) (cause : Cause)
    (handle : Nat) (rc : ReturnCode) (inStep : InStep data t w) :
    InStep data (invokeRequest read cause body handle rc payload t)
      (World.invokeRequest cause plain handle rc payload w) := by
  obtain ⟨after, executed, inStep⟩ := inStep.exec reads
  rw [invokeRequest, executed]
  exact bodies _ _ (inStep.map _)

theorem trackers_alike (data : Bytes) :
    Lens.Alike (InStep data) (@World.trackerLens n cfg).traced World.trackerLens :=
  Lens.alike_traced _ _

theorem requestImpl_agrees {body : TracedWorld cfg → TracedWorld cfg}
    {plain : World cfg → World cfg} (bodies : BodiesAgree data body plain)
    (inStep : InStep data t w) (handle : Nat) (target : Address n)
    (serviceId methodId : UInt16) (payload : Payload) (hasCallback : Bool)
    (timeoutMs nowMs : UInt32) :
    Agree data
      (requestImpl env body handle target serviceId methodId payload hasCallback timeoutMs
        nowMs t)
      (w.requestImpl env plain handle target serviceId methodId payload hasCallback timeoutMs
        nowMs) := by
  have submitted := @submit_agrees _ _ _ env _ _ inStep handle target serviceId methodId payload
    hasCallback timeoutMs nowMs
  rw [requestImpl, World.requestImpl]
  rcases left : submit env handle target serviceId methodId payload hasCallback timeoutMs
    nowMs t with ⟨traced, after⟩
  rcases right : w.submit env handle target serviceId methodId payload hasCallback timeoutMs
    nowMs with ⟨outcome, sent⟩
  rw [left, right] at submitted
  obtain ⟨equal, inStep⟩ := submitted
  dsimp only at equal inStep
  subst equal
  rcases traced with - | ⟨requestId, ok⟩
  · exact ⟨rfl, inStep⟩
  · cases ok with
    | true => exact ⟨rfl, inStep⟩
    | false =>
        have completed := RequestTracker.complete_alike (trackers_alike data)
          (fun callback _ _ holds => invokeRequest_inStep bodies (Computes.pure [])
            .sendFailed callback .eNotOk holds) requestId inStep
        exact ⟨rfl, completed.map _⟩

theorem request_agrees {body : TracedWorld cfg → TracedWorld cfg}
    {plain : World cfg → World cfg} (bodies : BodiesAgree data body plain)
    (inStep : InStep data t w) (handle : Nat) (target : Option (Address n))
    (serviceId methodId : UInt16) (payload : Payload) (hasCallback : Bool)
    (timeoutMs nowMs : UInt32) :
    Agree data
      (request env body handle target serviceId methodId payload hasCallback timeoutMs nowMs t)
      (w.request env plain handle target serviceId methodId payload hasCallback timeoutMs
        nowMs) := by
  obtain ⟨rfl, -⟩ := id inStep
  rw [request, World.request]
  cases target.or (t.state.rt.sd.getProviderAddress serviceId) with
  | none => exact ⟨rfl, inStep⟩
  | some provider => exact requestImpl_agrees bodies inStep _ _ _ _ _ _ _ _

theorem fireAndForget_agrees (inStep : InStep data t w) (serviceId methodId : UInt16)
    (payload : Payload) :
    Agree data (fireAndForget env serviceId methodId payload t)
      (w.fireAndForget env serviceId methodId payload) := by
  obtain ⟨rfl, -⟩ := id inStep
  rw [fireAndForget, World.fireAndForget]
  cases t.state.rt.sd.getProviderAddress serviceId with
  | none => exact ⟨rfl, inStep⟩
  | some provider =>
      have sent := @transmit_agrees _ _ _ env _ _ _ _ _ (copies_payload payload)
        inStep .fireAndForget provider {
          messageType := MessageType.requestNoReturn.toByte
          flags := if t.state.rt.shouldAuthOutgoing provider then flagAuth else 0
          serviceId
          methodEventId := methodId
          clientId := t.state.rt.clientId
          requestId := requestIdNone
          payloadLength := UInt32.ofNat payload.length } (t.state.rt.shouldAuthOutgoing provider)
      exact ⟨sent.1, sent.countRefusal⟩

theorem notifyOne_inStep (inStep : InStep data t w) (serviceId eventId : UInt16)
    (payload : Payload) (dest : Address n) :
    InStep data (notifyOne env serviceId eventId payload t dest)
      (w.notifyOne env serviceId eventId payload dest) := by
  obtain ⟨rfl, -⟩ := id inStep
  exact (transmit_agrees (copies_payload payload) inStep .notification dest {
    messageType := MessageType.notification.toByte
    flags := if t.state.rt.shouldAuthOutgoing dest then flagAuth else 0
    serviceId
    methodEventId := eventId
    clientId := clientIdProvider
    requestId := requestIdNone
    payloadLength := UInt32.ofNat payload.length }
    (t.state.rt.shouldAuthOutgoing dest)).countRefusal

theorem notifyEvent_agrees (inStep : InStep data t w) (serviceId eventId : UInt16)
    (payload : Payload) :
    Agree data (notifyEvent env serviceId eventId payload t)
      (w.notifyEvent env serviceId eventId payload) := by
  obtain ⟨rfl, -⟩ := id inStep
  rw [notifyEvent, World.notifyEvent]
  split
  · exact ⟨rfl, Traced.Follows.foldl
      (fun _ _ dest turn => notifyOne_inStep turn serviceId eventId payload dest) _ inStep⟩
  · exact ⟨rfl, inStep⟩

theorem apiCall_agrees {body : TracedWorld cfg → TracedWorld cfg}
    {plain : World cfg → World cfg} (bodies : BodiesAgree data body plain)
    (inStep : InStep data t w) (call : ApiCall cfg) :
    Agree data (apiCall env body call t) (w.apiCall env plain call) := by
  obtain ⟨rfl, -⟩ := id inStep
  have silent := inStep.map fun w => (w.apiCall env id call).2
  cases call with
  | request target serviceId methodId payload hasCallback timeoutMs nowMs =>
      obtain ⟨equal, inStep⟩ := @request_agrees _ _ _ env _ _ _ _ bodies inStep
        t.state.history.length target serviceId methodId payload hasCallback timeoutMs nowMs
      exact ⟨congrArg (ApiResult.request t.state.history.length) equal, inStep⟩
  | fireAndForget serviceId methodId payload =>
      obtain ⟨equal, inStep⟩ := @fireAndForget_agrees _ _ _ env _ _ inStep serviceId methodId
        payload
      exact ⟨congrArg ApiResult.bool equal, inStep⟩
  | notifyEvent serviceId eventId payload =>
      obtain ⟨equal, inStep⟩ := @notifyEvent_agrees _ _ _ env _ _ inStep serviceId eventId
        payload
      exact ⟨congrArg ApiResult.bool equal, inStep⟩
  | _ => exact ⟨rfl, silent⟩

theorem perform_inStep {body : TracedWorld cfg → TracedWorld cfg}
    {plain : World cfg → World cfg} (bodies : BodiesAgree data body plain)
    (inStep : InStep data t w) (call : ApiCall cfg) :
    InStep data (perform env body call t) (w.perform env plain call) := by
  obtain ⟨equal, inStep⟩ := @apiCall_agrees _ _ _ env _ _ _ _ bodies inStep call
  rw [perform, World.perform]
  dsimp only
  rw [equal]
  exact inStep.map _

/-- By induction on the script: the body of a callback made by a call is a script too. -/
theorem runScript_agrees (data : Bytes) (script : Script cfg) :
    BodiesAgree data (runScript env script) (script.run env) := by
  induction script with
  | done => exact fun _ _ inStep => inStep
  | call operation callback rest callbackAgrees restAgrees =>
      intro t w inStep
      exact restAgrees _ _ (perform_inStep callbackAgrees inStep operation)

theorem react_agrees (env : Env cfg) (data : Bytes) :
    BodiesAgree data (react env) (World.react env) := by
  intro t w inStep
  obtain ⟨rfl, -⟩ := id inStep
  exact runScript_agrees data _ _ _ inStep

theorem callback_inStep (inStep : InStep data t w) (callback : Callback n) :
    InStep data (TracedWorld.callback env callback t) (w.callback env callback) :=
  react_agrees env data _ _ (inStep.map _)

/-! ## Handling a datagram -/

/-- The header shown is the one of the datagram, which then has one. -/
def Shown (data : Bytes) (header : Option Bytes) : Prop :=
  ∀ bytes, header = some bytes → headerSize ≤ data.length ∧ bytes = rawHeader data

theorem shown_rawHeader (hasHeader : headerSize ≤ data.length) :
    Shown data (some (rawHeader data)) :=
  fun _ same => ⟨hasHeader, (Option.some.inj same).symm⟩

theorem shown_checkFrame {counter : DiagnosticCounter} {header : Option Bytes}
    (failed : checkFrame cfg data = .error (counter, header)) : Shown data header := by
  rw [checkFrame] at failed
  split at failed
  · cases failed
    intro bytes same
    cases same
  · next long =>
      have hasHeader : headerSize ≤ data.length := by
        simp only [minMessageSize] at long
        omega
      simp only [if_pos hasHeader] at failed
      repeat' split at failed
      all_goals cases failed
      all_goals exact shown_rawHeader hasHeader

theorem increment_inStep (inStep : InStep data t w) (counter : DiagnosticCounter)
    {header : Option Bytes} (shown : Shown data header) :
    InStep data (increment data counter header t) (w.increment counter header) := by
  have shows : Computes (regionSize cfg data) (showHeader data header) header := by
    cases header with
    | none => exact Computes.pure _
    | some bytes =>
        obtain ⟨hasHeader, rfl⟩ := shown bytes rfl
        apply (computes_datagram (by rw [Nat.zero_add]; exact hasHeader)).bind
        exact Computes.pure _
  obtain ⟨after, executed, inStep⟩ := inStep.exec shows
  rw [increment, executed]
  exact inStep.map _

theorem checkSequence_agrees (hasHeader : headerSize ≤ data.length) (inStep : InStep data t w)
    (source : Address n) (hdr : MessageHeader) :
    Agree data (checkSequence source data hdr t) (w.checkSequence source data hdr) := by
  obtain ⟨rfl, -⟩ := id inStep
  rw [checkSequence, World.checkSequence]
  split
  · exact ⟨rfl, inStep⟩
  · have judged := inStep.map fun w =>
      (w.sequenceVerdict source data hdr.sequenceCounter).2
    have counted := fun counter =>
      increment_inStep judged counter (shown_rawHeader hasHeader)
    rcases verdict : t.state.sequenceVerdict source data hdr.sequenceCounter with
      ⟨result, after⟩
    rw [verdict] at judged counted
    cases result with
    | accept | firstSeen => exact ⟨rfl, judged⟩
    | duplicate | stale | tableFull => exact ⟨rfl, counted _⟩

theorem validate_agrees (inStep : InStep data t w) (source : Address n) :
    Agree data (validate source data t) (w.validate source data) := by
  rw [validate, World.validate]
  have arrived := inStep.map (World.emit (.received source data))
  obtain ⟨checking, executed, read⟩ := arrived.exec (computes_checkFrame cfg data)
  dsimp only
  rw [executed]
  cases checked : checkFrame cfg data with
  | error failure => exact ⟨rfl, increment_inStep read _ (shown_checkFrame checked)⟩
  | ok hdr =>
      have frame := checkFrame_ok_iff.mp checked
      have hasHeader : headerSize ≤ data.length := by
        have size := frame.size
        rw [MessageHeader.expectedSize] at size
        omega
      have sequenced := checkSequence_agrees hasHeader read source hdr
      dsimp only
      rcases left : checkSequence source data hdr checking with ⟨proceeds, after⟩
      rcases right : (w.emit (.received source data)).checkSequence source data hdr with
        ⟨proceed, judged⟩
      rw [left, right] at sequenced
      obtain ⟨equal, inStep⟩ := sequenced
      dsimp only at equal inStep
      subst equal
      cases proceeds with
      | false => exact ⟨rfl, inStep⟩
      | true =>
          obtain ⟨rfl, -⟩ := id inStep
          obtain ⟨done, executed, inStep⟩ := inStep.exec
            (computes_checkAuth frame source after.state)
          dsimp only
          rw [executed]
          dsimp only
          split
          · exact ⟨rfl, inStep.map _⟩
          · exact ⟨rfl, increment_inStep inStep _ (shown_rawHeader hasHeader)⟩

theorem computes_readPayload {hdr : MessageHeader} (checked : FrameChecked cfg data hdr) :
    Computes (regionSize cfg data) (readPayload data hdr) (payloadOf hdr data) := by
  have size := checked.size
  rw [MessageHeader.expectedSize] at size
  exact computes_datagram (by omega)

theorem callHandler_agrees (stays : env.StaysInside) {hdr : MessageHeader}
    (checked : FrameChecked cfg data hdr) (inStep : InStep data t w) (entry : ServiceEntry)
    {capacity : Option Nat}
    (room : capacity.getD 0 ≤ regionSize cfg data (answerRegion capacity)) :
    Agree data (callHandler env data hdr entry capacity t)
      (w.callHandler env entry hdr.methodEventId (payloadOf hdr data) capacity) := by
  obtain ⟨rfl, -⟩ := id inStep
  rw [callHandler, World.callHandler]
  obtain ⟨reading, executed, read⟩ := inStep.exec (computes_readPayload checked)
  rw [executed]
  dsimp only
  have entered := read.map fun w => w.emit
    (.onRequest entry w.rt.authenticator hdr.methodEventId (payloadOf hdr data) capacity)
  have same := entered.state_eq
  cases entry.context with
  | application context =>
      obtain ⟨answered, executed, written⟩ := entered.exec (computes_answer
        t.state.rt.responseBuffer room (stays entry t.state.rt.authenticator hdr.methodEventId
          (payloadOf hdr data) capacity t.state.history context))
      dsimp only
      rw [same, World.emit_rt, World.emit_history, executed]
      exact ⟨rfl, runScript_agrees data _ _ _ written⟩
  | diagnostics =>
      obtain ⟨answered, executed, written⟩ := entered.exec
        (computes_diagRequest checked t.state.rt (World.isReady env
          (t.state.emit (.onRequest entry t.state.rt.authenticator hdr.methodEventId
            (payloadOf hdr data) capacity))) room)
      dsimp only
      rw [same, World.emit_rt, executed]
      constructor
      · rfl
      · dsimp only
        apply written.map_to
        rfl

theorem dispatch_agrees (stays : env.StaysInside) {hdr : MessageHeader}
    (checked : FrameChecked cfg data hdr) (inStep : InStep data t w) :
    Agree data (dispatch env data hdr t)
      (w.dispatch env hdr.serviceId hdr.methodEventId (payloadOf hdr data)) := by
  obtain ⟨rfl, -⟩ := id inStep
  rw [dispatch, World.dispatch]
  cases t.state.rt.dispatcher.find hdr.serviceId with
  | none => exact ⟨rfl, inStep⟩
  | some entry =>
      dsimp only
      split
      · obtain ⟨equal, inStep⟩ := @callHandler_agrees _ _ _ env _ _ stays _ checked inStep entry
          (some cfg.maxPayloadSize) (Nat.le_refl _)
        rw [equal]
        constructor
        · rfl
        · dsimp only
          apply inStep.map_to
          rfl
      · exact ⟨rfl, inStep⟩

/-- A reply is copied from the response buffer, and from no more than all of it. -/
theorem copies_response (rt : Runtime cfg) (rc : ReturnCode) (responseLength : Nat) :
    Copies cfg data
      (if rc = .eOk then some (load .response rt.responseBuffer.bytes 0 responseLength) else none)
      (if rc = .eOk then some rt.responseBuffer.bytes else none)
      (if rc = .eOk then responseLength else 0) := by
  split
  · refine .inr ⟨_, _, rfl, rfl, fun fits => ?_⟩
    exact computes_load _ (by rw [Nat.zero_add]; exact fits)
  · exact .inl ⟨rfl, rfl⟩

theorem sendReply_inStep (inStep : InStep data t w) (source : Address n) (hdr : MessageHeader)
    (rc : ReturnCode) (responseLength : Nat) :
    InStep data (sendReply env source data hdr rc responseLength t)
      (w.sendReply env source hdr (payloadOf hdr data) rc responseLength) := by
  obtain ⟨rfl, -⟩ := id inStep
  have executed := inStep.map fun w => w.emit (.executed source hdr.requestId hdr.serviceId
    hdr.methodEventId (payloadOf hdr data) rc (World.responseOf w.rt rc responseLength))
  exact (transmit_agrees (copies_response t.state.rt rc responseLength) executed .reply source
    (World.makeReplyHeader hdr rc responseLength (t.state.rt.shouldAuthOutgoing source))
    (t.state.rt.shouldAuthOutgoing source)).countRefusal

theorem handleRequest_inStep (stays : env.StaysInside) {hdr : MessageHeader}
    (checked : FrameChecked cfg data hdr) (inStep : InStep data t w) (source : Address n) :
    InStep data (handleRequest env source data hdr t)
      (w.handleRequest env source hdr (payloadOf hdr data)) := by
  have dispatched := dispatch_agrees stays checked inStep
  rw [handleRequest, World.handleRequest]
  rcases left : dispatch env data hdr t with ⟨outcome, after⟩
  rcases right : w.dispatch env hdr.serviceId hdr.methodEventId (payloadOf hdr data) with
    ⟨result, done⟩
  rw [left, right] at dispatched
  obtain ⟨equal, inStep⟩ := dispatched
  dsimp only at equal inStep
  subst equal
  exact sendReply_inStep inStep source hdr _ _

theorem handleFireAndForget_inStep (stays : env.StaysInside) {hdr : MessageHeader}
    (checked : FrameChecked cfg data hdr) (inStep : InStep data t w) :
    InStep data (handleFireAndForget env data hdr t)
      (w.handleFireAndForget env hdr (payloadOf hdr data)) := by
  obtain ⟨rfl, -⟩ := id inStep
  rw [handleFireAndForget, World.handleFireAndForget]
  cases t.state.rt.dispatcher.find hdr.serviceId with
  | none => exact inStep.map _
  | some entry =>
      dsimp only
      split
      · exact (@callHandler_agrees _ _ _ env _ _ stays _ checked inStep entry none
          (Nat.zero_le _)).2
      · exact inStep

theorem handleReply_inStep {hdr : MessageHeader} (checked : FrameChecked cfg data hdr)
    (inStep : InStep data t w) :
    InStep data (handleReply env data hdr t) (w.handleReply env hdr (payloadOf hdr data)) :=
  RequestTracker.complete_alike (trackers_alike data)
    (fun callback _ _ holds => invokeRequest_inStep (react_agrees env data)
      (computes_readPayload checked) .reply callback ⟨hdr.returnCode⟩ holds)
    hdr.requestId inStep

theorem handleNotification_inStep {hdr : MessageHeader} (checked : FrameChecked cfg data hdr)
    (inStep : InStep data t w) :
    InStep data (handleNotification env data hdr t)
      (w.handleNotification env hdr (payloadOf hdr data)) := by
  obtain ⟨rfl, -⟩ := id inStep
  rw [handleNotification, World.handleNotification]
  cases t.state.findEventHandler hdr.serviceId hdr.methodEventId with
  | none => exact inStep
  | some entry =>
      obtain ⟨after, executed, inStep⟩ := inStep.exec (computes_readPayload checked)
      dsimp only
      rw [executed]
      exact callback_inStep inStep _

theorem hooks_alike (env : Env cfg) (data : Bytes) :
    ServiceDiscovery.Hooks.Alike (InStep data) (sdHooks env) (World.sdHooks env) where
  onServiceFound _ _ _ _ inStep := callback_inStep inStep _
  onServiceLost _ _ _ inStep := callback_inStep inStep _
  onSubscriptionAck _ _ _ _ _ _ inStep := callback_inStep inStep _

theorem discovery_alike (data : Bytes) :
    Lens.Alike (InStep data) (@World.sdLens n cfg).traced World.sdLens :=
  Lens.alike_traced _ _

theorem handleOffer_inStep (inStep : InStep data t w) (offer : SdPayload.Offer n)
    (nowMs : UInt32) :
    InStep data (handleOffer env offer nowMs t) (w.handleOffer env offer nowMs) := by
  obtain ⟨rfl, -⟩ := id inStep
  rw [handleOffer, World.handleOffer]
  apply ServiceDiscovery.handleOffer_alike (discovery_alike data) (hooks_alike env data)
  split
  · exact inStep.map _
  · exact inStep

theorem handleFind_inStep (inStep : InStep data t w) (source : Address n)
    (serviceId : UInt16) :
    InStep data (handleFind env source serviceId t) (w.handleFind env source serviceId) := by
  obtain ⟨rfl, -⟩ := id inStep
  exact Traced.Follows.foldl (fun _ _ message turn => sendSdUnicast_inStep turn source message)
    _ (inStep.map _)

theorem handleSubscribeRequest_inStep (inStep : InStep data t w) (source : Address n)
    (hdr : MessageHeader) (request : SdPayload.Subscribe) (nowMs : UInt32) :
    InStep data (handleSubscribeRequest env source hdr request nowMs t)
      (w.handleSubscribeRequest env source hdr request nowMs) := by
  obtain ⟨rfl, -⟩ := id inStep
  rw [handleSubscribeRequest, World.handleSubscribeRequest]
  rcases t.state.rt.eventManager.subscribe request.serviceId request.eventId hdr.clientId source
    request.ttlSeconds nowMs with ⟨result, eventManager⟩
  dsimp only
  obtain ⟨built, builds, inStep⟩ := inStep.exec (computes_ackFrame t.state.rt result
    request.serviceId request.eventId
    (if result = .eOk then
      if request.ttlSeconds > 0 then request.ttlSeconds else cfg.subscriptionTtlSeconds
    else 0))
  rw [builds]
  rcases acknowledged : World.ackFrame t.state.rt result request.serviceId request.eventId
    (if result = .eOk then
      if request.ttlSeconds > 0 then request.ttlSeconds else cfg.subscriptionTtlSeconds
    else 0) with ⟨txBuffer, total⟩
  have fits := ackFrame_total_le t.state.rt result request.serviceId request.eventId
    (if result = .eOk then
      if request.ttlSeconds > 0 then request.ttlSeconds else cfg.subscriptionTtlSeconds
    else 0)
  rw [acknowledged] at fits
  obtain ⟨sent, reads, inStep⟩ := inStep.exec (computes_transmitLoad txBuffer.bytes fits)
  have same := inStep.state_eq
  dsimp only
  rw [reads]
  dsimp only
  rw [same]
  apply inStep.map_to
  rfl

theorem handleSdMessage_inStep {hdr : MessageHeader} (checked : FrameChecked cfg data hdr)
    (inStep : InStep data t w) (source : Address n) (nowMs : UInt32) :
    InStep data (handleSdMessage env source data hdr nowMs t)
      (w.handleSdMessage env source hdr (payloadOf hdr data) nowMs) := by
  obtain ⟨find, finds, foundStep⟩ := inStep.exec (computes_deserializeFind checked)
  obtain ⟨offer, offers, offeredStep⟩ := inStep.exec (computes_deserializeOffer checked)
  obtain ⟨subscribe, subscribes, subscribedStep⟩ :=
    inStep.exec (computes_deserializeSubscribe checked)
  rw [handleSdMessage, World.handleSdMessage]
  dsimp only
  cases SdMethod.ofId hdr.methodEventId with
  | none => exact inStep
  | some method =>
      cases method with
      | offerService =>
          dsimp only
          rw [offers]
          cases SdPayload.deserializeOffer (payloadOf hdr data) with
          | none => exact offeredStep
          | some received => exact handleOffer_inStep offeredStep received nowMs
      | findService =>
          dsimp only
          rw [finds]
          cases SdPayload.deserializeFind (payloadOf hdr data) with
          | none => exact foundStep
          | some serviceId => exact handleFind_inStep foundStep source serviceId
      | subscribeEvent =>
          dsimp only
          rw [subscribes]
          cases SdPayload.deserializeSubscribe (payloadOf hdr data) with
          | none => exact subscribedStep
          | some request =>
              exact handleSubscribeRequest_inStep subscribedStep source hdr request nowMs
      | subscribeAck =>
          dsimp only
          rw [subscribes]
          cases SdPayload.deserializeSubscribe (payloadOf hdr data) with
          | none => exact subscribedStep
          | some ack =>
              exact ServiceDiscovery.handleSubscribeAck_alike (discovery_alike data)
                (hooks_alike env data) _ _ _ _ subscribedStep
      | unsubscribe =>
          dsimp only
          rw [subscribes]
          cases SdPayload.deserializeSubscribe (payloadOf hdr data) with
          | none => exact subscribedStep
          | some request => exact subscribedStep.map _

theorem dispatchMessage_inStep (stays : env.StaysInside) {hdr : MessageHeader}
    (checked : FrameChecked cfg data hdr) (inStep : InStep data t w) (source : Address n)
    (nowMs : UInt32) :
    InStep data (dispatchMessage env source data hdr nowMs t)
      (w.dispatchMessage env source hdr (payloadOf hdr data) nowMs) := by
  rw [dispatchMessage, World.dispatchMessage]
  split
  · exact handleSdMessage_inStep checked inStep source nowMs
  · cases MessageType.ofByte hdr.messageType with
    | none => exact inStep
    | some type =>
        cases type with
        | request => exact handleRequest_inStep stays checked inStep source
        | requestNoReturn => exact handleFireAndForget_inStep stays checked inStep
        | response => exact handleReply_inStep checked inStep
        | error => exact handleReply_inStep checked inStep
        | notification => exact handleNotification_inStep checked inStep

theorem validateAndDispatch_inStep (stays : env.StaysInside) (inStep : InStep data t w)
    (source : Address n) (nowMs : UInt32) :
    InStep data (validateAndDispatch env source data nowMs t)
      (w.validateAndDispatch env source data nowMs) := by
  have validated := validate_agrees inStep source
  rw [validateAndDispatch, World.validateAndDispatch]
  rcases left : validate source data t with ⟨outcome, after⟩
  rcases right : w.validate source data with ⟨passed, done⟩
  rw [left, right] at validated
  obtain ⟨equal, inStep⟩ := validated
  dsimp only at equal inStep
  subst equal
  cases outcome with
  | none => exact inStep
  | some hdr =>
      have checked := (World.validate_some (congrArg Prod.fst right)).1
      exact dispatchMessage_inStep stays checked inStep source nowMs

end TracedWorld

open TracedWorld in
/-- While a datagram of any length and content is processed, in any state, every index
read in the datagram lies below its length, and every index of the transmit and response
buffers below their sizes; and what is processed so is what the runtime does. -/
theorem datagram_inside_memory {env : Env cfg} (stays : env.StaysInside) (source : Address n)
    (data : Bytes) (nowMs : UInt32) (w : World cfg) :
    let after := validateAndDispatch env source data nowMs ⟨w, []⟩
    after.state = w.validateAndDispatch env source data nowMs ∧
      ∀ access ∈ after.log, access.Inside (regionSize cfg data) := by
  have inStep := validateAndDispatch_inStep stays (Traced.follows_start w : InStep data _ w)
    source nowMs
  exact ⟨inStep.state_eq, inStep.inside⟩

/-- A service that answers with a word wherever there is room for one. -/
def carefulEnv : Env embeddedConfig where
  sendOk _ _ _ := true
  broadcastOk _ _ := true
  isReady _ _ := true
  onRequest history _ _ _ :=
    match history with
    | .onRequest _ _ _ _ (some capacity) :: _ =>
        if 4 ≤ capacity then
          { code := .eOk, writes := [(0, [0, 0, 0, 7])], responseLength := 4 }
        else { code := .eNotOk }
    | _ => { code := .eOk }
  react _ := .done

theorem carefulEnv_staysInside : carefulEnv.StaysInside := by
  intro entry keys methodId payload capacity history context
  cases capacity with
  | none => exact Writes.inside_nil 0
  | some given =>
      simp only [carefulEnv, Option.getD_some]
      split
      · next room => exact Writes.inside_start room
      · exact Writes.inside_nil given

/-- A request is answered: the word is written and read back, copied behind the header and
sealed, and the frame is sent. -/
theorem word_request_inside_memory :
    let device := World.run carefulEnv [.api (.registerService 0x1000 0 1 0 false)]
      (World.initial _ 1)
    let data := messageFrame (World.wordRequest .request) [] []
    let after := TracedWorld.validateAndDispatch carefulEnv (Address.zero 8) data 0 ⟨device, []⟩
    (after.log.take 7).map (fun access => (access.region, access.offset, access.count)) =
        [(.transmit, 0, 26), (.transmit, 24, 2), (.transmit, 0, 24), (.transmit, 20, 4),
          (.response, 0, 4), (.transmit, 0, 20), (.response, 0, 4)] ∧
      after.state = device.validateAndDispatch carefulEnv (Address.zero 8) data 0 ∧
      ∀ access ∈ after.log, access.Inside (regionSize embeddedConfig data) :=
  ⟨by decide +kernel, datagram_inside_memory carefulEnv_staysInside _ _ _ _⟩

end Sero
