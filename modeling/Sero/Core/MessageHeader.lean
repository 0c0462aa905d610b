import Sero.Core.Types

/-!
# The 20-byte message header

Serialization and deserialization are separate definitions, as in the source;
`deserialize_serialize` is the fact that ties them together.
-/

namespace Sero

/-! ## Big-endian fields -/

/-- The byte at an offset of a raw buffer. -/
def byteAt (data : Bytes) (offset : Nat) : UInt8 :=
  data.getD offset 0

def readU16 (data : Bytes) (offset : Nat) : UInt16 :=
  ((byteAt data offset).toUInt16 <<< 8) ||| (byteAt data (offset + 1)).toUInt16

def readU32 (data : Bytes) (offset : Nat) : UInt32 :=
  ((byteAt data offset).toUInt32 <<< 24) |||
    ((byteAt data (offset + 1)).toUInt32 <<< 16) |||
    ((byteAt data (offset + 2)).toUInt32 <<< 8) |||
    (byteAt data (offset + 3)).toUInt32

def writeU16 (value : UInt16) : Bytes :=
  [(value >>> 8).toUInt8, value.toUInt8]

def writeU32 (value : UInt32) : Bytes :=
  [(value >>> 24).toUInt8, (value >>> 16).toUInt8, (value >>> 8).toUInt8,
    value.toUInt8]

@[simp] theorem writeU16_length (value : UInt16) : (writeU16 value).length = 2 := rfl

@[simp] theorem writeU32_length (value : UInt32) : (writeU32 value).length = 4 := rfl

@[simp] theorem byteAt_append_left (left right : Bytes) (offset : Nat)
    (inside : offset < left.length) :
    byteAt (left ++ right) offset = byteAt left offset := by
  simp [byteAt, List.getD_eq_getElem?_getD, List.getElem?_append_left inside]

theorem byteAt_append_right (left right : Bytes) (offset : Nat) :
    byteAt (left ++ right) (left.length + offset) = byteAt right offset := by
  simp only [byteAt, List.getD_eq_getElem?_getD]
  rw [List.getElem?_append_right (by omega), Nat.add_sub_cancel_left]

theorem readU16_append_right (left right : Bytes) (offset : Nat) :
    readU16 (left ++ right) (left.length + offset) = readU16 right offset := by
  simp only [readU16, Nat.add_assoc, byteAt_append_right]

theorem readU32_append_right (left right : Bytes) (offset : Nat) :
    readU32 (left ++ right) (left.length + offset) = readU32 right offset := by
  simp only [readU32, Nat.add_assoc, byteAt_append_right]

/-- Cutting out the byte at bit `shift` of a word and putting it back in place
keeps exactly the bits of that byte. -/
theorem getLsbD_byteLane {width : Nat} (word : BitVec width) (shift index : Nat)
    (bound : index < width) :
    (((word >>> shift).setWidth 8).setWidth width <<< shift).getLsbD index =
      (decide (shift ≤ index) && decide (index < shift + 8) && word.getLsbD index) := by
  simp only [BitVec.getLsbD_shiftLeft, BitVec.getLsbD_setWidth,
    BitVec.getLsbD_ushiftRight, bound, decide_true, Bool.true_and]
  rcases Nat.lt_or_ge index shift with below | above
  · simp [below, Nat.not_le.mpr below]
  · have back : shift + (index - shift) = index := by omega
    have inside : index - shift < width := by omega
    have lane : index - shift < 8 ↔ index < shift + 8 := by omega
    simp [above, back, inside, lane, Nat.not_lt.mpr above]

theorem join_bytes16 (value : UInt16) :
    ((value >>> 8).toUInt8.toUInt16 <<< 8) ||| value.toUInt8.toUInt16 = value := by
  apply UInt16.toBitVec_inj.mp
  have lanes : ∀ word : BitVec 16,
      ((word >>> 8).setWidth 8).setWidth 16 <<< 8 |||
        ((word >>> 0).setWidth 8).setWidth 16 <<< 0 = word := by
    intro word
    apply BitVec.eq_of_getLsbD_eq
    intro index bound
    simp only [BitVec.getLsbD_or, getLsbD_byteLane _ _ _ bound]
    cases word.getLsbD index
    · simp
    · simp; omega
  have whole := lanes value.toBitVec
  rw [BitVec.ushiftRight_zero, BitVec.shiftLeft_zero] at whole
  exact whole

theorem join_bytes32 (value : UInt32) :
    ((value >>> 24).toUInt8.toUInt32 <<< 24) ||| ((value >>> 16).toUInt8.toUInt32 <<< 16) |||
      ((value >>> 8).toUInt8.toUInt32 <<< 8) ||| value.toUInt8.toUInt32 = value := by
  apply UInt32.toBitVec_inj.mp
  have lanes : ∀ word : BitVec 32,
      ((word >>> 24).setWidth 8).setWidth 32 <<< 24 |||
        ((word >>> 16).setWidth 8).setWidth 32 <<< 16 |||
        ((word >>> 8).setWidth 8).setWidth 32 <<< 8 |||
        ((word >>> 0).setWidth 8).setWidth 32 <<< 0 = word := by
    intro word
    apply BitVec.eq_of_getLsbD_eq
    intro index bound
    simp only [BitVec.getLsbD_or, getLsbD_byteLane _ _ _ bound]
    cases word.getLsbD index
    · simp
    · simp; omega
  have whole := lanes value.toBitVec
  rw [BitVec.ushiftRight_zero, BitVec.shiftLeft_zero] at whole
  exact whole

/-- A 16-bit field reads back wherever it was written. -/
theorem readU16_writeU16 (front rest : Bytes) (value : UInt16) (offset : Nat)
    (placed : front.length = offset) :
    readU16 (front ++ (writeU16 value ++ rest)) offset = value := by
  subst placed
  have first := byteAt_append_right front (writeU16 value ++ rest) 0
  have second := byteAt_append_right front (writeU16 value ++ rest) 1
  rw [Nat.add_zero] at first
  rw [readU16, first, second]
  exact join_bytes16 value

theorem readU32_writeU32 (front rest : Bytes) (value : UInt32) (offset : Nat)
    (placed : front.length = offset) :
    readU32 (front ++ (writeU32 value ++ rest)) offset = value := by
  subst placed
  have first := byteAt_append_right front (writeU32 value ++ rest) 0
  rw [Nat.add_zero] at first
  rw [readU32, first, byteAt_append_right front (writeU32 value ++ rest) 1,
    byteAt_append_right front (writeU32 value ++ rest) 2,
    byteAt_append_right front (writeU32 value ++ rest) 3]
  exact join_bytes32 value

/-- Reading one lane of a word with a single byte placed in it. -/
theorem lane_of_placed {width : Nat} (byte : BitVec 8) (placed shift : Nat)
    (fits : placed + 8 ≤ width)
    (apart : placed = shift ∨ placed + 8 ≤ shift ∨ shift + 8 ≤ placed) :
    ((byte.setWidth width <<< placed) >>> shift).setWidth 8 =
      if placed = shift then byte else 0#8 := by
  apply BitVec.eq_of_getLsbD_eq
  intro index bound
  simp only [BitVec.getLsbD_setWidth, BitVec.getLsbD_ushiftRight, BitVec.getLsbD_shiftLeft,
    bound, decide_true, Bool.true_and]
  rcases apart with rfl | above | below
  · have inside : placed + index < width := by omega
    have back : index < width := by omega
    simp [inside, back]
  · have beyond : byte.getLsbD (shift + index - placed) = false :=
      BitVec.getLsbD_of_ge _ _ (by omega)
    simp [beyond, show placed ≠ shift by omega]
  · simp [show shift + index < placed by omega, show placed ≠ shift by omega]

/-- Two bytes read as a field are written back unchanged. -/
theorem split_bytes16 (high low : UInt8) :
    writeU16 ((high.toUInt16 <<< 8) ||| low.toUInt16) = [high, low] := by
  have lanes : ∀ left right : BitVec 8, ∀ shift, shift = 8 ∨ shift = 0 →
      ((left.setWidth 16 <<< 8 ||| right.setWidth 16 <<< 0) >>> shift).setWidth 8 =
        if shift = 8 then left else right := by
    intro left right shift lane
    rw [BitVec.ushiftRight_or_distrib, BitVec.setWidth_or,
      lane_of_placed left 8 shift (by omega) (by omega),
      lane_of_placed right 0 shift (by omega) (by omega)]
    rcases lane with rfl | rfl <;> simp
  have word := lanes high.toBitVec low.toBitVec
  simp only [BitVec.shiftLeft_zero] at word
  have first : (((high.toUInt16 <<< 8) ||| low.toUInt16) >>> 8).toUInt8 = high :=
    UInt8.toBitVec_inj.mp (word 8 (by simp))
  have second : ((high.toUInt16 <<< 8) ||| low.toUInt16).toUInt8 = low :=
    UInt8.toBitVec_inj.mp (word 0 (by simp))
  rw [writeU16, first, second]

theorem split_bytes32 (first second third fourth : UInt8) :
    writeU32 ((first.toUInt32 <<< 24) ||| (second.toUInt32 <<< 16) |||
      (third.toUInt32 <<< 8) ||| fourth.toUInt32) = [first, second, third, fourth] := by
  have lanes : ∀ a b c d : BitVec 8, ∀ shift,
      shift = 24 ∨ shift = 16 ∨ shift = 8 ∨ shift = 0 →
      ((a.setWidth 32 <<< 24 ||| b.setWidth 32 <<< 16 ||| c.setWidth 32 <<< 8 |||
        d.setWidth 32 <<< 0) >>> shift).setWidth 8 =
        if shift = 24 then a else if shift = 16 then b else if shift = 8 then c else d := by
    intro a b c d shift lane
    rw [BitVec.ushiftRight_or_distrib, BitVec.ushiftRight_or_distrib,
      BitVec.ushiftRight_or_distrib, BitVec.setWidth_or, BitVec.setWidth_or,
      BitVec.setWidth_or, lane_of_placed a 24 shift (by omega) (by omega),
      lane_of_placed b 16 shift (by omega) (by omega),
      lane_of_placed c 8 shift (by omega) (by omega),
      lane_of_placed d 0 shift (by omega) (by omega)]
    rcases lane with rfl | rfl | rfl | rfl <;> simp
  have word := lanes first.toBitVec second.toBitVec third.toBitVec fourth.toBitVec
  simp only [BitVec.shiftLeft_zero] at word
  let joined := (first.toUInt32 <<< 24) ||| (second.toUInt32 <<< 16) |||
    (third.toUInt32 <<< 8) ||| fourth.toUInt32
  have byte1 : (joined >>> 24).toUInt8 = first := UInt8.toBitVec_inj.mp (word 24 (by simp))
  have byte2 : (joined >>> 16).toUInt8 = second := UInt8.toBitVec_inj.mp (word 16 (by simp))
  have byte3 : (joined >>> 8).toUInt8 = third := UInt8.toBitVec_inj.mp (word 8 (by simp))
  have byte4 : joined.toUInt8 = fourth := UInt8.toBitVec_inj.mp (word 0 (by simp))
  change [(joined >>> 24).toUInt8, (joined >>> 16).toUInt8, (joined >>> 8).toUInt8,
    joined.toUInt8] = _
  rw [byte1, byte2, byte3, byte4]

theorem byteAt_cons_drop {data : Bytes} {offset : Nat} (inside : offset < data.length) :
    byteAt data offset :: data.drop (offset + 1) = data.drop offset := by
  rw [byteAt, List.getD_eq_getElem?_getD, List.getElem?_eq_getElem inside, Option.getD_some,
    List.getElem_cons_drop]

/-- Writing what was read at an offset gives the bytes there. -/
theorem writeU16_readU16 {data : Bytes} {offset : Nat} (inside : offset + 2 ≤ data.length) :
    writeU16 (readU16 data offset) ++ data.drop (offset + 2) = data.drop offset := by
  rw [readU16, split_bytes16, ← byteAt_cons_drop (by omega : offset < data.length),
    ← byteAt_cons_drop (by omega : offset + 1 < data.length)]
  rfl

theorem writeU32_readU32 {data : Bytes} {offset : Nat} (inside : offset + 4 ≤ data.length) :
    writeU32 (readU32 data offset) ++ data.drop (offset + 4) = data.drop offset := by
  rw [readU32, split_bytes32, ← byteAt_cons_drop (by omega : offset < data.length),
    ← byteAt_cons_drop (by omega : offset + 1 < data.length),
    ← byteAt_cons_drop (by omega : offset + 1 + 1 < data.length),
    ← byteAt_cons_drop (by omega : offset + 1 + 1 + 1 < data.length)]
  rfl

/-! ## The header -/

structure MessageHeader where
  version : UInt8 := protocolVersion
  messageType : UInt8 := 0
  returnCode : UInt8 := 0
  flags : UInt8 := 0
  serviceId : UInt16 := 0
  methodEventId : UInt16 := 0
  clientId : UInt16 := 0
  sequenceCounter : UInt8 := 0
  reserved : UInt8 := 0
  requestId : UInt32 := 0
  payloadLength : UInt32 := 0
  deriving DecidableEq, Repr

namespace MessageHeader

def deserialize (data : Bytes) : MessageHeader where
  version := byteAt data 0
  messageType := byteAt data 1
  returnCode := byteAt data 2
  flags := byteAt data 3
  serviceId := readU16 data 4
  methodEventId := readU16 data 6
  clientId := readU16 data 8
  sequenceCounter := byteAt data 10
  reserved := byteAt data 11
  requestId := readU32 data 12
  payloadLength := readU32 data 16

def serialize (hdr : MessageHeader) : Bytes :=
  [hdr.version, hdr.messageType, hdr.returnCode, hdr.flags] ++
    writeU16 hdr.serviceId ++ writeU16 hdr.methodEventId ++ writeU16 hdr.clientId ++
    [hdr.sequenceCounter, hdr.reserved] ++
    writeU32 hdr.requestId ++ writeU32 hdr.payloadLength

/-- §2.5: bit 15 of the method or event id matches the message type. -/
def validateTypeIdConsistency (hdr : MessageHeader) : Bool :=
  typeIdConsistent hdr.messageType hdr.methodEventId

/-- §2.6: a request must carry a client id. -/
def validateClientId (hdr : MessageHeader) : Bool :=
  match MessageType.ofByte hdr.messageType with
  | some .request | some .requestNoReturn => hdr.clientId != 0x0000
  | _ => true

def hasAuth (hdr : MessageHeader) : Bool :=
  hdr.flags &&& flagAuth != 0

@[simp] theorem serialize_length (hdr : MessageHeader) :
    hdr.serialize.length = headerSize := rfl

/-- Whatever follows it, a serialized header reads back unchanged. -/
theorem deserialize_serialize (hdr : MessageHeader) (rest : Bytes) :
    deserialize (hdr.serialize ++ rest) = hdr := by
  have service := readU16_writeU16
    [hdr.version, hdr.messageType, hdr.returnCode, hdr.flags]
    (writeU16 hdr.methodEventId ++ writeU16 hdr.clientId ++
      [hdr.sequenceCounter, hdr.reserved] ++ writeU32 hdr.requestId ++
      writeU32 hdr.payloadLength ++ rest) hdr.serviceId 4 rfl
  have method := readU16_writeU16
    ([hdr.version, hdr.messageType, hdr.returnCode, hdr.flags] ++
      writeU16 hdr.serviceId)
    (writeU16 hdr.clientId ++ [hdr.sequenceCounter, hdr.reserved] ++
      writeU32 hdr.requestId ++ writeU32 hdr.payloadLength ++ rest)
    hdr.methodEventId 6 rfl
  have client := readU16_writeU16
    ([hdr.version, hdr.messageType, hdr.returnCode, hdr.flags] ++
      writeU16 hdr.serviceId ++ writeU16 hdr.methodEventId)
    ([hdr.sequenceCounter, hdr.reserved] ++ writeU32 hdr.requestId ++
      writeU32 hdr.payloadLength ++ rest) hdr.clientId 8 rfl
  have request := readU32_writeU32
    ([hdr.version, hdr.messageType, hdr.returnCode, hdr.flags] ++
      writeU16 hdr.serviceId ++ writeU16 hdr.methodEventId ++ writeU16 hdr.clientId ++
      [hdr.sequenceCounter, hdr.reserved])
    (writeU32 hdr.payloadLength ++ rest) hdr.requestId 12 rfl
  have payload := readU32_writeU32
    ([hdr.version, hdr.messageType, hdr.returnCode, hdr.flags] ++
      writeU16 hdr.serviceId ++ writeU16 hdr.methodEventId ++ writeU16 hdr.clientId ++
      [hdr.sequenceCounter, hdr.reserved] ++ writeU32 hdr.requestId)
    rest hdr.payloadLength 16 rfl
  simp only [List.append_assoc] at service method client request payload
  simp only [deserialize, serialize, List.append_assoc, service, method, client,
    request, payload]
  rfl

/-- The header of a datagram that has one is written back as its first 20 bytes. -/
theorem serialize_deserialize {data : Bytes} (hasHeader : headerSize ≤ data.length) :
    (deserialize data).serialize ++ data.drop headerSize = data := by
  simp only [headerSize] at *
  have bytes : ∀ offset, offset < 20 →
      byteAt data offset :: data.drop (offset + 1) = data.drop offset :=
    fun offset inside => byteAt_cons_drop (by omega)
  have service := @writeU16_readU16 data 4 (by omega)
  have method := @writeU16_readU16 data 6 (by omega)
  have client := @writeU16_readU16 data 8 (by omega)
  have request := @writeU32_readU32 data 12 (by omega)
  have payload := @writeU32_readU32 data 16 (by omega)
  simp only [deserialize, serialize, List.append_assoc, List.cons_append, List.nil_append]
  rw [payload, request, bytes 11 (by omega), bytes 10 (by omega), client, method, service,
    bytes 3 (by omega), bytes 2 (by omega), bytes 1 (by omega), bytes 0 (by omega),
    List.drop_zero]

end MessageHeader

end Sero
