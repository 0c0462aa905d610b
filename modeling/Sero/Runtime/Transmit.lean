import Sero.Runtime.World
import Sero.Security.Crc16

/-!
# Building and sending frames

Frames are assembled in the shared transmit buffer.  `buildMessage_frame` says
what a successful build leaves at its start, whatever the buffer held before.
-/

namespace Sero

open Library

variable {n : Nat} {cfg : Config n}

namespace Runtime

def shouldAuthOutgoing (rt : Runtime cfg) (peer : Address n) : Bool :=
  rt.authenticator.hasKey peer

/-- The tag written behind the payload; zeros when no key is stored. -/
def messageTag (rt : Runtime cfg) (header20 payload : Bytes) (peer : Address n) : Bytes :=
  (rt.authenticator.compute header20 payload peer).getD (List.replicate hmacSize 0)

/-- `build_message`: the total size, 0 for an oversized payload, and the transmit
buffer. -/
def buildMessage (rt : Runtime cfg) (hdr : MessageHeader) (payload : Option Bytes)
    (payloadLength : Nat) (auth : Bool) (peer : Address n) :
    Nat × Buffer (maxMsgSize cfg) :=
  if cfg.maxPayloadSize < payloadLength then (0, rt.txBuffer)
  else
    let tx := rt.txBuffer.write 0 hdr.serialize
    let tx :=
      match payload with
      | some bytes => tx.write headerSize (bytes.take payloadLength)
      | none => tx
    let offset := headerSize + payloadLength
    let (tx, offset) :=
      if auth then
        let header20 := tx.bytes.take headerSize
        let authenticated := (tx.bytes.drop headerSize).take payloadLength
        (tx.write offset (rt.messageTag header20 authenticated peer), offset + hmacSize)
      else (tx, offset)
    (offset + crcSize, tx.write offset (crc16Trailer (tx.bytes.take offset)))

/-- The bytes handed to the transport after a build. -/
def builtFrame (rt : Runtime cfg) (hdr : MessageHeader) (payload : Option Bytes)
    (payloadLength : Nat) (auth : Bool) (peer : Address n) : Bytes :=
  let (total, txBuffer) := rt.buildMessage hdr payload payloadLength auth peer
  txBuffer.bytes.take total

/-- An encoded discovery message in the transmit buffer, with its sequence counter
and checksum. -/
def stampSd (rt : Runtime cfg) (message : Bytes) : Buffer (maxMsgSize cfg) :=
  let tx := (rt.txBuffer.write 0 message).write 10 [rt.sdSeq]
  tx.write message.length (crc16Trailer (tx.bytes.take message.length))

end Runtime

/-! ## Frames -/

/-- Header, payload, tag and checksum in wire order. -/
def messageFrame (hdr : MessageHeader) (body tag : Bytes) : Bytes :=
  let signed := hdr.serialize ++ (body ++ tag)
  signed ++ crc16Trailer signed

theorem messageFrame_length (hdr : MessageHeader) (body tag : Bytes) :
    (messageFrame hdr body tag).length =
      headerSize + body.length + tag.length + crcSize := by
  simp only [messageFrame, List.length_append, MessageHeader.serialize_length,
    crc16Trailer_length]
  omega

@[simp] theorem deserialize_messageFrame (hdr : MessageHeader) (body tag : Bytes) :
    MessageHeader.deserialize (messageFrame hdr body tag) = hdr := by
  simp only [messageFrame, List.append_assoc hdr.serialize]
  exact MessageHeader.deserialize_serialize hdr (body ++ tag ++ crc16Trailer _)

/-- The payload bytes of a frame. -/
theorem payload_messageFrame (hdr : MessageHeader) (body tag : Bytes) :
    ((messageFrame hdr body tag).drop headerSize).take body.length = body := by
  rw [messageFrame, List.append_assoc, ← MessageHeader.serialize_length hdr,
    List.drop_left, List.append_assoc, List.take_left]

/-- What a receiver finds at the start of a built message. -/
def BuiltFrame (rt : Runtime cfg) (hdr : MessageHeader) (payload : Option Bytes)
    (payloadLength : Nat) (auth : Bool) (peer : Address n) (frame : Bytes) : Prop :=
  ∃ body tag, frame = messageFrame hdr body tag ∧ body.length = payloadLength ∧
    (∀ bytes, payload = some bytes → payloadLength ≤ bytes.length →
      body = bytes.take payloadLength) ∧
    tag = if auth then rt.messageTag hdr.serialize body peer else []

theorem Runtime.messageTag_length (rt : Runtime cfg) (header20 payload : Bytes)
    (peer : Address n) : (rt.messageTag header20 payload peer).length = hmacSize := by
  rw [messageTag, MessageAuthenticator.compute]
  cases rt.authenticator.findKey peer with
  | none => simp
  | some entry =>
      rw [Option.map_some, Option.getD_some]
      exact computeHmacTwoPart_length entry.key header20 payload

/-- Header and payload area of the transmit buffer before tag and checksum. -/
theorem take_header_payload (tx : Buffer (maxMsgSize cfg)) (hdr : MessageHeader)
    (payload : Option Bytes) (payloadLength : Nat)
    (fits : payloadLength ≤ cfg.maxPayloadSize) :
    let filled := match payload with
      | some bytes => (tx.write 0 hdr.serialize).write headerSize (bytes.take payloadLength)
      | none => tx.write 0 hdr.serialize
    filled.bytes.take headerSize = hdr.serialize ∧
      ∀ bytes, payload = some bytes → payloadLength ≤ bytes.length →
        (filled.bytes.drop headerSize).take payloadLength = bytes.take payloadLength := by
  intro filled
  have header : (tx.write 0 hdr.serialize).bytes.take headerSize = hdr.serialize := by
    have written := tx.take_write 0 hdr.serialize (by simp [maxMsgSize]; omega)
    simpa using written
  cases payload with
  | none => exact ⟨header, by simp⟩
  | some bytes =>
      have before : filled.bytes.take headerSize = hdr.serialize := by
        rw [← header]
        exact Buffer.take_write_of_le _ _ (Nat.le_refl _) (by simp [maxMsgSize]; omega)
      refine ⟨before, ?_⟩
      intro bytes same enough
      cases same
      have size : (bytes.take payloadLength).length = payloadLength := by
        rw [List.length_take, Nat.min_eq_left enough]
      have written := (tx.write 0 hdr.serialize).take_write headerSize
        (bytes.take payloadLength) (by rw [size]; simp [maxMsgSize]; omega)
      rw [size, header] at written
      have both := congrArg (List.drop headerSize) written
      rw [← MessageHeader.serialize_length hdr, List.drop_left,
        List.drop_take, Nat.add_sub_cancel_left] at both
      exact both

/-- A message that fits is built as header, payload, tag and checksum, whatever
the transmit buffer held before. -/
theorem buildMessage_frame (rt : Runtime cfg) (hdr : MessageHeader)
    (payload : Option Bytes) (payloadLength : Nat) (auth : Bool) (peer : Address n)
    (fits : payloadLength ≤ cfg.maxPayloadSize) :
    BuiltFrame rt hdr payload payloadLength auth peer
      (rt.builtFrame hdr payload payloadLength auth peer) := by
  let built := rt.buildMessage hdr payload payloadLength auth peer
  change BuiltFrame rt hdr payload payloadLength auth peer (built.2.bytes.take built.1)
  let filled : Buffer (maxMsgSize cfg) := match payload with
    | some bytes =>
        (rt.txBuffer.write 0 hdr.serialize).write headerSize (bytes.take payloadLength)
    | none => rt.txBuffer.write 0 hdr.serialize
  obtain ⟨header, copied⟩ := take_header_payload rt.txBuffer hdr payload payloadLength fits
  change filled.bytes.take headerSize = hdr.serialize at header
  let body := (filled.bytes.drop headerSize).take payloadLength
  have whole := filled.length_eq
  have bodyLength : body.length = payloadLength := by
    simp only [body, List.length_take, List.length_drop, whole, maxMsgSize]
    omega
  have front : filled.bytes.take (headerSize + payloadLength) = hdr.serialize ++ body := by
    rw [List.take_add, header]
  have small : ¬ cfg.maxPayloadSize < payloadLength := Nat.not_lt.mpr fits
  cases auth with
  | false =>
      have unfolded : built = (headerSize + payloadLength + crcSize,
          filled.write (headerSize + payloadLength)
            (crc16Trailer (filled.bytes.take (headerSize + payloadLength)))) := by
        simp only [built, Runtime.buildMessage, if_neg small]
        rfl
      refine ⟨body, [], ?_, bodyLength, copied, by simp⟩
      have written := filled.take_write (headerSize + payloadLength)
        (crc16Trailer (filled.bytes.take (headerSize + payloadLength)))
        (by rw [crc16Trailer_length]; simp only [maxMsgSize]; omega)
      rw [crc16Trailer_length] at written
      rw [unfolded, written, front]
      simp [messageFrame]
  | true =>
      let tag := rt.messageTag hdr.serialize body peer
      have tagLength : tag.length = hmacSize := rt.messageTag_length _ _ _
      let tagged := filled.write (headerSize + payloadLength) tag
      have unfolded : built = (headerSize + payloadLength + hmacSize + crcSize,
          tagged.write (headerSize + payloadLength + hmacSize)
            (crc16Trailer (tagged.bytes.take (headerSize + payloadLength + hmacSize)))) := by
        simp only [built, Runtime.buildMessage, if_neg small, if_true]
        rw [show (filled.bytes.take headerSize) = hdr.serialize from header]
      have signed : tagged.bytes.take (headerSize + payloadLength + hmacSize) =
          hdr.serialize ++ (body ++ tag) := by
        have written := filled.take_write (headerSize + payloadLength) tag
          (by rw [tagLength]; simp only [maxMsgSize]; omega)
        rwa [tagLength, front, List.append_assoc] at written
      refine ⟨body, tag, ?_, bodyLength, copied, by simp [tag]⟩
      have written := tagged.take_write (headerSize + payloadLength + hmacSize)
        (crc16Trailer (tagged.bytes.take (headerSize + payloadLength + hmacSize)))
        (by rw [crc16Trailer_length]; simp only [maxMsgSize]; omega)
      rw [crc16Trailer_length] at written
      rw [unfolded, written, signed]
      rfl

/-! ## Sending -/

namespace World

variable (env : Env cfg)

/-- Draw a sequence counter, build the message and hand it to the transport. -/
def transmit (kind : SendKind) (dest : Address n) (hdr : MessageHeader)
    (payload : Option Bytes) (payloadLength : Nat) (auth : Bool) (w : World cfg) :
    Bool × World cfg :=
  let (sequenceCounter, e2e) := w.rt.e2e.nextSequence
  let hdr := { hdr with sequenceCounter }
  let txBuffer := (w.rt.buildMessage hdr payload payloadLength auth dest).2
  let frame := w.rt.builtFrame hdr payload payloadLength auth dest
  let ok := env.sendOk w.history dest frame
  (ok, World.emit (.sent kind dest frame ok) { w with rt := { w.rt with e2e, txBuffer } })

def sendSdBroadcast (message : SdMessage n) (w : World cfg) : World cfg :=
  let bytes := message.encode w.rt.sd.clientId
  if maxMsgSize cfg < bytes.length + crcSize then w
  else
    let txBuffer := w.rt.stampSd bytes
    let frame := txBuffer.bytes.take (bytes.length + crcSize)
    let ok := env.broadcastOk w.history frame
    World.countRefusal ok (World.emit (.broadcast frame ok)
      { w with rt := { w.rt with txBuffer, sdSeq := w.rt.sdSeq + 1 } })

def sendSdUnicast (dest : Address n) (message : SdMessage n) (w : World cfg) : World cfg :=
  let bytes := message.encode w.rt.sd.clientId
  if maxMsgSize cfg < bytes.length + crcSize then w
  else
    let txBuffer := w.rt.stampSd bytes
    let frame := txBuffer.bytes.take (bytes.length + crcSize)
    let ok := env.sendOk w.history dest frame
    World.countRefusal ok (World.emit (.sent .sd dest frame ok)
      { w with rt := { w.rt with txBuffer, sdSeq := w.rt.sdSeq + 1 } })

end World

end Sero
