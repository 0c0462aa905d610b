import Sero.Properties.Authentication

/-!
# The wire format of messages

A built message passes the receiver's checks and decodes to what was sent.  What the
receiver accepts is what a sender could have built, as long as it is not longer than
its header declares: the size check only rejects datagrams that are too short.
-/

namespace Sero

open Library

variable {n : Nat} {cfg : Config n}

/-! ## Round trip -/

/-- A header the receiver has no objection to, for a payload of this length. -/
structure ValidHeader (cfg : Config n) (hdr : MessageHeader) (payload : Bytes) : Prop where
  version : hdr.version = protocolVersion
  messageType : isValidMessageType hdr.messageType = true
  typeId : hdr.validateTypeIdConsistency = true
  clientId : hdr.validateClientId = true
  payloadLength : hdr.payloadLength.toNat = payload.length
  fits : payload.length ≤ cfg.maxPayloadSize

/-- The tag part of a datagram with this header. -/
def tagIn (hdr : MessageHeader) (data : Bytes) : Bytes :=
  if hdr.hasAuth then tagOf hdr data else []

section Parts

variable {hdr : MessageHeader} {body tag : Bytes}

theorem payloadOf_messageFrame (declared : hdr.payloadLength.toNat = body.length) :
    payloadOf hdr (messageFrame hdr body tag) = body := by
  rw [payloadOf, declared, payload_messageFrame]

theorem rawHeader_messageFrame (hdr : MessageHeader) (body tag : Bytes) :
    rawHeader (messageFrame hdr body tag) = hdr.serialize := by
  rw [rawHeader, messageFrame, List.append_assoc, ← MessageHeader.serialize_length hdr,
    List.take_left]

theorem tagOf_messageFrame (declared : hdr.payloadLength.toNat = body.length)
    (tagSize : tag.length = hmacSize) : tagOf hdr (messageFrame hdr body tag) = tag := by
  have front : (hdr.serialize ++ body).length = headerSize + body.length := by
    rw [List.length_append, MessageHeader.serialize_length]
  rw [tagOf, messageFrame, declared, ← List.append_assoc, List.append_assoc, ← front,
    List.drop_left, ← tagSize, List.take_left]

theorem messageFrame_size (declared : hdr.payloadLength.toNat = body.length)
    (tagSize : tag.length = if hdr.hasAuth then hmacSize else 0) :
    (messageFrame hdr body tag).length = hdr.expectedSize := by
  rw [messageFrame_length, MessageHeader.expectedSize, declared, tagSize]

/-- A frame with a valid header passes steps 1 to 7. -/
theorem frameChecked_messageFrame (valid : ValidHeader cfg hdr body)
    (tagSize : tag.length = if hdr.hasAuth then hmacSize else 0) :
    FrameChecked cfg (messageFrame hdr body tag) hdr where
  header := (deserialize_messageFrame hdr body tag).symm
  crc := crc16Verify_append_trailer _
  version := valid.version
  payloadLength := by rw [valid.payloadLength]; exact valid.fits
  size := (messageFrame_size valid.payloadLength tagSize).ge
  messageType := valid.messageType
  typeId := valid.typeId
  clientId := valid.clientId

end Parts

/-- Sender and receiver hold the same key for each other. -/
def SameKey (sender receiver : MessageAuthenticator cfg) (peer source : Address n) : Prop :=
  ∃ sent received, sender.findKey peer = some sent ∧
    receiver.findKey source = some received ∧ sent.key = received.key

/-- Step 9 accepts the tag that `build_message` writes. -/
theorem checkAuth_messageFrame {rt : Runtime cfg} {receiver : World cfg}
    {hdr : MessageHeader} {body : Bytes} {peer source : Address n}
    (declared : hdr.payloadLength.toNat = body.length)
    (sameKey : hdr.hasAuth = true →
      SameKey rt.authenticator receiver.rt.authenticator peer source)
    (allowed : hdr.hasAuth = true ∨ ∀ entry,
      receiver.rt.dispatcher.find hdr.serviceId = some entry → entry.authRequired = false) :
    receiver.checkAuth source (messageFrame hdr body
      (if hdr.hasAuth then rt.messageTag hdr.serialize body peer else [])) hdr = true := by
  rw [World.checkAuth]
  cases flagged : hdr.hasAuth with
  | true =>
      obtain ⟨sent, received, sentFound, receivedFound, same⟩ := sameKey flagged
      have tagSize := rt.messageTag_length hdr.serialize body peer
      rw [if_pos rfl, if_pos rfl, rawHeader_messageFrame, payloadOf_messageFrame declared,
        tagOf_messageFrame declared tagSize,
        MessageAuthenticator.verify_iff _ _ _ _ tagSize]
      refine ⟨received, receivedFound, ?_⟩
      rw [Runtime.messageTag, MessageAuthenticator.compute, sentFound, Option.map_some,
        Option.getD_some, computeHmacTwoPart_eq, same]
  | false =>
      rw [if_neg (by simp)]
      split
      · rfl
      · have open_ := allowed.resolve_left (by simp [flagged])
        cases found : receiver.rt.dispatcher.find hdr.serviceId with
        | none => rfl
        | some entry => simp [open_ entry found]

/-- What a built message is to its receiver. -/
structure RoundTrip (receiver : World cfg) (source : Address n) (hdr : MessageHeader)
    (payload frame : Bytes) : Prop where
  length : frame.length =
    headerSize + payload.length + (if hdr.hasAuth then hmacSize else 0) + crcSize
  bounded : frame.length ≤ maxMsgSize cfg
  checked : checkFrame cfg frame = .ok hdr
  authentic : receiver.checkAuth source frame hdr = true
  payload_eq : payloadOf hdr frame = payload

/-- The bytes `build_message` produces pass the receiver's steps 1 to 7 and 9, and decode
to the header and payload they were built from. -/
theorem builtFrame_roundTrip (sender : Runtime cfg) (receiver : World cfg)
    {hdr : MessageHeader} {payload : Bytes} {pointer : Option Bytes}
    (peer source : Address n) (valid : ValidHeader cfg hdr payload)
    (pointed : pointer = some payload ∨ pointer = none ∧ payload = [])
    (sameKey : hdr.hasAuth = true →
      SameKey sender.authenticator receiver.rt.authenticator peer source)
    (allowed : hdr.hasAuth = true ∨ ∀ entry,
      receiver.rt.dispatcher.find hdr.serviceId = some entry → entry.authRequired = false) :
    RoundTrip receiver source hdr payload
      (sender.builtFrame hdr pointer payload.length hdr.hasAuth peer) := by
  obtain ⟨body, tag, frame, size, copied, tagged⟩ :=
    buildMessage_frame sender hdr pointer payload.length hdr.hasAuth peer valid.fits
  have same : body = payload := by
    rcases pointed with given | ⟨-, rfl⟩
    · rw [copied payload given (Nat.le_refl _), List.take_length]
    · exact List.eq_nil_of_length_eq_zero size
  subst same
  have tagSize : tag.length = if hdr.hasAuth then hmacSize else 0 := by
    rw [tagged]
    split
    · exact sender.messageTag_length _ _ _
    · rfl
  have total := messageFrame_length hdr body tag
  rw [tagSize] at total
  have fits := valid.fits
  rw [frame]
  constructor
  · exact total
  · rw [total, maxMsgSize]
    split <;> omega
  · exact checkFrame_ok_iff.mpr (frameChecked_messageFrame valid tagSize)
  · rw [tagged]
    exact checkAuth_messageFrame valid.payloadLength sameKey allowed
  · exact payloadOf_messageFrame valid.payloadLength

/-! Two devices that hold the same key for each other. -/

def keyedDevice (peer : UInt8) : World embeddedConfig :=
  World.run (.benign _) [.api (.setHmacKey (Address.filled 8 peer) sharedKey)]
    (World.initial _ 1)

def signedHeader : MessageHeader where
  messageType := MessageType.request.toByte
  flags := flagAuth
  serviceId := 0x1000
  methodEventId := 1
  clientId := 7
  requestId := 1
  payloadLength := 3

theorem builtFrame_roundTrip_signed :
    RoundTrip (keyedDevice 2) (Address.filled 8 2) signedHeader [1, 2, 3]
      ((keyedDevice 3).rt.builtFrame signedHeader (some [1, 2, 3]) 3 true
        (Address.filled 8 3)) :=
  builtFrame_roundTrip (keyedDevice 3).rt (keyedDevice 2) (Address.filled 8 3)
    (Address.filled 8 2) ⟨rfl, by decide, by decide, by decide, rfl, by decide⟩ (.inl rfl)
    (fun _ => ⟨⟨Address.filled 8 3, sharedKey⟩, ⟨Address.filled 8 2, sharedKey⟩, by decide,
      by decide, rfl⟩)
    (.inl rfl)

/-! ## Canonical datagrams -/

/-- The datagram is as long as its header declares and is what its decoded parts encode
to. -/
structure Canonical (hdr : MessageHeader) (data : Bytes) : Prop where
  size : data.length = hdr.expectedSize
  reencodes : messageFrame hdr (payloadOf hdr data) (tagIn hdr data) = data

/-- Header, payload and tag are the front of a checked datagram. -/
theorem FrameChecked.front {data : Bytes} {hdr : MessageHeader}
    (checked : FrameChecked cfg data hdr) :
    hdr.serialize ++ (payloadOf hdr data ++ tagIn hdr data) =
      data.take (hdr.expectedSize - crcSize) := by
  have size := checked.size
  have whole : headerSize ≤ data.length := by
    simp only [MessageHeader.expectedSize] at size
    omega
  have split := MessageHeader.serialize_deserialize whole
  rw [← checked.header] at split
  have area : payloadOf hdr data ++ tagIn hdr data = (data.drop headerSize).take
      (hdr.payloadLength.toNat + if hdr.hasAuth then hmacSize else 0) := by
    rw [payloadOf, tagIn, List.take_add, List.drop_drop]
    cases hdr.hasAuth <;> rfl
  have total : hdr.expectedSize - crcSize = headerSize +
      (hdr.payloadLength.toNat + if hdr.hasAuth then hmacSize else 0) := by
    simp only [MessageHeader.expectedSize]
    omega
  have header : data.take headerSize = hdr.serialize := by
    rw [← split, ← MessageHeader.serialize_length hdr, List.take_left]
  rw [area, total, ← header, ← List.take_add]

/-- A checked datagram is canonical exactly if it is not longer than declared. -/
theorem FrameChecked.canonical_iff {data : Bytes} {hdr : MessageHeader}
    (checked : FrameChecked cfg data hdr) :
    Canonical hdr data ↔ data.length ≤ hdr.expectedSize := by
  constructor
  · intro canonical
    exact canonical.size.le
  · intro within
    have size := Nat.le_antisymm within checked.size
    refine ⟨size, ?_⟩
    have trailer := append_trailer_of_crc16Verify checked.crc
    rw [size, ← checked.front] at trailer
    exact trailer

/-- What passes steps 1 to 9 is canonical exactly if it carries no surplus bytes, and
without surplus bytes nothing else has the same header, payload and tag. -/
theorem accepted_canonical_iff {w : World cfg} {source : Address n} {data : Bytes}
    {hdr : MessageHeader} (passes : (w.validate source data).1 = some hdr) :
    (Canonical hdr data ↔ data.length ≤ hdr.expectedSize) ∧
      ∀ (v : World cfg) (other : Address n) (data' : Bytes),
        (v.validate other data').1 = some hdr →
        payloadOf hdr data' = payloadOf hdr data → tagIn hdr data' = tagIn hdr data →
        data.length ≤ hdr.expectedSize → data'.length ≤ hdr.expectedSize → data' = data := by
  have checked := (World.validate_some passes).1
  refine ⟨checked.canonical_iff, ?_⟩
  intro v other data' passes' samePayload sameTag within within'
  have checked' := (World.validate_some passes').1
  rw [← (checked'.canonical_iff.mpr within').reencodes, samePayload, sameTag,
    (checked.canonical_iff.mpr within).reencodes]

/-- A signed request with a payload is accepted by the device that shares the key. -/
theorem accepted_canonical_protected :
    let device := World.run (.benign _) (protectedMoves.take 2) (World.initial embeddedConfig 1)
    let hdr := MessageHeader.deserialize protectedRequest
    (device.validate (Address.zero 8) protectedRequest).1 = some hdr ∧
      (Canonical hdr protectedRequest ↔ protectedRequest.length ≤ hdr.expectedSize) := by
  intro device hdr
  have passes : (device.validate (Address.zero 8) protectedRequest).1 = some hdr := by
    decide +kernel
  exact ⟨passes, (accepted_canonical_iff passes).1⟩

def plainHeader : MessageHeader where
  messageType := MessageType.requestNoReturn.toByte
  serviceId := 0x1000
  methodEventId := 1
  clientId := 7

/-- An empty request with one byte more than it declares. -/
def surplusFrame : Bytes :=
  plainHeader.serialize ++ [0x41] ++ crc16Trailer (plainHeader.serialize ++ [0x41])

/-- It is accepted, as is the request without that byte. -/
theorem surplus_byte_accepted :
    ∃ w : World embeddedConfig, World.Reachable (.benign _) w ∧
      (w.validate (Address.zero 8) surplusFrame).1 = some plainHeader ∧
      (w.validate (Address.zero 8) (messageFrame plainHeader [] [])).1 = some plainHeader ∧
      surplusFrame.length ≠ plainHeader.expectedSize ∧ ¬Canonical plainHeader surplusFrame :=
  ⟨World.initial _ 1, ⟨1, [], rfl⟩, by decide +kernel, by decide +kernel, by decide,
    fun canonical => absurd canonical.size (by decide)⟩

end Sero
