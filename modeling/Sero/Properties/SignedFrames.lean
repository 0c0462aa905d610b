import Sero.Properties.Discard
import Sero.Properties.RequestFrames
import Sero.Properties.WireFormat

/-!
# Frames between devices

A device signs what it sends to a peer it holds a key for.  Another device, with limits of
its own, lets the frame through if it holds the same key or neither of them holds one, if the
service asks for no more, and if the sequence counter is not used up.
-/

namespace Sero

open Library

variable {n : Nat} {cfg : Config n}

/-- The key a device holds for a peer. -/
def MessageAuthenticator.keyFor (keys : MessageAuthenticator cfg) (peer : Address n) :
    Option Bytes :=
  (keys.findKey peer).map fun entry => entry.key.1

/-- A frame for a peer with whom this key is shared, or no key. -/
def signedFrame (key : Option Bytes) (hdr : MessageHeader) (body : Bytes) : Bytes :=
  messageFrame hdr body
    (key.elim [] fun key => (hmac key (hdr.serialize ++ body)).take hmacSize)

/-- A device lets a frame of a service through that has this source and sequence counter and is
signed with this key, or not at all. -/
structure World.Admits (w : World cfg) (source : Address n) (serviceId : UInt16) (counter : UInt8)
    (key : Option Bytes) : Prop where
  fresh : (w.rt.e2e.validateSequence source counter).1.passes = true
  sameKey : w.rt.authenticator.keyFor source = key
  allowed : ∀ entry, w.rt.dispatcher.find serviceId = some entry → entry.authRequired = true →
    key ≠ none

theorem shouldAuthOutgoing_eq (rt : Runtime cfg) (peer : Address n) :
    rt.shouldAuthOutgoing peer = (rt.authenticator.keyFor peer).isSome := by
  rw [Runtime.shouldAuthOutgoing, MessageAuthenticator.hasKey, MessageAuthenticator.keyFor,
    Option.isSome_map]

/-- The tag of a message to a peer is the one of the shared key. -/
theorem messageTag_keyFor (rt : Runtime cfg) (header20 body : Bytes) (peer : Address n) :
    (if rt.shouldAuthOutgoing peer then rt.messageTag header20 body peer else []) =
      (rt.authenticator.keyFor peer).elim [] fun key =>
        (hmac key (header20 ++ body)).take hmacSize := by
  rw [shouldAuthOutgoing_eq, Runtime.messageTag, MessageAuthenticator.compute,
    MessageAuthenticator.keyFor]
  cases rt.authenticator.findKey peer with
  | none => rfl
  | some entry =>
      simp only [Option.map_some, Option.isSome_some, if_true, Option.getD_some, Option.elim_some,
        computeHmacTwoPart_eq]

theorem signedFrame_tag_length (key : Option Bytes) {hdr : MessageHeader} (body : Bytes)
    (flagged : hdr.hasAuth = key.isSome) :
    (key.elim [] fun key => (hmac key (hdr.serialize ++ body)).take hmacSize).length =
      if hdr.hasAuth then hmacSize else 0 := by
  cases key with
  | none =>
      rw [flagged]
      rfl
  | some key =>
      rw [flagged]
      change ((hmac key (hdr.serialize ++ body)).take hmacSize).length = hmacSize
      rw [← computeHmacTwoPart_eq, computeHmacTwoPart_length]

/-- What a device builds for a peer. -/
theorem builtFrame_signed (rt : Runtime cfg) (hdr : MessageHeader) (pointer : Option Bytes)
    {payloadLength : Nat} (peer : Address n) (fits : payloadLength ≤ cfg.maxPayloadSize) :
    ∃ body, body.length = payloadLength ∧
      (∀ bytes, pointer = some bytes → payloadLength ≤ bytes.length →
        body = bytes.take payloadLength) ∧
      rt.builtFrame hdr pointer payloadLength (rt.shouldAuthOutgoing peer) peer =
        signedFrame (rt.authenticator.keyFor peer) hdr body := by
  obtain ⟨body, tag, frame, size, copied, tagged⟩ :=
    buildMessage_frame rt hdr pointer payloadLength (rt.shouldAuthOutgoing peer) peer fits
  refine ⟨body, size, copied, ?_⟩
  rw [frame, tagged, messageTag_keyFor, signedFrame]

/-- A payload that fits is sent as the bytes it stands for. -/
theorem builtFrame_denotes (rt : Runtime cfg) (hdr : MessageHeader) {payload : Payload}
    (peer : Address n) (fits : payload.length ≤ cfg.maxPayloadSize) :
    ∃ body, body.length = payload.length ∧ payload.Denotes body ∧
      rt.builtFrame hdr payload.data payload.length (rt.shouldAuthOutgoing peer) peer =
        signedFrame (rt.authenticator.keyFor peer) hdr body := by
  obtain ⟨body, size, copied, built⟩ := builtFrame_signed rt hdr payload.data peer fits
  refine ⟨body, size, ?_, built⟩
  cases payload with
  | bytes data =>
      rw [copied data rfl (Nat.le_refl _)]
      exact List.take_length
  | null length => exact size

namespace World

variable {w : World cfg} {source : Address n} {hdr : MessageHeader}

/-- A well-formed frame that step 8 and step 9 do not stop is not discarded. -/
theorem validate_messageFrame {body tag : Bytes} (valid : ValidHeader cfg hdr body)
    (tagSize : tag.length = if hdr.hasAuth then hmacSize else 0)
    (fresh : hdr.serviceId = sdServiceId ∨
      (w.rt.e2e.validateSequence source hdr.sequenceCounter).1.passes = true)
    (authentic : w.checkAuth source (messageFrame hdr body tag) hdr = true) :
    (w.validate source (messageFrame hdr body tag)).1 = some hdr := by
  have checked := checkFrame_ok_iff.mpr (frameChecked_messageFrame valid tagSize)
  have proceeds := (checkSequence_fst source (messageFrame hdr body tag) hdr
    (w.emit (.received source (messageFrame hdr body tag)))).mpr fresh
  obtain ⟨diag, rt, -⟩ := checkSequence_rt source (messageFrame hdr body tag) hdr
    (w.emit (.received source (messageFrame hdr body tag)))
  rw [validate, checked]
  dsimp only
  rcases sequence : (w.emit (.received source (messageFrame hdr body tag))).checkSequence source
    (messageFrame hdr body tag) hdr with ⟨proceed, after⟩
  rw [sequence] at proceeds rt
  dsimp only at proceeds rt
  subst proceeds
  have same : after.checkAuth source (messageFrame hdr body tag) hdr =
      w.checkAuth source (messageFrame hdr body tag) hdr :=
    checkAuth_congr (by rw [rt]; rfl) (by rw [rt]; rfl)
  dsimp only
  rw [same, authentic]
  rfl

/-- Who shares the key lets the frame through and finds in it what was sent. -/
theorem Admits.validate {key : Option Bytes} {body : Bytes}
    (admits : w.Admits source hdr.serviceId hdr.sequenceCounter key)
    (valid : ValidHeader cfg hdr body) (flagged : hdr.hasAuth = key.isSome) :
    (w.validate source (signedFrame key hdr body)).1 = some hdr ∧
      payloadOf hdr (signedFrame key hdr body) = body := by
  have tagSize := signedFrame_tag_length key body flagged
  refine ⟨validate_messageFrame valid tagSize (.inr admits.fresh) ?_,
    payloadOf_messageFrame valid.payloadLength⟩
  have shared := admits.sameKey
  rw [checkAuth]
  cases key with
  | none =>
      rw [flagged, Option.isSome_none, if_neg Bool.false_ne_true]
      split
      · rfl
      · cases found : w.rt.dispatcher.find hdr.serviceId with
        | none => rfl
        | some entry =>
            have open_ : entry.authRequired = false := by
              by_contra required
              exact admits.allowed entry found (Bool.not_eq_false _ ▸ required) rfl
            simp [open_]
  | some key =>
      rw [flagged, Option.isSome_some] at tagSize
      rw [MessageAuthenticator.keyFor, Option.map_eq_some_iff] at shared
      obtain ⟨entry, found, same⟩ := shared
      rw [if_pos rfl] at tagSize
      rw [flagged, Option.isSome_some, if_pos rfl, rawHeader_messageFrame,
        payloadOf_messageFrame valid.payloadLength,
        tagOf_messageFrame valid.payloadLength tagSize,
        MessageAuthenticator.verify_iff _ _ _ _ tagSize]
      exact ⟨entry, found, by rw [same, Option.elim_some]⟩

end World

end Sero
