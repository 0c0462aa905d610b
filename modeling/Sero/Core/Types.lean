import Mathlib.Data.List.Basic

/-!
# Protocol constants, enumerations and configuration

Enumerations that the wire carries as one byte keep their byte: a `ReturnCode`
may hold any value a peer sends, not only the named ones.  `TransportAddressSize`
is the index of `Config` rather than a field, so that devices with different
resource limits can share one network.
-/

namespace Sero

/-- A byte string. -/
abbrev Bytes := List UInt8

def protocolVersion : UInt8 := 0x01
def sdServiceId : UInt16 := 0xFFFF
def diagServiceId : UInt16 := 0xFFFE
def clientIdProvider : UInt16 := 0x0000
def requestIdNone : UInt32 := 0x00000000
def headerSize : Nat := 20
def crcSize : Nat := 2
def hmacSize : Nat := 16
def minMessageSize : Nat := headerSize + crcSize

/-- Bit 0 of the flags byte: an HMAC trailer is present. -/
def flagAuth : UInt8 := 0x01

/-! ## Configuration -/

/-- Compile-time configuration, with the `static_assert`s of `Runtime`. -/
structure Config (transportAddressSize : Nat) where
  maxPayloadSize : Nat
  maxServices : Nat
  maxEvents : Nat
  maxSubscribers : Nat
  maxPendingRequests : Nat
  maxKnownServices : Nat
  requestTimeoutMs : UInt32
  offerTtlSeconds : UInt16
  subscriptionTtlSeconds : UInt16
  sdFindRetryCount : UInt8
  sdFindInitialDelayMs : UInt32
  sdFindBackoffMultiplier : UInt8
  sdFindJitterMs : UInt32
  seqCounterAcceptWindow : UInt8
  maxReceiveQueueSize : Nat
  maxTrackedPeers : Nat
  hmacKeySize : Nat
  maxDtcs : Nat
  services_events_le : maxServices * maxEvents ≤ 1024 := by decide
  knownServices_events_le : maxKnownServices * maxEvents ≤ 1024 := by decide
  maxPayloadSize_le : maxPayloadSize ≤ 8192 := by decide

/-- `DefaultConfig`. -/
def defaultConfig : Config 8 where
  maxPayloadSize := 1400
  maxServices := 16
  maxEvents := 16
  maxSubscribers := 8
  maxPendingRequests := 16
  maxKnownServices := 32
  requestTimeoutMs := 1000
  offerTtlSeconds := 5
  subscriptionTtlSeconds := 10
  sdFindRetryCount := 3
  sdFindInitialDelayMs := 100
  sdFindBackoffMultiplier := 2
  sdFindJitterMs := 50
  seqCounterAcceptWindow := 15
  maxReceiveQueueSize := 16
  maxTrackedPeers := 32
  hmacKeySize := 32
  maxDtcs := 32

/-- `EmbeddedConfig`. -/
def embeddedConfig : Config 8 where
  maxPayloadSize := 256
  maxServices := 4
  maxEvents := 4
  maxSubscribers := 4
  maxPendingRequests := 4
  maxKnownServices := 8
  requestTimeoutMs := 500
  offerTtlSeconds := 5
  subscriptionTtlSeconds := 10
  sdFindRetryCount := 3
  sdFindInitialDelayMs := 100
  sdFindBackoffMultiplier := 2
  sdFindJitterMs := 50
  seqCounterAcceptWindow := 15
  maxReceiveQueueSize := 8
  maxTrackedPeers := 8
  hmacKeySize := 32
  maxDtcs := 8

/-- A transport address: exactly `TransportAddressSize` bytes. -/
abbrev Address (n : Nat) := { bytes : Bytes // bytes.length = n }

/-- A pre-shared key: exactly `HmacKeySize` bytes. -/
abbrev HmacKey {n : Nat} (cfg : Config n) :=
  { bytes : Bytes // bytes.length = cfg.hmacKeySize }

/-! ## Types and ids -/

inductive MessageType where
  | request
  | requestNoReturn
  | response
  | notification
  | error
  deriving DecidableEq, Repr

namespace MessageType

def toByte : MessageType → UInt8
  | request => 0x00
  | requestNoReturn => 0x01
  | response => 0x02
  | notification => 0x03
  | error => 0x80

/-- The `static_cast` from a message-type byte; `none` for a reserved value. -/
def ofByte (value : UInt8) : Option MessageType :=
  if value = 0x00 then some request
  else if value = 0x01 then some requestNoReturn
  else if value = 0x02 then some response
  else if value = 0x03 then some notification
  else if value = 0x80 then some error
  else none

@[simp] theorem ofByte_toByte (type : MessageType) : ofByte type.toByte = some type := by
  cases type <;> rfl

theorem ofByte_eq_some_iff (value : UInt8) (type : MessageType) :
    ofByte value = some type ↔ value = type.toByte := by
  constructor
  · intro decoded
    rw [ofByte] at decoded
    repeat' split at decoded
    all_goals cases decoded
    all_goals assumption
  · rintro rfl
    exact ofByte_toByte type

end MessageType

/-- `is_valid_message_type`. -/
def isValidMessageType (value : UInt8) : Bool :=
  value == 0x00 || value == 0x01 || value == 0x02 || value == 0x03 || value == 0x80

theorem isValidMessageType_iff (value : UInt8) :
    isValidMessageType value = true ↔ ∃ type, MessageType.ofByte value = some type := by
  simp only [isValidMessageType, MessageType.ofByte, Bool.or_eq_true, beq_iff_eq]
  repeat' split
  all_goals simp_all

/-- A return code byte.  Values without a name belong to the application. -/
structure ReturnCode where
  toByte : UInt8
  deriving DecidableEq, Repr

namespace ReturnCode

def eOk : ReturnCode := ⟨0x00⟩
def eNotOk : ReturnCode := ⟨0x01⟩
def eUnknownService : ReturnCode := ⟨0x02⟩
def eUnknownMethod : ReturnCode := ⟨0x03⟩
def eNotReady : ReturnCode := ⟨0x04⟩
def eTimeout : ReturnCode := ⟨0x06⟩
def eMalformedMessage : ReturnCode := ⟨0x07⟩

end ReturnCode

inductive SdMethod where
  | offerService
  | findService
  | subscribeEvent
  | subscribeAck
  | unsubscribe
  deriving DecidableEq, Repr

namespace SdMethod

def toId : SdMethod → UInt16
  | offerService => 0x0001
  | findService => 0x0002
  | subscribeEvent => 0x0003
  | subscribeAck => 0x0004
  | unsubscribe => 0x0005

/-- The `static_cast` from a method id; `none` falls through the `switch`. -/
def ofId (id : UInt16) : Option SdMethod :=
  if id = 0x0001 then some offerService
  else if id = 0x0002 then some findService
  else if id = 0x0003 then some subscribeEvent
  else if id = 0x0004 then some subscribeAck
  else if id = 0x0005 then some unsubscribe
  else none

@[simp] theorem ofId_toId (method : SdMethod) : ofId method.toId = some method := by
  cases method <;> rfl

end SdMethod

def isEventId (id : UInt16) : Bool := id &&& 0x8000 != 0

def isMethodId (id : UInt16) : Bool := id &&& 0x8000 == 0

/-- `type_id_consistent`: bit 15 of the id matches the message type. -/
def typeIdConsistent (messageType : UInt8) (methodEventId : UInt16) : Bool :=
  match MessageType.ofByte messageType with
  | some .request | some .requestNoReturn | some .response | some .error =>
      isMethodId methodEventId
  | some .notification => isEventId methodEventId
  | none => false

/-- Discovery's operations are methods. -/
theorem SdMethod.isMethodId_toId (method : SdMethod) : isMethodId method.toId = true := by
  cases method <;> decide

inductive DiagnosticCounter where
  | crcErrors
  | versionMismatches
  | oversizedPayloads
  | typeIdMismatches
  | duplicateMessages
  | staleMessages
  | authFailures
  | unknownMessageTypes
  | droppedMessages
  deriving DecidableEq, Repr

namespace DiagnosticCounter

/-- The counters in enumeration order. -/
def all : List DiagnosticCounter :=
  [crcErrors, versionMismatches, oversizedPayloads, typeIdMismatches,
    duplicateMessages, staleMessages, authFailures, unknownMessageTypes,
    droppedMessages]

end DiagnosticCounter

/-- Counter storage; `callback` tells whether an application callback is set. -/
structure DiagnosticCounters where
  counters : DiagnosticCounter → UInt32 := fun _ => 0
  callback : Bool := false

/-- The saturating part of `DiagnosticCounters::increment`. -/
def DiagnosticCounters.increment (diag : DiagnosticCounters)
    (counter : DiagnosticCounter) : DiagnosticCounters :=
  { diag with
    counters := fun other =>
      if other = counter then
        if diag.counters other < 0xFFFFFFFF then diag.counters other + 1
        else diag.counters other
      else diag.counters other }

/-! ## Wrapping millisecond clocks -/

/-- `static_cast<int32_t>(now - target) > 0`. -/
def timeAfter (now target : UInt32) : Bool :=
  decide (0 < (now - target).toBitVec.toInt)

/-- `static_cast<int32_t>(now - target) >= 0`. -/
def timeAfterOrEq (now target : UInt32) : Bool :=
  decide (0 ≤ (now - target).toBitVec.toInt)

/-- A deadline lies in the past exactly while at most half the clock's range has
elapsed since it. -/
theorem timeAfter_iff (now target : UInt32) :
    timeAfter now target = true ↔
      0 < (now - target).toNat ∧ (now - target).toNat < 0x80000000 := by
  have bounded := (now - target).toBitVec.isLt
  have value : (now - target).toBitVec.toNat = (now - target).toNat := rfl
  simp only [timeAfter, decide_eq_true_eq, BitVec.toInt_eq_toNat_cond, value]
  split <;> omega

theorem timeAfterOrEq_iff (now target : UInt32) :
    timeAfterOrEq now target = true ↔ (now - target).toNat < 0x80000000 := by
  have bounded := (now - target).toBitVec.isLt
  have value : (now - target).toBitVec.toNat = (now - target).toNat := rfl
  simp only [timeAfterOrEq, decide_eq_true_eq, BitVec.toInt_eq_toNat_cond, value]
  split <;> omega

/-- A deadline at most half the clock's range ahead does not pass early. -/
theorem timeAfter_add_of_le (now : UInt32) {elapsed delay : UInt32}
    (within : elapsed.toNat ≤ delay.toNat) (short : delay.toNat < 0x80000000) :
    timeAfter (now + elapsed) (now + delay) = false := by
  rw [← Bool.not_eq_true, timeAfter_iff, UInt32.toNat_sub, UInt32.toNat_add,
    UInt32.toNat_add]
  have bounded := elapsed.toNat_lt
  have nowBounded := now.toNat_lt
  omega

/-- A lifetime in seconds never wraps as milliseconds. -/
theorem toNat_lifetime (seconds : UInt16) :
    (seconds.toUInt32 * 1000).toNat = seconds.toNat * 1000 := by
  have bounded := seconds.toNat_lt
  rw [UInt32.toNat_mul, UInt16.toNat_toUInt32]
  change seconds.toNat * 1000 % _ = _
  omega

theorem toNat_halfLifetime (seconds : UInt16) :
    (seconds.toUInt32 * 500).toNat = seconds.toNat * 500 := by
  have bounded := seconds.toNat_lt
  rw [UInt32.toNat_mul, UInt16.toNat_toUInt32]
  change seconds.toNat * 500 % _ = _
  omega

end Sero
