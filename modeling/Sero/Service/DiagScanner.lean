import Sero.Service.Diagnostics

/-!
# The diagnostics scanner

What the scanner among the examples makes of replies of the diagnostics service.  Of a list it
reads as many records as the count says, as long as whole ones are left.
-/

namespace Sero.DiagScanner

structure DeviceInfo where
  clientId : UInt16 := 0
  uptimeMs : UInt32 := 0
  protocolVersion : UInt8 := 0
  infoReceived : Bool := false
  deriving DecidableEq, Repr

structure DeviceDtc where
  code : UInt16 := 0
  severity : UInt8 := 0
  status : UInt8 := 0
  occurrenceCount : UInt32 := 0
  firstSeenMs : UInt32 := 0
  lastSeenMs : UInt32 := 0
  deriving DecidableEq, Repr

structure DeviceService where
  serviceId : UInt16 := 0
  major : UInt8 := 0
  minor : UInt8 := 0
  authRequired : Bool := false
  ready : Bool := false
  deriving DecidableEq, Repr

def onDeviceInfo (rc : ReturnCode) (payload : Bytes) (known : DeviceInfo) : DeviceInfo :=
  if rc = .eOk ∧ 8 ≤ payload.length then {
    clientId := readU16 payload 0
    uptimeMs := readU32 payload 2
    protocolVersion := byteAt payload 6
    infoReceived := true }
  else known

/-- The loop over a list reply, with `remaining` records still announced at an offset. -/
def readRecords {α : Type} (recordSize : Nat) (read : Bytes → Nat → α) (payload : Bytes) :
    (remaining offset : Nat) → List α
  | 0, _ => []
  | remaining + 1, offset =>
      if offset + recordSize ≤ payload.length then
        read payload offset :: readRecords recordSize read payload remaining (offset + recordSize)
      else []

/-- A list reply that is no success or too short leaves what is known as it was. -/
def onList {α : Type} (recordSize : Nat) (read : Bytes → Nat → α) (rc : ReturnCode)
    (payload : Bytes) (known : List α) : List α :=
  if rc ≠ .eOk ∨ payload.length < 2 then known
  else readRecords recordSize read payload (readU16 payload 0).toNat 2

def readService (payload : Bytes) (offset : Nat) : DeviceService where
  serviceId := readU16 payload offset
  major := byteAt payload (offset + 2)
  minor := byteAt payload (offset + 3)
  authRequired := byteAt payload (offset + 4) != 0
  ready := byteAt payload (offset + 5) != 0

def onServiceList : ReturnCode → Bytes → List DeviceService → List DeviceService :=
  onList 6 readService

def readDtc (payload : Bytes) (offset : Nat) : DeviceDtc where
  code := readU16 payload offset
  severity := byteAt payload (offset + 2)
  status := byteAt payload (offset + 3)
  occurrenceCount := readU32 payload (offset + 4)
  firstSeenMs := readU32 payload (offset + 8)
  lastSeenMs := readU32 payload (offset + 12)

def onDtcs : ReturnCode → Bytes → List DeviceDtc → List DeviceDtc :=
  onList 16 readDtc

/-- Records that lie one after another are read back in order. -/
theorem readRecords_flatten {α β : Type} {recordSize : Nat} {read : Bytes → Nat → α}
    {encode : β → Bytes} {shown : β → α} (sized : ∀ entry, (encode entry).length = recordSize)
    (reads : ∀ front entry rest,
      read (front ++ (encode entry ++ rest)) front.length = shown entry)
    (front : Bytes) (entries : List β) :
    readRecords recordSize read (front ++ (entries.map encode).flatten) entries.length
      front.length = entries.map shown := by
  induction entries generalizing front with
  | nil => rfl
  | cons entry entries ih =>
      have later := ih (front ++ encode entry)
      rw [List.append_assoc, List.length_append, sized] at later
      rw [List.map_cons, List.flatten_cons, List.length_cons, readRecords, if_pos, reads, later]
      · rfl
      · rw [List.length_append, List.length_append, sized]
        exact Nat.add_le_add_left (Nat.le_add_right _ _) _

end Sero.DiagScanner
