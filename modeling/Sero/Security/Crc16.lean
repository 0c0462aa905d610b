import Sero.Core.MessageHeader

/-!
# CRC-16/CCITT-FALSE

Polynomial `0x1021`, initial register `0xFFFF`, no reflection.  `crc16Table` is
the function the compile-time lookup table tabulates.
-/

namespace Sero

/-- One bit of the table's inner loop. -/
def crc16TableStep (crc : UInt16) : UInt16 :=
  if crc &&& 0x8000 ≠ 0 then (crc <<< 1) ^^^ 0x1021 else crc <<< 1

/-- `Crc16Table::entries[index]`. -/
def crc16Table (index : UInt8) : UInt16 :=
  (List.range 8).foldl (fun crc _ => crc16TableStep crc) (index.toUInt16 <<< 8)

/-- One byte of the `crc16_compute` loop. -/
def crc16Byte (crc : UInt16) (byte : UInt8) : UInt16 :=
  (crc <<< 8) ^^^ crc16Table ((crc >>> 8) ^^^ byte.toUInt16).toUInt8

def crc16Compute (data : Bytes) : UInt16 :=
  data.foldl crc16Byte 0xFFFF

/-- The two bytes `crc16_append` writes behind the data. -/
def crc16Trailer (data : Bytes) : Bytes :=
  writeU16 (crc16Compute data)

/-- The last two bytes are the CRC of all bytes before them. -/
def crc16Verify (data : Bytes) : Bool :=
  if data.length < 2 then false
  else
    let payloadLen := data.length - 2
    crc16Compute (data.take payloadLen) == readU16 data payloadLen

@[simp] theorem crc16Trailer_length (data : Bytes) :
    (crc16Trailer data).length = crcSize := rfl

/-- An untouched buffer passes its own check. -/
theorem crc16Verify_append_trailer (data : Bytes) :
    crc16Verify (data ++ crc16Trailer data) = true := by
  have longEnough : ¬(data ++ crc16Trailer data).length < 2 := by
    simp [crcSize]
  have prefixLength : (data ++ crc16Trailer data).length - 2 = data.length := by
    simp [crcSize]
  have stored := readU16_writeU16 data [] (crc16Compute data) data.length rfl
  rw [List.append_nil] at stored
  rw [crc16Verify, if_neg longEnough]
  simp only [prefixLength, List.take_left']
  exact beq_iff_eq.mpr stored.symm

/-- What passes the check ends with the trailer of the bytes before it. -/
theorem append_trailer_of_crc16Verify {data : Bytes} (passes : crc16Verify data = true) :
    data.take (data.length - crcSize) ++ crc16Trailer (data.take (data.length - crcSize)) =
      data := by
  rw [crc16Verify] at passes
  split at passes
  · cases passes
  · next longEnough =>
      have stored : crc16Compute (data.take (data.length - crcSize)) =
          readU16 data (data.length - crcSize) := eq_of_beq passes
      have trailer := @writeU16_readU16 data (data.length - crcSize)
        (by simp only [crcSize]; omega)
      have nothing : data.drop (data.length - crcSize + 2) = [] := by
        apply List.drop_eq_nil_of_le
        simp only [crcSize]
        omega
      rw [nothing, List.append_nil] at trailer
      rw [crc16Trailer, stored, trailer, List.take_append_drop]

end Sero
