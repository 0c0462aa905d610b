import Sero.Library.ShiftRegister
import Sero.Security.Crc16

/-!
# What the checksum detects

The table-driven loop divides the frame, bit by bit, by the generator polynomial.  A frame
with its checksum leaves no remainder, and the remainder of a corrupted one is that of the
corruption: it is accepted only if the polynomial divides the error pattern.
-/

namespace Sero

open Library ShiftRegister

/-- The bits of a byte, most significant first. -/
def byteBits (byte : UInt8) : List Bool :=
  [7, 6, 5, 4, 3, 2, 1, 0].map byte.toBitVec.getLsbD

def bitsOf (data : Bytes) : List Bool :=
  data.flatMap byteBits

/-- Flip the bits of an error pattern. -/
def corrupt (data error : Bytes) : Bytes :=
  List.zipWith (· ^^^ ·) data error

theorem bitsOf_append (front back : Bytes) :
    bitsOf (front ++ back) = bitsOf front ++ bitsOf back :=
  List.flatMap_append

/-- All bits that are set lie within so many consecutive ones. -/
def IsBurst (count : Nat) (error : Bytes) : Prop :=
  ∃ start, ∀ place, (bitsOf error)[place]? = some true →
    start ≤ place ∧ place < start + count

/-- The generator `x^16 + x^12 + x^5 + 1`, without its leading term. -/
def crc16Polynomial : BitVec 16 := 0x1021

/-! ## The table -/

theorem crc16TableStep_eq (crc : UInt16) :
    (crc16TableStep crc).toBitVec = step crc16Polynomial crc.toBitVec false := by
  have top : crc &&& 0x8000 ≠ 0 ↔ crc.toBitVec.msb = true := by
    have masked : (crc &&& 0x8000).toBitVec = crc.toBitVec &&& BitVec.twoPow 16 15 := rfl
    rw [ne_eq, ← UInt16.toBitVec_inj, masked, BitVec.and_twoPow,
      BitVec.msb_eq_getLsbD_last]
    cases crc.toBitVec.getLsbD 15 <;> decide
  rw [crc16TableStep, step, Bool.xor_false]
  by_cases set : crc.toBitVec.msb = true
  · rw [if_pos (top.mpr set), if_pos set]
    rfl
  · rw [if_neg (top.not.mpr set), if_neg set]
    rfl

theorem crc16Table_eq (index : UInt8) :
    (crc16Table index).toBitVec =
      feed crc16Polynomial (index.toUInt16 <<< 8).toBitVec (List.replicate 8 false) := by
  have steps : ∀ (turns : List Nat) (crc : UInt16),
      (turns.foldl (fun crc _ => crc16TableStep crc) crc).toBitVec =
        feed crc16Polynomial crc.toBitVec (List.replicate turns.length false) := by
    intro turns
    induction turns with
    | nil => exact fun _ => rfl
    | cons turn rest ih =>
        intro crc
        rw [List.foldl_cons, ih, crc16TableStep_eq]
        rfl
  exact steps (List.range 8) (index.toUInt16 <<< 8)

/-- Feeding a byte to an empty register is the same as loading it into the upper half. -/
theorem feed_byteBits (byte : UInt8) :
    feed crc16Polynomial 0 (byteBits byte) =
      feed crc16Polynomial (byte.toUInt16 <<< 8).toBitVec (List.replicate 8 false) := by
  have tabulated : ∀ index : Fin 256,
      feed crc16Polynomial 0 (byteBits (UInt8.ofNat index)) =
        feed crc16Polynomial ((UInt8.ofNat index).toUInt16 <<< 8).toBitVec
          (List.replicate 8 false) := by decide +kernel
  have one := tabulated ⟨byte.toNat, byte.toNat_lt⟩
  rw [UInt8.ofNat_toNat] at one
  exact one

/-- The byte that is looked up, above the half of the register that is kept. -/
theorem register_split (crc : UInt16) (byte : UInt8) :
    crc.toBitVec ^^^ (byte.toUInt16 <<< 8).toBitVec =
      (((crc >>> 8) ^^^ byte.toUInt16).toUInt8.toUInt16 <<< 8).toBitVec ^^^
        (crc.toBitVec &&& 0xFF) := by
  have mask : ∀ place : Fin 16, (0xFF : BitVec 16).getLsbD place = decide (place.val < 8) := by
    decide
  have upper : ((crc >>> 8) ^^^ byte.toUInt16).toBitVec =
    (crc.toBitVec >>> 8) ^^^ byte.toBitVec.setWidth 16 := rfl
  have shifted : ∀ value : UInt16, (value <<< 8).toBitVec = value.toBitVec <<< 8 := fun _ => rfl
  apply BitVec.eq_of_getLsbD_eq
  intro place inside
  have kept := mask ⟨place, inside⟩
  rw [BitVec.getLsbD_xor, BitVec.getLsbD_xor, BitVec.getLsbD_and, kept, shifted, shifted,
    BitVec.getLsbD_shiftLeft, BitVec.getLsbD_shiftLeft, UInt8.toBitVec_toUInt16,
    UInt8.toBitVec_toUInt16, UInt16.toBitVec_toUInt8, upper]
  by_cases below : place < 8
  · simp [below, inside]
  · have small : place - 8 < 8 := by omega
    have wide : place - 8 < 16 := by omega
    have back : 8 + (place - 8) = place := by omega
    simp [below, inside, small, wide, back]

/-- One turn of the loop feeds one byte. -/
theorem crc16Byte_eq (crc : UInt16) (byte : UInt8) :
    (crc16Byte crc byte).toBitVec = feed crc16Polynomial crc.toBitVec (byteBits byte) := by
  have mask : ∀ place : Fin 8, (0xFF : BitVec 16).getMsbD place = false := by decide
  have clear : ∀ place < 8, (crc.toBitVec &&& 0xFF).getMsbD place = false := by
    intro place upper
    rw [BitVec.getMsbD_and, mask ⟨place, upper⟩, Bool.and_false]
  have moved : (crc.toBitVec &&& 0xFF) <<< 8 = (crc <<< 8).toBitVec := by
    have ones : (0xFF : BitVec 16) <<< 8 = BitVec.allOnes 16 <<< 8 := by decide
    change _ = crc.toBitVec <<< 8
    rw [BitVec.shiftLeft_and_distrib, ones, ← BitVec.shiftLeft_and_distrib,
      BitVec.and_allOnes]
  calc (crc16Byte crc byte).toBitVec
      = (crc <<< 8).toBitVec ^^^
          (crc16Table ((crc >>> 8) ^^^ byte.toUInt16).toUInt8).toBitVec := rfl
    _ = feed crc16Polynomial (crc.toBitVec ^^^ (byte.toUInt16 <<< 8).toBitVec)
          (List.replicate 8 false) := by
        rw [crc16Table_eq, register_split, feed_zeros_xor, feed_zeros_eq_shiftLeft clear,
          moved, BitVec.xor_comm]
    _ = feed crc16Polynomial crc.toBitVec (byteBits byte) := by
        rw [feed_zeros_xor, ← feed_byteBits, feed_eq crc.toBitVec (byteBits byte)]
        rfl

/-- The loop divides the data, starting from a register of ones. -/
theorem crc16Loop_eq (crc : UInt16) (data : Bytes) :
    (data.foldl crc16Byte crc).toBitVec = feed crc16Polynomial crc.toBitVec (bitsOf data) := by
  induction data generalizing crc with
  | nil => rfl
  | cons byte rest ih =>
      rw [List.foldl_cons, ih, crc16Byte_eq, bitsOf, bitsOf, List.flatMap_cons, feed_append]

/-- CRC-16/CCITT-FALSE: the register starts with all bits set and is fed the message, in each
byte the most significant bit first. -/
def crc16Definition (data : Bytes) : UInt16 :=
  .ofBitVec (feed crc16Polynomial (BitVec.allOnes 16) (bitsOf data))

/-- The table-driven loop computes the register of the bitwise definition. -/
theorem crc16Compute_refines (data : Bytes) : crc16Compute data = crc16Definition data := by
  apply UInt16.toBitVec_inj.mp
  exact crc16Loop_eq 0xFFFF data

example : crc16Definition [0x31, 0x32, 0x33, 0x34, 0x35, 0x36, 0x37, 0x38, 0x39] = 0x29B1 := by
  decide +kernel

/-! ## Verification -/

theorem bitsOf_writeU16 (value : UInt16) :
    bitsOf (writeU16 value) = (List.range 16).map value.toBitVec.getMsbD := by
  have upper : (value >>> 8).toUInt8.toBitVec = (value.toBitVec >>> 8).setWidth 8 := rfl
  have lower : value.toUInt8.toBitVec = value.toBitVec.setWidth 8 := rfl
  have places : List.range 16 = [0, 1, 2, 3, 4, 5, 6, 7, 8, 9, 10, 11, 12, 13, 14, 15] := by
    decide
  rw [places]
  simp only [bitsOf, writeU16, byteBits, upper, lower, List.flatMap_cons, List.flatMap_nil,
    List.map_cons, List.map_nil, List.cons_append, List.nil_append, List.append_nil,
    BitVec.getLsbD_setWidth, BitVec.getLsbD_ushiftRight, BitVec.getMsbD]
  rfl

/-- A register is cleared by its own two bytes. -/
theorem feed_own_bytes (crc : UInt16) :
    feed crc16Polynomial crc.toBitVec (bitsOf (writeU16 crc)) = 0 := by
  rw [bitsOf_writeU16, feed_own]
  exact BitVec.shiftLeft_eq_zero (Nat.le_refl 16)

/-- Two bytes clear a register only if they are its own. -/
theorem feed_bytes_eq_zero_iff (crc stored : UInt16) :
    feed crc16Polynomial crc.toBitVec (bitsOf (writeU16 stored)) = 0 ↔ crc = stored := by
  constructor
  · intro zero
    have own := feed_own_bytes stored
    rw [feed_eq] at zero own
    have difference : feed crc16Polynomial (crc.toBitVec ^^^ stored.toBitVec)
        (List.replicate (bitsOf (writeU16 stored)).length false) = 0 := by
      rw [feed_zeros_xor, ← xor_cancel _ _ (feed crc16Polynomial 0 (bitsOf (writeU16 stored))),
        zero, own]
      rfl
    have equal := feed_zeros_eq_zero (by decide) difference
    exact UInt16.toBitVec_inj.mp (BitVec.xor_eq_zero_iff.mp equal)
  · rintro rfl
    exact feed_own_bytes crc

/-- A frame is accepted exactly if it leaves no remainder. -/
theorem crc16Verify_iff (data : Bytes) :
    crc16Verify data = true ↔
      2 ≤ data.length ∧ feed crc16Polynomial (0xFFFF : UInt16).toBitVec (bitsOf data) = 0 := by
  by_cases short : data.length < 2
  · rw [crc16Verify, if_pos short]
    simp [Nat.not_le.mpr short]
  · have split : data.take (data.length - 2) ++ writeU16 (readU16 data (data.length - 2)) =
        data := by
      have trailer := @writeU16_readU16 data (data.length - 2) (by omega)
      have nothing : data.drop (data.length - 2 + 2) = [] :=
        List.drop_eq_nil_of_le (by omega)
      rw [nothing, List.append_nil] at trailer
      rw [trailer, List.take_append_drop]
    have fed : feed crc16Polynomial (0xFFFF : UInt16).toBitVec (bitsOf data) =
        feed crc16Polynomial (crc16Compute (data.take (data.length - 2))).toBitVec
          (bitsOf (writeU16 (readU16 data (data.length - 2)))) := by
      rw [crc16Compute, crc16Loop_eq, ← feed_append, ← bitsOf_append, split]
    rw [crc16Verify, if_neg short, beq_iff_eq, fed, feed_bytes_eq_zero_iff]
    simp [Nat.not_lt.mp short]

/-! ## Corruption -/

theorem byteBits_length (byte : UInt8) : (byteBits byte).length = 8 := rfl

theorem bitsOf_length (data : Bytes) : (bitsOf data).length = 8 * data.length := by
  induction data with
  | nil => rfl
  | cons byte rest ih =>
      rw [bitsOf, List.flatMap_cons, List.length_append, ← bitsOf, ih, byteBits_length,
        List.length_cons]
      omega

theorem bitsOf_corrupt (data error : Bytes) (sized : data.length = error.length) :
    bitsOf (corrupt data error) = List.zipWith xor (bitsOf data) (bitsOf error) := by
  induction data generalizing error with
  | nil => rfl
  | cons byte rest ih =>
      cases error with
      | nil => cases sized
      | cons flipped flips =>
          have one : byteBits (byte ^^^ flipped) =
              List.zipWith xor (byteBits byte) (byteBits flipped) := by
            simp only [byteBits, List.map_cons, List.map_nil, List.zipWith_cons_cons,
              List.zipWith_nil_right, UInt8.toBitVec_xor, BitVec.getLsbD_xor]
          have tail := ih flips (Nat.succ.inj sized)
          rw [corrupt, List.zipWith_cons_cons, ← corrupt, bitsOf, List.flatMap_cons, ← bitsOf,
            one, tail, bitsOf, bitsOf, bitsOf, bitsOf, List.flatMap_cons, List.flatMap_cons]
          exact (List.zipWith_append (by simp [byteBits_length])).symm

/-- What a corrupted frame leaves is what the error leaves on its own. -/
theorem crc16Verify_corrupt_iff {data error : Bytes} (sized : data.length = error.length)
    (passes : crc16Verify data = true) :
    crc16Verify (corrupt data error) = true ↔ feed crc16Polynomial 0 (bitsOf error) = 0 := by
  obtain ⟨longEnough, nothing⟩ := (crc16Verify_iff data).mp passes
  have bits : (bitsOf data).length = (bitsOf error).length := by
    rw [bitsOf_length, bitsOf_length, sized]
  have sum := @feed_xor _ crc16Polynomial (0xFFFF : UInt16).toBitVec 0 _ _ bits
  have same : (0xFFFF : UInt16).toBitVec ^^^ 0 = (0xFFFF : UInt16).toBitVec := by decide
  rw [same, nothing, ← bitsOf_corrupt data error sized] at sum
  have alone : (0 : BitVec 16) ^^^ feed crc16Polynomial 0 (bitsOf error) =
    feed crc16Polynomial 0 (bitsOf error) := BitVec.zero_xor
  have corruptLength : (corrupt data error).length = data.length := by
    rw [corrupt, List.length_zipWith, ← sized, Nat.min_self]
  rw [crc16Verify_iff, corruptLength, sum, alone, and_iff_right longEnough]

theorem exists_bit {error : Bytes} (nonzero : ∃ byte ∈ error, byte ≠ 0) :
    true ∈ bitsOf error := by
  have tabulated : ∀ index : Fin 256, UInt8.ofNat index ≠ 0 →
      true ∈ byteBits (UInt8.ofNat index) := by decide +kernel
  obtain ⟨byte, member, different⟩ := nonzero
  have one := tabulated ⟨byte.toNat, byte.toNat_lt⟩
  rw [UInt8.ofNat_toNat] at one
  exact List.mem_flatMap.mpr ⟨byte, member, one different⟩

/-- Around a burst nothing is set. -/
theorem IsBurst.split {count : Nat} {error : Bytes} (isBurst : IsBurst count error) :
    ∃ before burst after,
      bitsOf error = List.replicate before false ++ burst ++ List.replicate after false ∧
        burst.length ≤ count := by
  obtain ⟨start, confined⟩ := isBurst
  have front : (bitsOf error).take start =
      List.replicate ((bitsOf error).take start).length false := by
    apply List.eq_replicate_iff.mpr
    refine ⟨rfl, ?_⟩
    intro bit member
    obtain ⟨place, at_place⟩ := List.mem_iff_getElem?.mp member
    have early : place < start := by
      have inside := (List.getElem?_eq_some_iff.mp at_place).1
      rw [List.length_take] at inside
      omega
    rw [List.getElem?_take_of_lt early] at at_place
    cases bit with
    | false => rfl
    | true => exact absurd (confined place at_place).1 (by omega)
  have back : (bitsOf error).drop (start + count) =
      List.replicate ((bitsOf error).drop (start + count)).length false := by
    apply List.eq_replicate_iff.mpr
    refine ⟨rfl, ?_⟩
    intro bit member
    obtain ⟨place, at_place⟩ := List.mem_iff_getElem?.mp member
    rw [List.getElem?_drop] at at_place
    cases bit with
    | false => rfl
    | true => exact absurd (confined _ at_place).2 (by omega)
  have parts : bitsOf error = (bitsOf error).take start ++
      ((bitsOf error).drop start).take count ++ (bitsOf error).drop (start + count) := by
    rw [List.append_assoc, ← List.drop_drop, List.take_append_drop, List.take_append_drop]
  rw [front, back] at parts
  exact ⟨_, _, _, parts, List.length_take_le count ((bitsOf error).drop start)⟩

/-- Every burst of up to sixteen bits, and every error in an odd number of bits, leaves
something. -/
theorem feed_error_ne_zero {error : Bytes} (nonzero : ∃ byte ∈ error, byte ≠ 0)
    (detectable : IsBurst 16 error ∨ (bitsOf error).count true % 2 = 1) :
    feed crc16Polynomial 0 (bitsOf error) ≠ 0 := by
  cases detectable with
  | inl isBurst =>
      obtain ⟨before, burst, after, parts, short⟩ := isBurst.split
      have bitSet : true ∈ burst := by
        have somewhere := exists_bit nonzero
        rw [parts] at somewhere
        simpa [List.mem_replicate] using somewhere
      rw [parts]
      exact feed_burst_ne_zero (by decide) before after short bitSet
  | inr odd => exact feed_odd_ne_zero (by decide) odd

/-- An untouched frame is accepted; one with a burst of up to sixteen bits or with an odd
number of flipped bits is not. -/
theorem crc16_detects (data : Bytes) :
    crc16Verify (data ++ crc16Trailer data) = true ∧
      ∀ error : Bytes, error.length = data.length + crcSize →
        (∃ byte ∈ error, byte ≠ 0) →
        IsBurst 16 error ∨ (bitsOf error).count true % 2 = 1 →
          crc16Verify (corrupt (data ++ crc16Trailer data) error) = false := by
  have passes := crc16Verify_append_trailer data
  constructor
  · exact passes
  · intro error sized nonzero detectable
    have sameSize : (data ++ crc16Trailer data).length = error.length := by
      rw [List.length_append, crc16Trailer_length, sized]
    rw [← Bool.not_eq_true, crc16Verify_corrupt_iff sameSize passes]
    exact feed_error_ne_zero nonzero detectable

/-- The last four bits of the data and the first two of the trailer. -/
theorem crc16_detects_straddling :
    crc16Verify (corrupt ([0x31, 0x32] ++ crc16Trailer [0x31, 0x32])
      [0x00, 0x0F, 0xC0, 0x00]) = false := by
  have places : ∀ place < 32, (bitsOf [0x00, 0x0F, 0xC0, 0x00])[place]? = some true →
      12 ≤ place ∧ place < 28 := by decide +kernel
  apply (crc16_detects [0x31, 0x32]).2 [0x00, 0x0F, 0xC0, 0x00] rfl
  · exact ⟨0x0F, by decide, by decide⟩
  · apply Or.inl
    exists 12
    intro place bitSet
    exact places place (List.getElem?_eq_some_iff.mp bitSet).1 bitSet

end Sero
