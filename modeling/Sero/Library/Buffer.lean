import Mathlib.Data.List.Basic

/-!
# Byte buffers of fixed size

A transmit or response buffer is an array that is overwritten in place and never
cleared: what a write does not cover keeps its earlier contents.  A callee that is lent a
buffer writes wherever it likes; what can be told from the result is which bytes it covers.
-/

namespace Sero.Library

/-- What a callee does with a buffer it is lent: bytes at offsets, in the order written. -/
abbrev Writes := List (Nat × List UInt8)

namespace Writes

/-- Some write reaches this byte. -/
def Covers (writes : Writes) (index : Nat) : Prop :=
  ∃ write ∈ writes, write.1 ≤ index ∧ index < write.1 + write.2.length

instance (writes : Writes) (index : Nat) : Decidable (writes.Covers index) :=
  List.decidableBEx _ writes

/-- No write reaches a byte from `size` on. -/
def Inside (writes : Writes) (size : Nat) : Prop :=
  ∀ index, writes.Covers index → index < size

theorem not_covers_nil (index : Nat) : ¬Covers [] index := by
  rintro ⟨write, member, -⟩
  exact List.not_mem_nil member

theorem covers_cons {write : Nat × List UInt8} {rest : Writes} {index : Nat} :
    Covers (write :: rest) index ↔
      (write.1 ≤ index ∧ index < write.1 + write.2.length) ∨ rest.Covers index :=
  List.exists_mem_cons_iff _ write rest

/-- A single write at the start covers a prefix. -/
theorem covers_start {data : List UInt8} {index : Nat} :
    Covers [(0, data)] index ↔ index < data.length := by
  rw [covers_cons, or_iff_left (not_covers_nil index), Nat.zero_add,
    and_iff_right (Nat.zero_le index)]

theorem inside_nil (size : Nat) : Inside [] size :=
  fun index covered => absurd covered (not_covers_nil index)

theorem inside_start {data : List UInt8} {size : Nat} (fits : data.length ≤ size) :
    Inside [(0, data)] size :=
  fun _ covered => Nat.lt_of_lt_of_le (covers_start.mp covered) fits

end Writes

/-- A buffer of exactly `size` bytes. -/
structure Buffer (size : Nat) where
  bytes : List UInt8
  length_eq : bytes.length = size

namespace Buffer

variable {size : Nat}

/-- A zero-initialised buffer. -/
def zero (size : Nat) : Buffer size :=
  ⟨List.replicate size 0, List.length_replicate⟩

/-- `memcpy` into the buffer; what would lie beyond its end is not written. -/
def write (buffer : Buffer size) (offset : Nat) (data : List UInt8) : Buffer size where
  bytes :=
    buffer.bytes.take offset ++
      (data.take (size - offset) ++ buffer.bytes.drop (offset + data.length))
  length_eq := by
    have whole := buffer.length_eq
    simp only [List.length_append, List.length_take, List.length_drop]
    omega

theorem write_bytes (buffer : Buffer size) (offset : Nat) (data : List UInt8) :
    (buffer.write offset data).bytes =
      buffer.bytes.take offset ++
        (data.take (size - offset) ++ buffer.bytes.drop (offset + data.length)) := rfl

/-- A write extends the written prefix of the buffer. -/
theorem take_write (buffer : Buffer size) (offset : Nat) (data : List UInt8)
    (fits : offset + data.length ≤ size) :
    (buffer.write offset data).bytes.take (offset + data.length) =
      buffer.bytes.take offset ++ data := by
  have whole := buffer.length_eq
  have front : (buffer.bytes.take offset).length = offset := by
    rw [List.length_take]
    omega
  have uncut : data.take (size - offset) = data := List.take_of_length_le (by omega)
  rw [write_bytes, uncut, ← List.append_assoc]
  exact List.take_left' (by rw [List.length_append, front])

/-- A write behind a prefix leaves that prefix alone. -/
theorem take_write_of_le (buffer : Buffer size) {offset count : Nat} (data : List UInt8)
    (before : count ≤ offset) (inside : offset ≤ size) :
    (buffer.write offset data).bytes.take count = buffer.bytes.take count := by
  have whole := buffer.length_eq
  have front : count ≤ (buffer.bytes.take offset).length := by
    rw [List.length_take]
    omega
  rw [write_bytes, List.take_append_of_le_length front, List.take_take, Nat.min_eq_left before]

/-- A write inside a prefix overwrites that part of it. -/
theorem take_write_within (buffer : Buffer size) {offset count : Nat} (data : List UInt8)
    (within : offset + data.length ≤ count) (inside : count ≤ size) :
    (buffer.write offset data).bytes.take count =
      (buffer.bytes.take count).take offset ++
        (data ++ (buffer.bytes.take count).drop (offset + data.length)) := by
  have whole := buffer.length_eq
  have front : (buffer.bytes.take offset).length = offset := by
    rw [List.length_take]
    omega
  have uncut : data.take (size - offset) = data := List.take_of_length_le (by omega)
  have left : (buffer.bytes.take count).take offset = buffer.bytes.take offset := by
    rw [List.take_take, Nat.min_eq_left (by omega)]
  rw [write_bytes, uncut, left, List.take_append, front, List.take_append,
    List.take_of_length_le (by omega : (buffer.bytes.take offset).length ≤ count),
    List.take_of_length_le (by omega : data.length ≤ count - offset), List.drop_take,
    Nat.sub_sub]

/-- Writing nothing leaves the buffer as it is. -/
@[simp] theorem write_nil (buffer : Buffer size) (offset : Nat) :
    buffer.write offset [] = buffer := by
  obtain ⟨bytes, length_eq⟩ := buffer
  simp [write]

/-- Behind a write the buffer is as it was. -/
theorem drop_write (buffer : Buffer size) {offset : Nat} {data : List UInt8}
    (fits : offset + data.length ≤ size) :
    (buffer.write offset data).bytes.drop (offset + data.length) =
      buffer.bytes.drop (offset + data.length) := by
  have whole := buffer.length_eq
  have front : (buffer.bytes.take offset).length = offset := by
    rw [List.length_take]
    omega
  have uncut : data.take (size - offset) = data := List.take_of_length_le (by omega)
  rw [write_bytes, uncut, ← List.append_assoc]
  exact List.drop_left' (by rw [List.length_append, front])

/-- What is read from the start after a write there: what has been written, and behind it what
was there before. -/
theorem take_write_start (buffer : Buffer size) (data : List UInt8) {count : Nat}
    (inside : count ≤ size) :
    (buffer.write 0 data).bytes.take count =
      data.take count ++ (buffer.bytes.drop data.length).take (count - data.length) := by
  rw [write_bytes, List.take_zero, List.nil_append, Nat.sub_zero, Nat.zero_add, List.take_append,
    List.take_take, Nat.min_eq_left inside, List.length_take]
  rcases Nat.le_total data.length size with fits | long
  · rw [Nat.min_eq_right fits]
  · rw [Nat.min_eq_left long, Nat.sub_eq_zero_of_le inside,
      Nat.sub_eq_zero_of_le (Nat.le_trans inside long)]

/-! ## A buffer that has been lent -/

/-- The byte at an index after a write: what has been written there, or what was there. -/
theorem getElem?_write (buffer : Buffer size) (offset : Nat) (data : List UInt8) {index : Nat}
    (inside : index < size) :
    (buffer.write offset data).bytes[index]? =
      if offset ≤ index ∧ index < offset + data.length then data[index - offset]?
      else buffer.bytes[index]? := by
  have whole := buffer.length_eq
  rw [write_bytes]
  rcases Nat.lt_or_ge index offset with before | reached
  · have front : index < (buffer.bytes.take offset).length := by
      rw [List.length_take]
      omega
    rw [List.getElem?_append_left front, List.getElem?_take_of_lt before,
      if_neg (by omega)]
  · have front : (buffer.bytes.take offset).length = offset := by
      rw [List.length_take]
      omega
    rw [List.getElem?_append_right (by omega), front]
    split
    · next covered =>
        have kept : index - offset < (data.take (size - offset)).length := by
          rw [List.length_take]
          omega
        rw [List.getElem?_append_left kept, List.getElem?_take_of_lt (by omega)]
    · next outside =>
        have uncut : data.take (size - offset) = data := List.take_of_length_le (by omega)
        rw [uncut, List.getElem?_append_right (by omega), List.getElem?_drop]
        congr 1
        omega

/-- The buffer when the callee is done with it. -/
def writeAll (buffer : Buffer size) (writes : Writes) : Buffer size :=
  writes.foldl (fun buffer write => buffer.write write.1 write.2) buffer

@[simp] theorem writeAll_nil (buffer : Buffer size) : buffer.writeAll [] = buffer := rfl

theorem writeAll_cons (buffer : Buffer size) (write : Nat × List UInt8) (rest : Writes) :
    buffer.writeAll (write :: rest) = (buffer.write write.1 write.2).writeAll rest := rfl

/-- A prefix that has been written in one piece reads back. -/
theorem take_writeAll_start (buffer : Buffer size) {written : List UInt8}
    (fits : written.length ≤ size) :
    (buffer.writeAll [(0, written)]).bytes.take written.length = written := by
  rw [writeAll_cons, writeAll_nil, buffer.take_write_start written fits, Nat.sub_self,
    List.take_zero, List.append_nil, List.take_length]

/-- After the same writes two buffers agree on the bytes that are covered and on those they
agreed on before. -/
theorem getElem?_writeAll_eq_iff (left right : Buffer size) (writes : Writes) {index : Nat}
    (inside : index < size) :
    (left.writeAll writes).bytes[index]? = (right.writeAll writes).bytes[index]? ↔
      writes.Covers index ∨ left.bytes[index]? = right.bytes[index]? := by
  induction writes generalizing left right with
  | nil => simp [Writes.not_covers_nil]
  | cons write rest ih =>
      rw [writeAll_cons, writeAll_cons, ih, getElem?_write _ _ _ inside,
        getElem?_write _ _ _ inside, Writes.covers_cons]
      split
      · next covered => simp [covered]
      · next outside => simp [outside]

/-- Prefixes of two buffers are equal after the same writes exactly if each byte is covered or
was the same before. -/
theorem take_writeAll_eq_iff (left right : Buffer size) (writes : Writes) {count : Nat}
    (inside : count ≤ size) :
    (left.writeAll writes).bytes.take count = (right.writeAll writes).bytes.take count ↔
      ∀ index < count, writes.Covers index ∨ left.bytes[index]? = right.bytes[index]? := by
  constructor
  · intro same index below
    rw [← getElem?_writeAll_eq_iff left right writes (Nat.lt_of_lt_of_le below inside),
      ← List.getElem?_take_of_lt below, same, List.getElem?_take_of_lt below]
  · intro covered
    apply List.ext_getElem?
    intro index
    rcases Nat.lt_or_ge index count with below | behind
    · rw [List.getElem?_take_of_lt below, List.getElem?_take_of_lt below,
        getElem?_writeAll_eq_iff left right writes (Nat.lt_of_lt_of_le below inside)]
      exact covered index below
    · rw [List.getElem?_take_eq_none behind, List.getElem?_take_eq_none behind]

end Buffer

end Sero.Library
