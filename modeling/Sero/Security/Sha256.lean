import Sero.Core.MessageHeader

/-!
# SHA-256

`Sha256` is the streaming implementation: a chaining value, a partial block and
a byte count.  `sha256` is the FIPS 180-4 reference: pad the message, then fold
the compression function over its 64-byte blocks.  `hash_eq_sha256` and
`finalize_updates` show that streaming in any chunks computes the reference.
-/

namespace Sero

namespace Sha256

def digestSize : Nat := 32
def blockSize : Nat := 64

/-- Eight working words, in the order `a` to `h`. -/
structure Words where
  a : UInt32
  b : UInt32
  c : UInt32
  d : UInt32
  e : UInt32
  f : UInt32
  g : UInt32
  h : UInt32
  deriving DecidableEq, Repr

def initial : Words :=
  ⟨0x6a09e667, 0xbb67ae85, 0x3c6ef372, 0xa54ff53a,
    0x510e527f, 0x9b05688c, 0x1f83d9ab, 0x5be0cd19⟩

/-- The round constants `K`. -/
def roundConstants : List UInt32 :=
  [0x428a2f98, 0x71374491, 0xb5c0fbcf, 0xe9b5dba5,
    0x3956c25b, 0x59f111f1, 0x923f82a4, 0xab1c5ed5,
    0xd807aa98, 0x12835b01, 0x243185be, 0x550c7dc3,
    0x72be5d74, 0x80deb1fe, 0x9bdc06a7, 0xc19bf174,
    0xe49b69c1, 0xefbe4786, 0x0fc19dc6, 0x240ca1cc,
    0x2de92c6f, 0x4a7484aa, 0x5cb0a9dc, 0x76f988da,
    0x983e5152, 0xa831c66d, 0xb00327c8, 0xbf597fc7,
    0xc6e00bf3, 0xd5a79147, 0x06ca6351, 0x14292967,
    0x27b70a85, 0x2e1b2138, 0x4d2c6dfc, 0x53380d13,
    0x650a7354, 0x766a0abb, 0x81c2c92e, 0x92722c85,
    0xa2bfe8a1, 0xa81a664b, 0xc24b8b70, 0xc76c51a3,
    0xd192e819, 0xd6990624, 0xf40e3585, 0x106aa070,
    0x19a4c116, 0x1e376c08, 0x2748774c, 0x34b0bcb5,
    0x391c0cb3, 0x4ed8aa4a, 0x5b9cca4f, 0x682e6ff3,
    0x748f82ee, 0x78a5636f, 0x84c87814, 0x8cc70208,
    0x90befffa, 0xa4506ceb, 0xbef9a3f7, 0xc67178f2]

def rotr (x : UInt32) (count : UInt32) : UInt32 :=
  (x >>> count) ||| (x <<< (32 - count))

def ch (x y z : UInt32) : UInt32 := (x &&& y) ^^^ (~~~x &&& z)
def maj (x y z : UInt32) : UInt32 := (x &&& y) ^^^ (x &&& z) ^^^ (y &&& z)
def sigma0 (x : UInt32) : UInt32 := rotr x 2 ^^^ rotr x 13 ^^^ rotr x 22
def sigma1 (x : UInt32) : UInt32 := rotr x 6 ^^^ rotr x 11 ^^^ rotr x 25
def gamma0 (x : UInt32) : UInt32 := rotr x 7 ^^^ rotr x 18 ^^^ (x >>> 3)
def gamma1 (x : UInt32) : UInt32 := rotr x 17 ^^^ rotr x 19 ^^^ (x >>> 10)

/-- Extend the message schedule by one word; `schedule[i]` is `W[i]`. -/
def extendSchedule (schedule : List UInt32) : List UInt32 :=
  let i := schedule.length
  schedule ++ [gamma1 (schedule.getD (i - 2) 0) + schedule.getD (i - 7) 0 +
    gamma0 (schedule.getD (i - 15) 0) + schedule.getD (i - 16) 0]

/-- The message schedule `W` of one block. -/
def messageSchedule (block : Bytes) : List UInt32 :=
  (List.range 48).foldl (fun schedule _ => extendSchedule schedule)
    ((List.range 16).map fun i => readU32 block (i * 4))

/-- One round with its constant and schedule word. -/
def round (w : Words) (constant word : UInt32) : Words :=
  let t1 := w.h + sigma1 w.e + ch w.e w.f w.g + constant + word
  let t2 := sigma0 w.a + maj w.a w.b w.c
  ⟨t1 + t2, w.a, w.b, w.c, w.d + t1, w.e, w.f, w.g⟩

def Words.add (x y : Words) : Words :=
  ⟨x.a + y.a, x.b + y.b, x.c + y.c, x.d + y.d,
    x.e + y.e, x.f + y.f, x.g + y.g, x.h + y.h⟩

def transform (state : Words) (block : Bytes) : Words :=
  state.add ((roundConstants.zip (messageSchedule block)).foldl
    (fun w input => round w input.1 input.2) state)

/-- The digest bytes of a chaining value. -/
def Words.output (w : Words) : Bytes :=
  [w.a, w.b, w.c, w.d, w.e, w.f, w.g, w.h].flatMap writeU32

/-- `total_bits` as eight big-endian bytes. -/
def writeU64 (value : UInt64) : Bytes :=
  [7, 6, 5, 4, 3, 2, 1, 0].map fun i : UInt64 => (value >>> (i * 8)).toUInt8

@[simp] theorem writeU64_length (value : UInt64) : (writeU64 value).length = 8 := rfl

/-! ## The reference -/

/-- Fold the compression function over the first `count` blocks of the data. -/
def foldBlocks : Nat → Words → Bytes → Words
  | 0, state, _ => state
  | count + 1, state, data =>
      foldBlocks count (transform state (data.take blockSize)) (data.drop blockSize)

/-- Zero bytes needed to bring `length + 1` to 56 modulo 64. -/
def zeroPadding (length : Nat) : Nat := (119 - length % blockSize) % blockSize

/-- `0x80`, zeros, and the 64-bit bit length. -/
def padding (length : Nat) : Bytes :=
  [0x80] ++ List.replicate (zeroPadding length) 0 ++
    writeU64 (UInt64.ofNat length * 8)

/-- FIPS 180-4 SHA-256. -/
def sha256 (message : Bytes) : Bytes :=
  let padded := message ++ padding message.length
  (foldBlocks (padded.length / blockSize) initial padded).output

theorem foldBlocks_append (first second : Nat) (state : Words) (front rest : Bytes)
    (aligned : front.length = blockSize * first) :
    foldBlocks (first + second) state (front ++ rest) =
      foldBlocks second (foldBlocks first state front) rest := by
  induction first generalizing state front with
  | zero =>
      have empty : front = [] := List.length_eq_zero_iff.mp (by simpa using aligned)
      simp [empty, foldBlocks]
  | succ first ih =>
      have full : blockSize ≤ front.length := by
        rw [aligned]
        exact Nat.le_mul_of_pos_right _ (Nat.succ_pos first)
      have restAligned : (front.drop blockSize).length = blockSize * first := by
        rw [List.length_drop, aligned, Nat.mul_succ]
        omega
      rw [Nat.succ_add, foldBlocks, foldBlocks, List.take_append_of_le_length full,
        List.drop_append_of_le_length full]
      exact ih _ _ restAligned

theorem foldBlocks_one (state : Words) (block : Bytes)
    (full : block.length = blockSize) : foldBlocks 1 state block = transform state block := by
  rw [foldBlocks, foldBlocks, List.take_of_length_le (Nat.le_of_eq full)]

end Sha256

/-! ## The streaming implementation -/

/-- `state_`, the filled part `buf_[0 .. buf_len_)`, and `count_`. -/
structure Sha256 where
  state : Sha256.Words
  buf : Bytes
  count : UInt64

namespace Sha256

def reset : Sha256 where
  state := initial
  buf := []
  count := 0

/-- One pass of the `update` loop: copy a chunk that fits the buffer and compress
the buffer when it is full. -/
def absorbChunk (ctx : Sha256) (chunk : Bytes) : Sha256 :=
  let buf := ctx.buf ++ chunk
  let count := ctx.count + UInt64.ofNat chunk.length
  if buf.length = blockSize then { state := transform ctx.state buf, buf := [], count }
  else { ctx with buf, count }

/-- The `while (len > 0)` loop; every pass consumes at least one byte, so the
length of the data bounds the number of passes. -/
def updateLoop : Nat → Sha256 → Bytes → Sha256
  | 0, ctx, _ => ctx
  | fuel + 1, ctx, data =>
      if data.length = 0 then ctx
      else
        let space := blockSize - ctx.buf.length
        let n := if data.length < space then data.length else space
        updateLoop fuel (ctx.absorbChunk (data.take n)) (data.drop n)

def update (ctx : Sha256) (data : Bytes) : Sha256 :=
  updateLoop data.length ctx data

def finalize (ctx : Sha256) : Bytes :=
  let totalBits := ctx.count * 8
  let buf := ctx.buf ++ [0x80]
  let (state, buf) :=
    if buf.length > 56 then
      (transform ctx.state (buf ++ List.replicate (blockSize - buf.length) 0), [])
    else (ctx.state, buf)
  let buf := buf ++ List.replicate (56 - buf.length) 0 ++ writeU64 totalBits
  (transform state buf).output

def hash (data : Bytes) : Bytes :=
  (reset.update data).finalize

/-! ## Streaming computes the reference -/

/-- The context after the message has been fed: all its complete blocks are
compressed and the rest waits in the buffer. -/
structure Absorbed (ctx : Sha256) (message : Bytes) : Prop where
  buffered : ctx.buf.length < blockSize
  counted : ctx.count = UInt64.ofNat message.length
  compressed : ∃ (blocks : Nat) (front : Bytes),
    message = front ++ ctx.buf ∧ front.length = blockSize * blocks ∧
      ctx.state = foldBlocks blocks initial front

theorem absorbed_reset : Absorbed reset [] where
  buffered := by decide
  counted := rfl
  compressed := ⟨0, [], rfl, rfl, rfl⟩

theorem Absorbed.absorbChunk {ctx : Sha256} {message chunk : Bytes}
    (absorbed : Absorbed ctx message)
    (fits : chunk.length ≤ blockSize - ctx.buf.length) :
    Absorbed (ctx.absorbChunk chunk) (message ++ chunk) := by
  obtain ⟨buffered, counted, blocks, front, split, aligned, compressed⟩ := absorbed
  have countedNext : ctx.count + UInt64.ofNat chunk.length =
      UInt64.ofNat (message ++ chunk).length := by
    rw [counted, List.length_append, UInt64.ofNat_add]
  have splitNext : message ++ chunk = front ++ (ctx.buf ++ chunk) := by
    rw [split, List.append_assoc]
  rw [Sha256.absorbChunk]
  split
  · next full =>
      refine ⟨by simp [blockSize], countedNext, blocks + 1, front ++ (ctx.buf ++ chunk),
        ?_, ?_, ?_⟩
      · rw [List.append_nil, splitNext]
      · rw [List.length_append, aligned, full, Nat.mul_succ]
      · rw [foldBlocks_append blocks 1 _ _ _ aligned, foldBlocks_one _ _ full, compressed]
  · next notFull =>
      refine ⟨?_, countedNext, blocks, front, splitNext, aligned, compressed⟩
      rw [List.length_append] at notFull ⊢
      omega

theorem Absorbed.updateLoop {fuel : Nat} {ctx : Sha256} {message data : Bytes}
    (absorbed : Absorbed ctx message) (enough : data.length ≤ fuel) :
    Absorbed (updateLoop fuel ctx data) (message ++ data) := by
  induction fuel generalizing ctx message data with
  | zero =>
      have empty : data = [] := List.length_eq_zero_iff.mp (Nat.le_zero.mp enough)
      simpa [Sha256.updateLoop, empty] using absorbed
  | succ fuel ih =>
      have buffered := absorbed.buffered
      simp only [Sha256.updateLoop]
      split
      · next empty => rwa [List.length_eq_zero_iff.mp empty, List.append_nil]
      · next nonempty =>
          generalize chosen : (if data.length < blockSize - ctx.buf.length then data.length
            else blockSize - ctx.buf.length) = n
          have inside : 0 < n ∧ n ≤ data.length ∧ n ≤ blockSize - ctx.buf.length := by
            split at chosen <;> omega
          have rejoin : message ++ data = (message ++ data.take n) ++ data.drop n := by
            rw [List.append_assoc, List.take_append_drop]
          rw [rejoin]
          apply ih
          · apply absorbed.absorbChunk
            rw [List.length_take]
            omega
          · rw [List.length_drop]
            omega

theorem Absorbed.update {ctx : Sha256} {message : Bytes} (absorbed : Absorbed ctx message)
    (data : Bytes) : Absorbed (ctx.update data) (message ++ data) :=
  absorbed.updateLoop (Nat.le_refl _)

/-- Finalizing pads exactly as the reference does, in one block or in two. -/
theorem Absorbed.finalize {ctx : Sha256} {message : Bytes}
    (absorbed : Absorbed ctx message) : ctx.finalize = sha256 message := by
  obtain ⟨buffered, counted, blocks, front, split, aligned, compressed⟩ := absorbed
  have messageLength : message.length = blockSize * blocks + ctx.buf.length := by
    rw [split, List.length_append, aligned]
  have residue : message.length % blockSize = ctx.buf.length := by
    rw [messageLength, Nat.mul_add_mod, Nat.mod_eq_of_lt buffered]
  have bits : ctx.count * 8 = UInt64.ofNat message.length * 8 := by rw [counted]
  have rejoin : message ++ padding message.length =
      front ++ (ctx.buf ++ padding message.length) := by
    rw [← List.append_assoc, ← split]
  simp only [blockSize] at buffered residue messageLength
  by_cases twoBlocks : 56 < ctx.buf.length + 1
  · have zeros : zeroPadding message.length = (63 - ctx.buf.length) + 56 := by
      rw [zeroPadding, blockSize, residue]
      omega
    have total : (message ++ padding message.length).length / blockSize = blocks + 2 := by
      simp [padding, zeros, blockSize]
      omega
    have firstBlock : (ctx.buf ++ [(0x80 : UInt8)] ++ List.replicate
        (blockSize - (ctx.buf ++ [(0x80 : UInt8)]).length) (0 : UInt8)).length = blockSize := by
      simp [blockSize]
      omega
    have secondBlock : (List.replicate 56 (0 : UInt8) ++
        writeU64 (UInt64.ofNat message.length * 8)).length = blockSize := by
      simp [blockSize]
    have cut : ctx.buf ++ padding message.length =
        (ctx.buf ++ [(0x80 : UInt8)] ++ List.replicate
          (blockSize - (ctx.buf ++ [(0x80 : UInt8)]).length) (0 : UInt8)) ++
          (List.replicate 56 (0 : UInt8) ++
            writeU64 (UInt64.ofNat message.length * 8)) := by
      have gap : blockSize - (ctx.buf ++ [(0x80 : UInt8)]).length =
          63 - ctx.buf.length := by
        simp [blockSize]
      rw [padding, zeros, gap, List.replicate_add]
      simp
    have long : (ctx.buf ++ [(0x80 : UInt8)]).length > 56 := by
      simpa using twoBlocks
    rw [sha256, total, rejoin, foldBlocks_append blocks 2 _ _ _ aligned, ← compressed, cut,
      foldBlocks_append 1 1 _ _ _ (by rw [firstBlock, Nat.mul_one]),
      foldBlocks_one _ _ firstBlock, foldBlocks_one _ _ secondBlock,
      Sha256.finalize, if_pos long, bits]
    simp
  · have zeros : zeroPadding message.length = 56 - (ctx.buf.length + 1) := by
      rw [zeroPadding, blockSize, residue]
      omega
    have total : (message ++ padding message.length).length / blockSize = blocks + 1 := by
      simp [padding, zeros, blockSize]
      omega
    have lastBlock : (ctx.buf ++ padding message.length).length = blockSize := by
      simp [padding, zeros, blockSize]
      omega
    have short : ¬(ctx.buf ++ [(0x80 : UInt8)]).length > 56 := by
      simpa using twoBlocks
    rw [sha256, total, rejoin, foldBlocks_append blocks 1 _ _ _ aligned, ← compressed,
      foldBlocks_one _ _ lastBlock, Sha256.finalize, if_neg short, bits]
    simp [padding, zeros]

theorem hash_eq_sha256 (data : Bytes) : hash data = sha256 data :=
  (absorbed_reset.update data).finalize

end Sha256

end Sero
