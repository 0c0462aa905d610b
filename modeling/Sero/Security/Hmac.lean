import Sero.Security.Sha256

/-!
# HMAC-SHA256

`hmacSha256` is the one-buffer implementation; `hmac` is the construction
`H((K' ^ opad) || H((K' ^ ipad) || message))` over the reference hash.
-/

namespace Sero

/-- Derive `K'`: hash a key longer than a block, then pad with zeros. -/
def hmacBlockKey (key : Bytes) : Bytes :=
  if key.length > Sha256.blockSize then
    Sha256.hash key ++ List.replicate (Sha256.blockSize - Sha256.digestSize) 0
  else key ++ List.replicate (Sha256.blockSize - key.length) 0

/-- `hmac_sha256` over one contiguous buffer. -/
def hmacSha256 (key data : Bytes) : Bytes :=
  let blockKey := hmacBlockKey key
  let innerHash :=
    ((Sha256.reset.update (blockKey.map (· ^^^ 0x36))).update data).finalize
  ((Sha256.reset.update (blockKey.map (· ^^^ 0x5c))).update innerHash).finalize

/-- `hmac_sha256_128`: the first 16 bytes. -/
def hmacSha256_128 (key data : Bytes) : Bytes :=
  (hmacSha256 key data).take hmacSize

/-- `hmac_equal` on two 16-byte digests: the differences are collected before
the verdict. -/
def hmacEqual (a b : Bytes) : Bool :=
  (List.range hmacSize).foldl
    (fun diff i => diff ||| (byteAt a i ^^^ byteAt b i)) (0 : UInt8) == 0

/-- The standard construction over the reference hash function. -/
def hmac (key message : Bytes) : Bytes :=
  let blockKey :=
    if key.length > Sha256.blockSize then
      Sha256.sha256 key ++ List.replicate (Sha256.blockSize - Sha256.digestSize) 0
    else key ++ List.replicate (Sha256.blockSize - key.length) 0
  Sha256.sha256 (blockKey.map (· ^^^ 0x5c) ++
    Sha256.sha256 (blockKey.map (· ^^^ 0x36) ++ message))

theorem finalize_two_updates (first second : Bytes) :
    ((Sha256.reset.update first).update second).finalize =
      Sha256.sha256 (first ++ second) :=
  ((Sha256.absorbed_reset.update first).update second).finalize

theorem hmacSha256_eq_hmac (key data : Bytes) : hmacSha256 key data = hmac key data := by
  simp only [hmacSha256, hmac, hmacBlockKey, finalize_two_updates,
    Sha256.hash_eq_sha256]

private theorem foldl_or_eq_zero (indices : List Nat) (byte : Nat → UInt8) (start : UInt8) :
    indices.foldl (fun diff i => diff ||| byte i) start = 0 ↔
      start = 0 ∧ ∀ i ∈ indices, byte i = 0 := by
  induction indices generalizing start with
  | nil => simp
  | cons index rest ih =>
      rw [List.foldl_cons, ih, UInt8.or_eq_zero_iff]
      simp [and_assoc]

/-- The constant-time comparison decides equality of 16-byte digests. -/
theorem hmacEqual_iff {a b : Bytes} (aSize : a.length = hmacSize)
    (bSize : b.length = hmacSize) : hmacEqual a b = true ↔ a = b := by
  simp only [hmacEqual, beq_iff_eq, foldl_or_eq_zero, true_and, List.mem_range,
    UInt8.xor_eq_zero_iff]
  constructor
  · intro equal
    apply List.ext_getElem (aSize.trans bSize.symm)
    intro index inA inB
    have same := equal index (aSize ▸ inA)
    simpa [byteAt, List.getD_eq_getElem?_getD, inA, inB] using same
  · rintro rfl index _
    rfl

end Sero
