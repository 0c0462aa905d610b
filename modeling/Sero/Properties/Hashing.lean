import Sero.Security.MessageAuthenticator

/-!
# The hash and the message tags against their standards

`Fips` states SHA-256 as FIPS 180-4 does: padding, parsing into blocks, the
message schedule as a recurrence and the fold of the compression function.  The
streaming implementation computes it for every chunking.  The tags of the key
table are HMAC-SHA256-128 under the key last set for the peer.
-/

namespace Sero

namespace Fips

open Sha256

/-- The bit length as the 64-bit field at the end of the padding. -/
def lengthField (bits : Nat) : Bytes :=
  [7, 6, 5, 4, 3, 2, 1, 0].map fun position => UInt8.ofNat (bits / 256 ^ position)

/-- The fewest zeros that leave room for just the length field in the last block. -/
def zeros (length : Nat) : Nat :=
  ((List.range blockSize).find? fun count => (length + 1 + count) % blockSize = 56).getD 0

/-- Append `0x80`, the zeros and the bit length. -/
def padded (message : Bytes) : Bytes :=
  message ++ [0x80] ++ List.replicate (zeros message.length) 0 ++
    lengthField (8 * message.length)

/-- The 64-byte blocks of padded data. -/
def blocks (data : Bytes) : List Bytes :=
  (List.range (data.length / blockSize)).map fun index =>
    (data.drop (blockSize * index)).take blockSize

/-- The message schedule: sixteen words of the block, then the recurrence. -/
def scheduleWord (block : Bytes) (t : Nat) : UInt32 :=
  if t < 16 then readU32 block (t * 4)
  else gamma1 (scheduleWord block (t - 2)) + scheduleWord block (t - 7) +
    gamma0 (scheduleWord block (t - 15)) + scheduleWord block (t - 16)

/-- One application of the compression function. -/
def compress (hash : Words) (block : Bytes) : Words :=
  hash.add ((List.range 64).foldl
    (fun words t => round words (roundConstants.getD t 0) (scheduleWord block t)) hash)

/-- SHA-256 of a message. -/
def digest (message : Bytes) : Bytes :=
  ((blocks (padded message)).foldl compress initial).output

/-! ## The padding and the blocks -/

theorem zeroPadding_least (length : Nat) :
    (length + 1 + zeroPadding length) % blockSize = 56 ∧
      ∀ fewer < zeroPadding length, (length + 1 + fewer) % blockSize ≠ 56 := by
  simp only [zeroPadding, blockSize]
  constructor
  · omega
  · intro fewer isFewer
    omega

/-- The implementation computes the number of zeros without a search. -/
theorem zeros_eq (length : Nat) : zeros length = zeroPadding length := by
  obtain ⟨fills, least⟩ := zeroPadding_least length
  have inRange : zeroPadding length < blockSize := Nat.mod_lt _ (by decide)
  have found : (List.range blockSize).find? (fun count => (length + 1 + count) % blockSize = 56) =
      some (zeroPadding length) := by
    refine List.find?_range_eq_some.mpr ⟨decide_eq_true fills, List.mem_range.mpr inRange, ?_⟩
    intro fewer isFewer
    simpa using least fewer isFewer
  rw [zeros, found, Option.getD_some]

/-- Below 2^61 bytes the bit count fits the counter of the implementation. -/
theorem writeU64_eq_lengthField {length : Nat} (bounded : length < 0x2000000000000000) :
    writeU64 (UInt64.ofNat length * 8) = lengthField (8 * length) := by
  have total : (UInt64.ofNat length * 8).toNat = 8 * length := by
    rw [UInt64.toNat_mul, UInt64.toNat_ofNat_of_lt' (by simp only [UInt64.size]; omega)]
    exact (Nat.mod_eq_of_lt (by simp only [UInt64.reduceToNat]; omega)).trans
      (Nat.mul_comm length 8)
  simp only [writeU64, lengthField, List.map_cons, List.map_nil, ← total]
  generalize UInt64.ofNat length * 8 = bits
  have byte : ∀ (shift : UInt64) (position : Nat), shift.toNat % 64 = 8 * position →
      (bits >>> shift).toUInt8 = UInt8.ofNat (bits.toNat / 256 ^ position) := by
    intro shift position amount
    apply UInt8.toNat_inj.mp
    rw [UInt64.toNat_toUInt8, UInt64.toNat_shiftRight, amount, Nat.shiftRight_eq_div_pow,
      UInt8.toNat_ofNat', Nat.pow_mul]
  rw [byte _ 7 rfl, byte _ 6 rfl, byte _ 5 rfl, byte _ 4 rfl, byte _ 3 rfl, byte _ 2 rfl,
    byte _ 1 rfl, byte _ 0 rfl]

theorem padded_eq {message : Bytes} (bounded : message.length < 0x2000000000000000) :
    padded message = message ++ padding message.length := by
  rw [padded, padding, zeros_eq, writeU64_eq_lengthField bounded]
  simp only [List.append_assoc]

/-- Folding over the listed blocks is folding over consecutive prefixes. -/
theorem foldl_blocks (count : Nat) (state : Words) (data : Bytes) :
    ((List.range count).map fun index =>
      (data.drop (blockSize * index)).take blockSize).foldl transform state =
      foldBlocks count state data := by
  induction count generalizing state data with
  | zero => rfl
  | succ count ih =>
      have rest := ih (transform state (data.take blockSize)) (data.drop blockSize)
      rw [foldBlocks, ← rest, List.range_succ_eq_map, List.map_cons, List.map_map,
        List.foldl_cons, Nat.mul_zero, List.drop_zero]
      congr 1
      apply List.map_congr_left
      intro index _
      rw [List.drop_drop, Function.comp_apply, Nat.mul_succ, Nat.add_comm]

/-! ## The compression function -/

theorem messageSchedule_prefix (block : Bytes) (steps : Nat) :
    (List.range steps).foldl (fun schedule _ => extendSchedule schedule)
      ((List.range 16).map fun i => readU32 block (i * 4)) =
      (List.range (16 + steps)).map (scheduleWord block) := by
  induction steps with
  | zero =>
      apply List.map_congr_left
      intro t early
      rw [scheduleWord, if_pos (List.mem_range.mp early)]
  | succ steps ih =>
      have word : ∀ back, 0 < back → back ≤ 16 →
          ((List.range (16 + steps)).map (scheduleWord block)).getD (16 + steps - back) 0 =
            scheduleWord block (16 + steps - back) := by
        intro back positive within
        have inside : 16 + steps - back < 16 + steps := by omega
        simp [List.getD_eq_getElem?_getD, inside]
      rw [@List.range_succ steps, List.foldl_append, ih, ← Nat.add_assoc,
        @List.range_succ (16 + steps), List.map_append]
      simp only [List.foldl_cons, List.foldl_nil, List.map_cons, List.map_nil]
      rw [extendSchedule, List.length_map, List.length_range, word 2 (by omega) (by omega),
        word 7 (by omega) (by omega), word 15 (by omega) (by omega),
        word 16 (by omega) (by omega), scheduleWord.eq_def block (16 + steps),
        if_neg (by omega)]

theorem messageSchedule_eq (block : Bytes) :
    messageSchedule block = (List.range 64).map (scheduleWord block) :=
  messageSchedule_prefix block 48

theorem transform_eq_compress : transform = compress := by
  funext state block
  have constants : roundConstants =
      (List.range 64).map fun t => roundConstants.getD t 0 := by decide
  rw [transform, compress, messageSchedule_eq]
  nth_rewrite 1 [constants]
  rw [List.zip_map', List.foldl_map]

theorem sha256_eq_digest {message : Bytes}
    (bounded : message.length < 0x2000000000000000) : sha256 message = digest message := by
  rw [sha256, digest, blocks, padded_eq bounded, ← transform_eq_compress, foldl_blocks]

end Fips

namespace Sha256

theorem Absorbed.updates {ctx : Sha256} {message : Bytes} (absorbed : Absorbed ctx message)
    (chunks : List Bytes) :
    Absorbed (chunks.foldl Sha256.update ctx) (message ++ chunks.flatten) := by
  induction chunks generalizing ctx message with
  | nil => simpa using absorbed
  | cons chunk rest ih =>
      have next := ih (absorbed.update chunk)
      rwa [List.append_assoc, ← List.flatten_cons] at next

theorem absorbed_updates (chunks : List Bytes) :
    Absorbed (chunks.foldl update reset) chunks.flatten := by
  simpa only [List.nil_append] using absorbed_reset.updates chunks

/-- Feeding any chunks after a reset and finalizing gives the FIPS 180-4 digest
of their concatenation; between calls the buffer is never full. -/
theorem streamed_digest (chunks : List Bytes)
    (bounded : chunks.flatten.length < 0x2000000000000000) :
    (chunks.foldl update reset).finalize = Fips.digest chunks.flatten ∧
      ∀ fed, fed <+: chunks → (fed.foldl update reset).buf.length < blockSize := by
  constructor
  · rw [← Fips.sha256_eq_digest bounded]
    exact (absorbed_updates chunks).finalize
  · intro fed _
    exact (absorbed_updates fed).buffered

/-- The one-block test vector, split around an empty chunk. -/
theorem streamed_digest_abc :
    (([[0x61], [], [0x62, 0x63]] : List Bytes).foldl update reset).finalize =
        Fips.digest [0x61, 0x62, 0x63] ∧
      Fips.digest [0x61, 0x62, 0x63] =
        [0xba, 0x78, 0x16, 0xbf, 0x8f, 0x01, 0xcf, 0xea,
          0x41, 0x41, 0x40, 0xde, 0x5d, 0xae, 0x22, 0x23,
          0xb0, 0x03, 0x61, 0xa3, 0x96, 0x17, 0x7a, 0x9c,
          0xb4, 0x10, 0xff, 0x61, 0xf2, 0x00, 0x15, 0xad] := by
  have streamed := (streamed_digest [[0x61], [], [0x62, 0x63]] (by decide)).1
  have vector : (([[0x61], [], [0x62, 0x63]] : List Bytes).foldl update reset).finalize =
      [0xba, 0x78, 0x16, 0xbf, 0x8f, 0x01, 0xcf, 0xea,
        0x41, 0x41, 0x40, 0xde, 0x5d, 0xae, 0x22, 0x23,
        0xb0, 0x03, 0x61, 0xa3, 0x96, 0x17, 0x7a, 0x9c,
        0xb4, 0x10, 0xff, 0x61, 0xf2, 0x00, 0x15, 0xad] := by decide +kernel
  exact ⟨streamed, streamed.symm.trans vector⟩

end Sha256

/-! ## The key table -/

section Keys

open Library

variable {n : Nat} {cfg : Config n}

namespace MessageAuthenticator

/-- A call of `set_key` stores the key if it succeeds and changes no other peer's. -/
theorem findKey_setKey (auth : MessageAuthenticator cfg) (address peer : Address n)
    (key : HmacKey cfg) :
    ((auth.setKey address key).2.findKey peer).map KeyEntry.key =
      if address = peer ∧ (auth.setKey address key).1 = true then some key
      else (auth.findKey peer).map KeyEntry.key := by
  have stored : (auth.keys.any fun entry => entry.address == address) =
      (Table.lookup KeyEntry.address address auth.keys).isSome :=
    Table.any_eq_isSome address auth.keys
  simp only [setKey, findKey, stored]
  split
  · next present =>
      obtain ⟨entry, found⟩ := Option.isSome_iff_exists.mp present
      dsimp only
      rw [Table.lookup_updateFirst KeyEntry.address
        fun (entry : KeyEntry cfg) same =>
          show ({ entry with key } : KeyEntry cfg).address = address from same]
      by_cases same : peer = address
      · subst same
        simp [found]
      · simp [same, Ne.symm same]
  · next absent =>
      have fresh := Option.not_isSome_iff_eq_none.mp absent
      split
      · dsimp only
        rw [Table.lookup_append_of_fresh KeyEntry.address _ _ _ fresh]
        by_cases same : peer = address
        · simp [same]
        · simp [same, Ne.symm same]
      · simp

/-- The key table after calls of `set_key`, the latest first. -/
def afterCalls : List (Address n × HmacKey cfg) → MessageAuthenticator cfg
  | [] => {}
  | call :: earlier => ((afterCalls earlier).setKey call.1 call.2).2

/-- The key the latest successful call set for a peer. -/
def lastSet (peer : Address n) : List (Address n × HmacKey cfg) → Option (HmacKey cfg)
  | [] => none
  | call :: earlier =>
      if call.1 = peer ∧ ((afterCalls earlier).setKey call.1 call.2).1 = true then
        some call.2
      else lastSet peer earlier

theorem findKey_afterCalls (calls : List (Address n × HmacKey cfg)) (peer : Address n) :
    ((afterCalls calls).findKey peer).map KeyEntry.key = lastSet peer calls := by
  induction calls with
  | nil => rfl
  | cons call earlier ih => rw [afterCalls, lastSet, findKey_setKey, ih]

end MessageAuthenticator

theorem hmacSha256_128_eq (key data : Bytes) :
    hmacSha256_128 key data = (hmac key data).take hmacSize := by
  rw [hmacSha256_128, hmacSha256_eq_hmac]

/-- The two computations of a tag agree with the standard construction, and a
16-byte tag is accepted exactly when it is the one under the key last set. -/
theorem MessageAuthenticator.tags_are_hmac :
    (∀ key header payload : Bytes,
      computeHmacTwoPart key header payload = hmacSha256_128 key (header ++ payload) ∧
        hmacSha256_128 key (header ++ payload) =
          (hmac key (header ++ payload)).take hmacSize) ∧
    ∀ (calls : List (Address n × HmacKey cfg)) (peer : Address n)
      (header payload tag : Bytes), tag.length = hmacSize →
      ((afterCalls calls).hasKey peer = (lastSet peer calls).isSome ∧
        ((afterCalls calls).verify header payload peer tag = true ↔
          ∃ key, lastSet peer calls = some key ∧
            tag = hmacSha256_128 key (header ++ payload))) := by
  constructor
  · intro key header payload
    have standard := hmacSha256_128_eq key (header ++ payload)
    exact ⟨(computeHmacTwoPart_eq key header payload).trans standard.symm, standard⟩
  · intro calls peer header payload tag tagSize
    rw [verify_iff _ _ _ _ tagSize, ← findKey_afterCalls, hasKey]
    cases (afterCalls calls).findKey peer with
    | none => simp
    | some entry => simp [hmacSha256_128_eq]

/-- A key is set twice; the tag under the second key is accepted. -/
theorem MessageAuthenticator.tags_are_hmac_rekeyed :
    let peer : Address 8 := ⟨List.replicate 8 0, by decide⟩
    let key : HmacKey embeddedConfig := ⟨List.replicate 32 0x0b, by decide⟩
    let old : HmacKey embeddedConfig := ⟨List.replicate 32 0x0c, by decide⟩
    (afterCalls [(peer, key), (peer, old)]).verify [0x01] [0x02] peer
      (hmacSha256_128 key [0x01, 0x02]) = true := by
  intro peer key old
  have tagSize : (hmacSha256_128 key [0x01, 0x02]).length = hmacSize := by decide +kernel
  have accepted := (tags_are_hmac.2 [(peer, key), (peer, old)] peer [0x01] [0x02]
    (hmacSha256_128 key [0x01, 0x02]) tagSize).2
  have latest : lastSet peer [(peer, key), (peer, old)] = some key := by decide +kernel
  exact accepted.mpr ⟨key, latest, rfl⟩

end Keys

end Sero
