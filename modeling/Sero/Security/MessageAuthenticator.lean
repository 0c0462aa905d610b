import Sero.Library.Table
import Sero.Security.Hmac

/-!
# Per-peer keys and message authentication

`computeHmacTwoPart` authenticates header and payload as two consecutive
updates; `computeHmacTwoPart_eq` identifies it with HMAC over their
concatenation.
-/

namespace Sero

open Library

variable {n : Nat}

structure KeyEntry (cfg : Config n) where
  address : Address n
  key : HmacKey cfg
  deriving DecidableEq

/-- The key table. -/
structure MessageAuthenticator (cfg : Config n) where
  keys : List (KeyEntry cfg) := []

/-- `compute_hmac_two_part`. -/
def computeHmacTwoPart (key part1 part2 : Bytes) : Bytes :=
  let blockKey := hmacBlockKey key
  let innerHash :=
    (((Sha256.reset.update (blockKey.map (· ^^^ 0x36))).update part1).update
      part2).finalize
  (((Sha256.reset.update (blockKey.map (· ^^^ 0x5c))).update innerHash).finalize).take
    hmacSize

namespace MessageAuthenticator

variable {cfg : Config n}

/-- Register or update the key of a peer; fails when the table is full. -/
def setKey (auth : MessageAuthenticator cfg) (peer : Address n) (key : HmacKey cfg) :
    Bool × MessageAuthenticator cfg :=
  if auth.keys.any fun entry => entry.address == peer then
    (true, {
      keys := Table.updateFirst (fun entry => entry.address == peer)
        (fun entry => { entry with key }) auth.keys })
  else if auth.keys.length < cfg.maxTrackedPeers then
    (true, { keys := auth.keys ++ [{ address := peer, key }] })
  else (false, auth)

def findKey (auth : MessageAuthenticator cfg) (peer : Address n) : Option (KeyEntry cfg) :=
  Table.lookup KeyEntry.address peer auth.keys

/-- The tag over header and payload; `none` without a key for the peer. -/
def compute (auth : MessageAuthenticator cfg) (header20 payload : Bytes)
    (peer : Address n) : Option Bytes :=
  (auth.findKey peer).map fun entry => computeHmacTwoPart entry.key header20 payload

def verify (auth : MessageAuthenticator cfg) (header20 payload : Bytes)
    (peer : Address n) (receivedHmac : Bytes) : Bool :=
  match auth.compute header20 payload peer with
  | none => false
  | some computed => hmacEqual computed receivedHmac

def hasKey (auth : MessageAuthenticator cfg) (peer : Address n) : Bool :=
  (auth.findKey peer).isSome

end MessageAuthenticator

/-- The two-part computation is HMAC-SHA256 of the concatenation, truncated. -/
theorem computeHmacTwoPart_eq (key part1 part2 : Bytes) :
    computeHmacTwoPart key part1 part2 = (hmac key (part1 ++ part2)).take hmacSize := by
  have inner : ∀ pad : Bytes,
      (((Sha256.reset.update pad).update part1).update part2).finalize =
        Sha256.sha256 (pad ++ (part1 ++ part2)) := by
    intro pad
    rw [← List.append_assoc]
    exact (((Sha256.absorbed_reset.update pad).update part1).update part2).finalize
  simp only [computeHmacTwoPart, hmac, hmacBlockKey, inner, finalize_two_updates,
    Sha256.hash_eq_sha256]

@[simp] theorem output_length (w : Sha256.Words) : w.output.length = Sha256.digestSize :=
  rfl

theorem computeHmacTwoPart_length (key part1 part2 : Bytes) :
    (computeHmacTwoPart key part1 part2).length = hmacSize := by
  rw [computeHmacTwoPart_eq, List.length_take]
  exact Nat.min_eq_left (by simp [hmac, Sha256.sha256, hmacSize, Sha256.digestSize])

namespace MessageAuthenticator

variable {cfg : Config n}

/-- A 16-byte tag is accepted exactly when a key is stored for the peer and the
tag is the truncated HMAC under that key. -/
theorem verify_iff (auth : MessageAuthenticator cfg) (header20 payload : Bytes)
    (peer : Address n) {tag : Bytes} (tagSize : tag.length = hmacSize) :
    auth.verify header20 payload peer tag = true ↔
      ∃ entry, auth.findKey peer = some entry ∧
        tag = (hmac entry.key (header20 ++ payload)).take hmacSize := by
  rw [verify, compute]
  cases found : auth.findKey peer with
  | none => simp
  | some entry =>
      have same := hmacEqual_iff
        (computeHmacTwoPart_length entry.key header20 payload) tagSize
      simp only [Option.map_some, same, Option.some.injEq, exists_eq_left']
      rw [computeHmacTwoPart_eq]
      exact eq_comm

end MessageAuthenticator

end Sero
