import Sero.Core.Types
import Sero.Library.Table

/-!
# Sequence counters

One outgoing counter per device, one last-seen counter per source address.
-/

namespace Sero

open Library

/-- Result of sequence counter validation. -/
inductive SeqResult where
  | accept
  | duplicate
  | stale
  | firstSeen
  | tableFull
  deriving DecidableEq, Repr

/-- Does a check with this result move the last-seen counter? -/
def SeqResult.records : SeqResult → Bool
  | accept | firstSeen => true
  | _ => false

/-- Does a datagram with this result proceed? -/
def SeqResult.passes : SeqResult → Bool
  | accept | firstSeen | tableFull => true
  | _ => false

variable {n : Nat}

structure PeerEntry (n : Nat) where
  address : Address n
  lastSeen : UInt8
  deriving DecidableEq

structure E2EProtection (cfg : Config n) where
  peers : List (PeerEntry n) := []
  txSeq : UInt8 := 0

namespace E2EProtection

variable {cfg : Config n}

/-- The next outgoing counter; the stored one wraps at `0xFF`. -/
def nextSequence (e2e : E2EProtection cfg) : UInt8 × E2EProtection cfg :=
  (e2e.txSeq, { e2e with txSeq := e2e.txSeq + 1 })

/-- The tracking entry of a source address. -/
def findPeer (e2e : E2EProtection cfg) (source : Address n) : Option (PeerEntry n) :=
  Table.lookup PeerEntry.address source e2e.peers

def resetPeer (e2e : E2EProtection cfg) (source : Address n) : E2EProtection cfg :=
  { e2e with
    peers := Table.swapRemove (fun entry => entry.address == source) e2e.peers }

def validateSequence (e2e : E2EProtection cfg) (source : Address n)
    (receivedSeq : UInt8) : SeqResult × E2EProtection cfg :=
  match e2e.findPeer source with
  | some entry =>
      let delta := receivedSeq - entry.lastSeen
      if delta = 0 then (.duplicate, e2e)
      else if delta ≤ cfg.seqCounterAcceptWindow then
        (.accept, { e2e with
          peers := Table.updateFirst (fun entry => entry.address == source)
            (fun entry => { entry with lastSeen := receivedSeq }) e2e.peers })
      else (.stale, e2e)
  | none =>
      if e2e.peers.length < cfg.maxTrackedPeers then
        (.firstSeen, { e2e with
          peers := e2e.peers ++ [{ address := source, lastSeen := receivedSeq }] })
      else (.tableFull, e2e)

/-! ## What the operations do to one address -/

/-- The counter last recorded for an address. -/
def lastSeen (e2e : E2EProtection cfg) (source : Address n) : Option UInt8 :=
  (e2e.findPeer source).map PeerEntry.lastSeen

/-- The results the window allows for a counter, given the one last recorded. -/
def Judged (cfg : Config n) (last : Option UInt8) (counter : UInt8) (result : SeqResult) :
    Prop :=
  match last with
  | none => result = .firstSeen ∨ result = .tableFull
  | some last =>
      result = if counter - last = 0 then .duplicate
        else if counter - last ≤ cfg.seqCounterAcceptWindow then .accept
        else .stale

theorem validateSequence_judged (e2e : E2EProtection cfg) (source : Address n)
    (receivedSeq : UInt8) :
    Judged cfg (e2e.lastSeen source) receivedSeq
      (e2e.validateSequence source receivedSeq).1 := by
  rw [lastSeen, validateSequence]
  cases e2e.findPeer source with
  | none =>
      dsimp only [Option.map_none, Judged]
      split
      · exact .inl rfl
      · exact .inr rfl
  | some entry =>
      dsimp only [Option.map_some, Judged]
      split
      · rfl
      · split <;> rfl

/-- An address that is tracked, or can be, is never let through untracked. -/
theorem validateSequence_tracks {e2e : E2EProtection cfg} {source : Address n}
    (room : (e2e.lastSeen source).isSome = true ∨ e2e.peers.length < cfg.maxTrackedPeers)
    {receivedSeq : UInt8}
    (passes : (e2e.validateSequence source receivedSeq).1.passes = true) :
    (e2e.validateSequence source receivedSeq).1.records = true := by
  rw [lastSeen] at room
  unfold validateSequence at *
  split at *
  · dsimp only at *
    split at passes
    · cases passes
    · next different =>
        rw [if_neg different]
        split at passes
        · next inside => simp [inside, SeqResult.records]
        · cases passes
  · next unseen =>
      rw [unseen] at room
      have free := room.resolve_left (by simp)
      simp [free, SeqResult.records]

/-- A check moves the entry of its source, and only if its result says so. -/
theorem lastSeen_validateSequence (e2e : E2EProtection cfg) (source other : Address n)
    (receivedSeq : UInt8) :
    (e2e.validateSequence source receivedSeq).2.lastSeen other =
      if source = other ∧ (e2e.validateSequence source receivedSeq).1.records = true then
        some receivedSeq
      else e2e.lastSeen other := by
  unfold lastSeen
  cases found : e2e.findPeer source with
  | none =>
      simp only [validateSequence, found]
      split
      · have appended := Table.lookup_append_of_fresh PeerEntry.address e2e.peers
          ({ address := source, lastSeen := receivedSeq } : PeerEntry n) other found
        rw [findPeer, appended]
        by_cases same : source = other
        · simp [same, SeqResult.records]
        · simp [same, Ne.symm same, findPeer]
      · simp [SeqResult.records]
  | some entry =>
      simp only [validateSequence, found]
      split
      · simp [SeqResult.records]
      · split
        · have updated := Table.lookup_updateFirst PeerEntry.address
            (fun (entry : PeerEntry n) address =>
              show ({ entry with lastSeen := receivedSeq } : PeerEntry n).address = source
                from address) other e2e.peers
          rw [findPeer, updated]
          by_cases same : source = other
          · subst same
            have present : Table.lookup PeerEntry.address source e2e.peers = some entry :=
              found
            simp [present, SeqResult.records]
          · simp [same, Ne.symm same, findPeer]
        · simp [SeqResult.records]

/-- A result that discards leaves the table alone. -/
theorem validateSequence_discard {e2e : E2EProtection cfg} {source : Address n}
    {receivedSeq : UInt8}
    (discards : (e2e.validateSequence source receivedSeq).1.passes = false) :
    (e2e.validateSequence source receivedSeq).2 = e2e := by
  unfold validateSequence at *
  split at *
  · dsimp only at *
    split
    · rfl
    · next different =>
        rw [if_neg different] at discards
        split
        · next inside => simp [inside, SeqResult.passes] at discards
        · rfl
  · split
    · next room => simp [room, SeqResult.passes] at discards
    · rfl

@[simp] theorem validateSequence_txSeq (e2e : E2EProtection cfg) (source : Address n)
    (receivedSeq : UInt8) : (e2e.validateSequence source receivedSeq).2.txSeq = e2e.txSeq := by
  unfold validateSequence
  split
  · simp only
    split
    · rfl
    · split <;> rfl
  · split <;> rfl

/-- No address is tracked twice. -/
def Distinct (e2e : E2EProtection cfg) : Prop :=
  Table.Distinct PeerEntry.address e2e.peers

theorem Distinct.validateSequence {e2e : E2EProtection cfg} (distinct : e2e.Distinct)
    (source : Address n) (receivedSeq : UInt8) :
    (e2e.validateSequence source receivedSeq).2.Distinct := by
  unfold E2EProtection.validateSequence
  split
  · dsimp only
    split
    · exact distinct
    · split
      · exact Table.Distinct.updateFirst distinct _ _ fun _ _ => rfl
      · exact distinct
  · next unseen =>
      split
      · exact Table.Distinct.append_of_fresh distinct unseen
      · exact distinct

theorem Distinct.resetPeer {e2e : E2EProtection cfg} (distinct : e2e.Distinct)
    (source : Address n) : (e2e.resetPeer source).Distinct :=
  Table.Distinct.swapRemove distinct _

/-- A reset forgets one address. -/
theorem Distinct.lastSeen_resetPeer {e2e : E2EProtection cfg} (distinct : e2e.Distinct)
    (source other : Address n) :
    (e2e.resetPeer source).lastSeen other =
      if source = other then none else e2e.lastSeen other := by
  have removed := Table.Distinct.lookup_swapRemove distinct source other
  rw [lastSeen, findPeer, E2EProtection.resetPeer, removed]
  by_cases same : source = other
  · simp [same]
  · simp [same, Ne.symm same, lastSeen, findPeer]

end E2EProtection

end Sero
