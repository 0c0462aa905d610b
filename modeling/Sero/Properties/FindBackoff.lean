import Sero.Properties.FindRetries

/-!
# The backoff of a search

The specification has the first repetition of a find follow after the initial delay, and
each further one after a delay that has grown by the multiplier, give or take the jitter.
The runtime counts a find before it works out the delay, so every delay has grown once
too often.
-/

namespace Sero

open Library ServiceDiscovery

/-- A repetition scheduled as the specification has it: that many times after the first, the
delay has been multiplied that often, and the jitter is at most the one configured. -/
def WithinBackoff {n : Nat} (cfg : Config n) (retry : Nat) (sentMs nextMs : UInt32) : Prop :=
  let nominal : Int := cfg.sdFindInitialDelayMs.toNat * cfg.sdFindBackoffMultiplier.toNat ^ retry
  max 0 (nominal - cfg.sdFindJitterMs.toNat) ≤ (nextMs - sentMs).toNat ∧
    ((nextMs - sentMs).toNat : Int) ≤ nominal + cfg.sdFindJitterMs.toNat

instance {n : Nat} (cfg : Config n) (retry : Nat) (sentMs nextMs : UInt32) :
    Decidable (WithinBackoff cfg retry sentMs nextMs) :=
  inferInstanceAs (Decidable (_ ∧ _))

/-- The device and the service for which the first jitter is the lowest. -/
def DrawsLowest (clientId serviceId : UInt16) : Prop :=
  (((clientId.toUInt32 <<< 16) ||| (serviceId.toUInt32 ^^^ 0x9E3779B9)) * 1103515245 +
    12345).toNat % 101 = 0

instance (clientId serviceId : UInt16) : Decidable (DrawsLowest clientId serviceId) :=
  inferInstanceAs (Decidable (_ = _))

/-- What a delay adds to the clock can be read off it. -/
theorem clock_sub_clock (offset timeMs : Nat) {waitMs : Nat} (short : waitMs < UInt32.size) :
    (clock offset (timeMs + waitMs) - clock offset timeMs).toNat = waitMs := by
  rw [UInt32.toNat_sub, toNat_clock, toNat_clock]
  simp only [UInt32.size] at short ⊢
  omega

/-- The delay before a repetition has been multiplied once more than there were repetitions
before it. -/
theorem findDelay_default :
    ∀ retry < 3, (findDelay defaultConfig (UInt8.ofNat (retry + 1))).toNat = 200 * 2 ^ retry := by
  decide +kernel

theorem retryWaitMs_default (sd : ServiceDiscovery defaultConfig) (serviceId : UInt16)
    {retry : Nat} (within : retry < 3) :
    sd.retryWaitMs serviceId (retry + 1) + 50 = 200 * 2 ^ retry +
      (sd.jitterSeed serviceId (UInt8.ofNat (retry + 1))).toNat % 101 := by
  have positive : 1 ≤ 2 ^ retry := Nat.one_le_two_pow
  have small : defaultConfig.sdFindJitterMs.toNat < 0x40000000 := by decide
  have jitter := computeJitter_eq small sd serviceId (UInt8.ofNat (retry + 1))
  have bound : (defaultConfig.sdFindJitterMs.toNat : Int) = 50 := rfl
  have range : 2 * defaultConfig.sdFindJitterMs.toNat + 1 = 101 := rfl
  rw [bound, range] at jitter
  rw [retryWaitMs, findDelay_default retry within, jitter]
  omega

/-- Only the first repetition can be as early as the specification has it, and only with the
lowest jitter. -/
theorem withinBackoff_iff (sd : ServiceDiscovery defaultConfig) (serviceId : UInt16)
    (sentMs : Nat) {retry : Nat} (within : retry < 3) :
    WithinBackoff defaultConfig retry (clock 0 sentMs)
        (clock 0 (sentMs + sd.retryWaitMs serviceId (retry + 1))) ↔
      retry = 0 ∧ DrawsLowest sd.clientId serviceId := by
  have wait := retryWaitMs_default sd serviceId within
  have drawn := Nat.mod_lt (sd.jitterSeed serviceId (UInt8.ofNat (retry + 1))).toNat
    (by decide : 0 < 101)
  have growth : 2 ^ retry ≤ 4 := Nat.pow_le_pow_right (by decide) (Nat.le_of_lt_succ within)
  have short : sd.retryWaitMs serviceId (retry + 1) < UInt32.size := by
    simp only [UInt32.size]
    omega
  have initial : defaultConfig.sdFindInitialDelayMs.toNat = 100 := rfl
  have multiplier : defaultConfig.sdFindBackoffMultiplier.toNat = 2 := rfl
  have jitter : defaultConfig.sdFindJitterMs.toNat = 50 := rfl
  rw [WithinBackoff, clock_sub_clock 0 sentMs short, initial, multiplier, jitter]
  have power : ((2 : Nat) : Int) ^ retry = ((2 ^ retry : Nat) : Int) := (Nat.cast_pow 2 retry).symm
  rw [power]
  constructor
  · rintro ⟨-, soon⟩
    have positive : 1 ≤ 2 ^ retry := Nat.one_le_two_pow
    have first : 2 ^ retry = 1 := by omega
    have isFirst : retry = 0 := by
      by_contra later
      have two : 2 ^ 1 ≤ 2 ^ retry := Nat.pow_le_pow_right (by decide) (Nat.pos_of_ne_zero later)
      omega
    subst isFirst
    refine ⟨rfl, ?_⟩
    change (sd.jitterSeed serviceId (UInt8.ofNat (0 + 1))).toNat % 101 = 0
    omega
  · rintro ⟨rfl, lowest⟩
    change (sd.jitterSeed serviceId (UInt8.ofNat (0 + 1))).toNat % 101 = 0 at lowest
    omega

/-- Whenever a pass asks for a service and is not the last to do so, the repetition is
scheduled as the specification has it if it is the first and its jitter is the lowest, and
only then. -/
theorem backoff_iff {env : Env defaultConfig} {w : World defaultConfig}
    (reachable : World.Reachable env w) {serviceId : UInt16} {major : UInt8} {startMs : Nat}
    (room : (w.rt.sd.find serviceId major (clock 0 startMs)).1 = true)
    {moves : List (SearchMove defaultConfig)} {timeMs retry : Nat}
    (within : retry < defaultConfig.sdFindRetryCount.toNat)
    (run : UnansweredRun env serviceId (w.lookFor env serviceId major startMs) startMs
      (moves ++ [.finds timeMs]))
    (before : (observedPasses env (Event.seeks serviceId)
      (w.lookFor env serviceId major startMs) moves).length = retry)
    (asked : (observedPasses env (Event.seeks serviceId)
      (w.lookFor env serviceId major startMs) (moves ++ [.finds timeMs])).length = retry + 1) :
    ∃ entry, (World.searchRun env (moves ++ [.finds timeMs])
        (w.lookFor env serviceId major startMs)).rt.sd.findConsumer serviceId = some entry ∧
      entry.state = .searching ∧
      (WithinBackoff defaultConfig retry (clock 0 timeMs) entry.nextRetryMs ↔
        retry = 0 ∧ DrawsLowest w.rt.sd.clientId serviceId) := by
  let start := w.lookFor env serviceId major startMs
  let limit := defaultConfig.sdFindRetryCount.toNat
  have ends : SearchesEnd maxPassGapMs defaultConfig := searchesEnd_standard (.inl rfl)
  have roomy : 8 + 8 ≤ defaultConfig.maxPayloadSize := by decide
  obtain ⟨index, inTable, pursues⟩ := World.lookFor_pursues reachable room
  have whole := searchSoFar roomy ends inTable pursues run
  have earlier := searchSoFar roomy ends inTable pursues (unansweredRun_append _ _ |>.mp run).1
  obtain ⟨entry, found, state, due⟩ := whole.entry
  rw [asked, if_pos (Nat.succ_le_of_lt within)] at state
  have made := length_of_asked earlier.asked
  have madeNext := length_of_asked whole.asked
  rw [before] at made
  rw [asked] at madeNext
  have looked : start.rt.sd.scheduled serviceId startMs (moves ++ [.finds timeMs]) =
      (start.rt.sd.scheduled serviceId startMs moves).look limit
        (start.rt.sd.retryWaitMs serviceId) timeMs := by
    rw [scheduled_append]
    rfl
  have isDue : (start.rt.sd.scheduled serviceId startMs moves).isDue limit timeMs = true := by
    by_contra early
    change retry + 1 =
      (start.rt.sd.scheduled serviceId startMs (moves ++ [.finds timeMs])).made at madeNext
    rw [looked, Attempts.look_of_early early] at madeNext
    change retry = (start.rt.sd.scheduled serviceId startMs moves).made at made
    omega
  have next : entry.nextRetryMs =
      clock 0 (timeMs + start.rt.sd.retryWaitMs serviceId (retry + 1)) := by
    have scheduledAt := due state
    change entry.nextRetryMs = clock 0
      (start.rt.sd.scheduled serviceId startMs (moves ++ [.finds timeMs])).dueMs at scheduledAt
    rw [looked, Attempts.look_of_due isDue] at scheduledAt
    rw [scheduledAt, made]
  have own : start.rt.sd.clientId = w.rt.sd.clientId :=
    (World.perform_steps World.react_steps _ w).steps.clientIds.2
  refine ⟨entry, found, state, ?_⟩
  rw [next, ← own]
  exact withinBackoff_iff start.rt.sd serviceId timeMs within

/-- The first pass of a search whose first jitter is the lowest. -/
theorem backoff_iff_first : ∃ entry,
    (World.searchRun (.benign _) ([] ++ [.finds 0]) ((World.initial defaultConfig 1).lookFor
      (.benign _) 7 1 0)).rt.sd.findConsumer 7 = some entry ∧ entry.state = .searching ∧
    (WithinBackoff defaultConfig 0 (clock 0 0) entry.nextRetryMs ↔
      0 = 0 ∧ DrawsLowest (World.initial defaultConfig 1).rt.sd.clientId 7) :=
  @backoff_iff (.benign _) (World.initial defaultConfig 1) ⟨1, [], rfl⟩ 7 1 0 rfl [] 0 0
    (by decide) (by decide +kernel) rfl (by decide +kernel)

/-- A first repetition that comes long after the initial delay and its jitter. -/
theorem first_repetition_is_late :
    ((World.searchRun (.benign _) [.finds 0] ((World.initial defaultConfig 1).lookFor
      (.benign _) 8 1 0)).rt.sd.findConsumer 8).map ConsumerEntry.nextRetryMs = some 183 ∧
    ¬WithinBackoff defaultConfig 0 (clock 0 0) 183 := by
  decide +kernel

end Sero
