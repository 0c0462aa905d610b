import Sero.Core.Clock
import Sero.Service.ServiceDiscovery

/-!
# The schedule of a search

After each time a service is asked for, the next is scheduled a delay ahead that grows with
the number of times, give or take a jitter drawn from the device's client id, the service
and that number.
-/

namespace Sero

variable {n : Nat} {cfg : Config n}

namespace ServiceDiscovery

/-- What `compute_jitter` reduces to the range of the jitter. -/
def jitterSeed (sd : ServiceDiscovery cfg) (serviceId : UInt16) (retry : UInt8) : UInt32 :=
  (sd.clientId.toUInt32 <<< 16 ||| serviceId.toUInt32 ^^^ retry.toUInt32 * 0x9E3779B9) *
    1103515245 + 12345

theorem toInt_toInt32 {value : UInt32} (small : value.toNat < 0x80000000) :
    value.toInt32.toInt = value.toNat := by
  have bounded : 2 * value.toBitVec.toNat < 2 ^ 32 := by
    change 2 * value.toNat < _
    omega
  exact BitVec.toInt_eq_toNat_of_lt bounded

section Jitter

variable (small : cfg.sdFindJitterMs.toNat < 0x40000000) (sd : ServiceDiscovery cfg)
  (serviceId : UInt16) (retry : UInt8)

include small

/-- The jitter in the integers. -/
theorem computeJitter_eq : sd.computeJitter serviceId retry =
    ((sd.jitterSeed serviceId retry).toNat % (2 * cfg.sdFindJitterMs.toNat + 1) : Nat) -
      (cfg.sdFindJitterMs.toNat : Int) := by
  have range : (2 * cfg.sdFindJitterMs + 1).toNat = 2 * cfg.sdFindJitterMs.toNat + 1 := by
    rw [UInt32.toNat_add, UInt32.toNat_mul]
    change (2 * cfg.sdFindJitterMs.toNat % 4294967296 + 1) % 4294967296 = _
    omega
  have drawn : (sd.jitterSeed serviceId retry % (2 * cfg.sdFindJitterMs + 1)).toNat =
      (sd.jitterSeed serviceId retry).toNat % (2 * cfg.sdFindJitterMs.toNat + 1) := by
    rw [UInt32.toNat_mod, range]
  have below : (sd.jitterSeed serviceId retry).toNat % (2 * cfg.sdFindJitterMs.toNat + 1) <
    2 * cfg.sdFindJitterMs.toNat + 1 := Nat.mod_lt _ (Nat.succ_pos _)
  rw [← drawn]
  change (sd.jitterSeed serviceId retry % (2 * cfg.sdFindJitterMs + 1)).toInt32.toInt -
    cfg.sdFindJitterMs.toInt32.toInt = _
  rw [toInt_toInt32, toInt_toInt32]
  · omega
  · rw [drawn]
    omega

theorem computeJitter_ge :
    -(cfg.sdFindJitterMs.toNat : Int) ≤ sd.computeJitter serviceId retry := by
  rw [computeJitter_eq small]
  omega

theorem computeJitter_le : sd.computeJitter serviceId retry ≤ cfg.sdFindJitterMs.toNat := by
  have below : (sd.jitterSeed serviceId retry).toNat % (2 * cfg.sdFindJitterMs.toNat + 1) <
    2 * cfg.sdFindJitterMs.toNat + 1 := Nat.mod_lt _ (Nat.succ_pos _)
  rw [computeJitter_eq small]
  omega

end Jitter

/-- The delays of a search are longer than its jitter: no retry is scheduled for the past. -/
structure RetriesAhead (cfg : Config n) : Prop where
  jitter : cfg.sdFindJitterMs.toNat < 0x40000000
  delay : ∀ retry ≤ cfg.sdFindRetryCount, cfg.sdFindJitterMs.toNat < (findDelay cfg retry).toNat

/-- A retry is scheduled a delay ahead that the clock has no part in. -/
theorem nextRetry_eq (ahead : RetriesAhead cfg) (sd : ServiceDiscovery cfg)
    (serviceId : UInt16) {retry : UInt8} (within : retry ≤ cfg.sdFindRetryCount)
    (nowMs : UInt32) :
    sd.nextRetry serviceId retry nowMs = nowMs +
      UInt32.ofInt ((findDelay cfg retry).toNat + sd.computeJitter serviceId retry) := by
  have delay := ahead.delay retry within
  have jitter := computeJitter_ge ahead.jitter sd serviceId retry
  have positive : 0 < (nowMs.toNat : Int) + (findDelay cfg retry).toNat +
      sd.computeJitter serviceId retry := by omega
  have current : UInt32.ofInt nowMs.toNat = nowMs := by
    have bounded := nowMs.toNat_lt
    have unchanged : ((nowMs.toNat : Int) % 2 ^ 32).toNat = nowMs.toNat := by omega
    rw [UInt32.ofInt, unchanged, UInt32.ofNat_toNat]
  rw [nextRetry, if_pos positive, Int.add_assoc, UInt32.ofInt_add, current]

/-- The schedule depends on the device by its client id only. -/
theorem nextRetry_congr {sd other : ServiceDiscovery cfg} (same : other.clientId = sd.clientId)
    (serviceId : UInt16) (retry : UInt8) (nowMs : UInt32) :
    other.nextRetry serviceId retry nowMs = sd.nextRetry serviceId retry nowMs := by
  rw [nextRetry, nextRetry, computeJitter, computeJitter, same]

/-- How long a search waits after so many times. -/
def retryWaitMs (sd : ServiceDiscovery cfg) (serviceId : UInt16) (retry : Nat) : Nat :=
  ((findDelay cfg (UInt8.ofNat retry)).toNat +
    sd.computeJitter serviceId (UInt8.ofNat retry)).toNat

/-- Searches that end, and never wait for long. -/
structure SearchesEnd (horizonMs : Nat) (cfg : Config n) : Prop where
  counted : cfg.sdFindRetryCount.toNat < 255
  ahead : RetriesAhead cfg
  soon : ∀ retry ≤ cfg.sdFindRetryCount,
    (findDelay cfg retry).toNat + cfg.sdFindJitterMs.toNat < horizonMs

theorem retryWaitMs_lt {horizonMs : Nat} (ends : SearchesEnd horizonMs cfg)
    (sd : ServiceDiscovery cfg) (serviceId : UInt16) {retry : Nat}
    (within : retry ≤ cfg.sdFindRetryCount.toNat) :
    sd.retryWaitMs serviceId retry < horizonMs := by
  have same : (UInt8.ofNat retry).toNat = retry := by
    have counted := ends.counted
    apply UInt8.toNat_ofNat_of_lt'
    simp only [UInt8.size]
    omega
  have isWithin : UInt8.ofNat retry ≤ cfg.sdFindRetryCount := by
    rw [UInt8.le_iff_toNat_le, same]
    exact within
  have soon := ends.soon _ isWithin
  have jitter := computeJitter_le ends.ahead.jitter sd serviceId (UInt8.ofNat retry)
  rw [retryWaitMs]
  omega

/-- A retry is scheduled a wait ahead. -/
theorem nextRetry_clock {horizonMs : Nat} (ends : SearchesEnd horizonMs cfg)
    (short : horizonMs ≤ UInt32.size) (sd : ServiceDiscovery cfg) (serviceId : UInt16)
    {retry : UInt8} (within : retry ≤ cfg.sdFindRetryCount) (offset timeMs : Nat) :
    sd.nextRetry serviceId retry (clock offset timeMs) =
      clock offset (timeMs + sd.retryWaitMs serviceId retry.toNat) := by
  have soon := retryWaitMs_lt ends sd serviceId (UInt8.le_iff_toNat_le.mp within)
  have delay := ends.ahead.delay retry within
  have jitter := computeJitter_ge ends.ahead.jitter sd serviceId retry
  have wait :
      (UInt32.ofInt ((findDelay cfg retry).toNat + sd.computeJitter serviceId retry)).toNat =
      sd.retryWaitMs serviceId retry.toNat := by
    rw [retryWaitMs, UInt8.ofNat_toNat] at soon ⊢
    rw [UInt32.ofInt, UInt32.toNat_ofNat']
    simp only [UInt32.size] at short
    omega
  rw [nextRetry_eq ends.ahead sd serviceId within, clock_add, wait]

theorem searchesEnd_standard {cfg : Config 8}
    (standard : cfg = defaultConfig ∨ cfg = embeddedConfig) : SearchesEnd 0x40000000 cfg := by
  have delays : ∀ retry : Fin 256, retry.val ≤ 3 →
      50 < (findDelay defaultConfig (UInt8.ofNat retry)).toNat ∧
        (findDelay defaultConfig (UInt8.ofNat retry)).toNat ≤ 800 := by
    decide +kernel
  have bounds : ∀ retry : UInt8, retry ≤ 3 → 50 < (findDelay defaultConfig retry).toNat ∧
      (findDelay defaultConfig retry).toNat ≤ 800 := by
    intro retry within
    have bounded := delays ⟨retry.toNat, retry.toNat_lt⟩ (UInt8.le_iff_toNat_le.mp within)
    rwa [UInt8.ofNat_toNat] at bounded
  have soon : ∀ retry : UInt8, retry ≤ 3 →
      (findDelay defaultConfig retry).toNat + 50 < 0x40000000 := by
    intro retry within
    have bounded := (bounds retry within).2
    omega
  rcases standard with rfl | rfl
  · exact ⟨by decide, ⟨by decide, fun retry within => (bounds retry within).1⟩, soon⟩
  · exact ⟨by decide, ⟨by decide, fun retry within => (bounds retry within).1⟩, soon⟩

end ServiceDiscovery

end Sero
