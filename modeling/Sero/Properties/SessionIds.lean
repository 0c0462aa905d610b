import Sero.Service.ServiceDiscovery

/-!
# Session ids of providers

A provider gets a new session id with each offer, a hash of the time; a consumer takes an
offer with another id than it knows for a reboot.  The lower half of a product depends on the
lower halves of its factors only, so the hash is a bijection of the lower half of the time.
One of its values, zero, is not an id and is replaced by one.
-/

namespace Sero

variable {n : Nat} {cfg : Config n}

/-! ## The hash -/

/-- The lower half of the hash, before zero is replaced. -/
def sessionHash (serviceId : UInt16) (nowMs : UInt32) : UInt16 :=
  (serviceId ^^^ nowMs.toUInt16) * 0x79B1

/-- The multiplier is odd, so it has an inverse. -/
theorem mul_multiplier_eq_iff (half hash : UInt16) :
    half * 0x79B1 = hash ↔ half = hash * 0x2F51 := by
  have inverse : (0x79B1 : UInt16) * 0x2F51 = 1 := by decide
  have inverse' : (0x2F51 : UInt16) * 0x79B1 = 1 := by decide
  constructor
  · rintro rfl
    rw [UInt16.mul_assoc, inverse, UInt16.mul_one]
  · rintro rfl
    rw [UInt16.mul_assoc, inverse', UInt16.mul_one]

theorem xor_eq_iff (serviceId half seed : UInt16) :
    serviceId ^^^ half = seed ↔ half = serviceId ^^^ seed := by
  constructor
  · rintro rfl
    rw [← UInt16.xor_assoc, UInt16.xor_self, UInt16.zero_xor]
  · rintro rfl
    rw [← UInt16.xor_assoc, UInt16.xor_self, UInt16.zero_xor]

/-- A hash is that of one lower half only. -/
theorem sessionHash_eq_iff (serviceId : UInt16) (nowMs : UInt32) (hash : UInt16) :
    sessionHash serviceId nowMs = hash ↔ nowMs.toUInt16 = serviceId ^^^ (hash * 0x2F51) := by
  rw [sessionHash, mul_multiplier_eq_iff, xor_eq_iff]

theorem sessionHash_inj {serviceId : UInt16} {first second : UInt32} :
    sessionHash serviceId first = sessionHash serviceId second ↔
      first.toUInt16 = second.toUInt16 := by
  rw [sessionHash_eq_iff, sessionHash, UInt16.mul_assoc,
    show (0x79B1 : UInt16) * 0x2F51 = 1 by decide, UInt16.mul_one, ← UInt16.xor_assoc,
    UInt16.xor_self, UInt16.zero_xor]

namespace ServiceDiscovery

/-- The client id is in the upper half of the seed, which the id does not depend on. -/
theorem generateSessionId_eq (sd : ServiceDiscovery cfg) (serviceId : UInt16)
    (nowMs : UInt32) :
    sd.generateSessionId serviceId nowMs =
      if sessionHash serviceId nowMs = 0 then 1 else sessionHash serviceId nowMs := by
  have upper : (sd.clientId.toUInt32 <<< 16).toUInt16 = 0 := by
    apply UInt16.toBitVec_inj.mp
    apply BitVec.eq_of_getLsbD_eq
    intro place inside
    simp [UInt32.toBitVec_shiftLeft, inside]
  have lower : ((((sd.clientId.toUInt32 <<< 16) ||| serviceId.toUInt32) ^^^ nowMs) *
      2654435761).toUInt16 = sessionHash serviceId nowMs := by
    rw [UInt32.toUInt16_mul, UInt32.toUInt16_xor, UInt32.toUInt16_or, upper,
      UInt16.toUInt16_toUInt32, UInt16.zero_or]
    rfl
  simp only [generateSessionId, lower]

theorem generateSessionId_ne_zero (sd : ServiceDiscovery cfg) (serviceId : UInt16)
    (nowMs : UInt32) : sd.generateSessionId serviceId nowMs ≠ 0 := by
  rw [generateSessionId_eq]
  split
  · decide
  · assumption

end ServiceDiscovery

/-! ## Two moments -/

/-- Moments 1 to 65535 milliseconds apart, on a clock that wraps. -/
def WithinSpan (first second : UInt32) : Prop :=
  first ≠ second ∧ ((second - first).toNat ≤ 65535 ∨ (first - second).toNat ≤ 65535)

instance (first second : UInt32) : Decidable (WithinSpan first second) :=
  inferInstanceAs (Decidable (_ ∧ _))

/-- The hash is zero at one moment and one at the other. -/
def Collides (serviceId : UInt16) (first second : UInt32) : Prop :=
  first.toUInt16 = serviceId ∧ second.toUInt16 = serviceId ^^^ 0x2F51 ∨
    second.toUInt16 = serviceId ∧ first.toUInt16 = serviceId ^^^ 0x2F51

instance (serviceId : UInt16) (first second : UInt32) :
    Decidable (Collides serviceId first second) :=
  inferInstanceAs (Decidable (_ ∨ _))

theorem WithinSpan.lower_ne {first second : UInt32} (span : WithinSpan first second) :
    first.toUInt16 ≠ second.toUInt16 := by
  intro same
  obtain ⟨different, near⟩ := span
  have congruent := congrArg UInt16.toNat same
  have apart : first.toNat ≠ second.toNat := fun equal => different (UInt32.toNat_inj.mp equal)
  have firstBound := first.toNat_lt
  have secondBound := second.toNat_lt
  simp only [UInt32.toNat_toUInt16, UInt32.toNat_sub] at congruent near
  omega

theorem collides_iff (serviceId : UInt16) (first second : UInt32) :
    Collides serviceId first second ↔
      sessionHash serviceId first = 0 ∧ sessionHash serviceId second = 1 ∨
        sessionHash serviceId second = 0 ∧ sessionHash serviceId first = 1 := by
  simp only [sessionHash_eq_iff, UInt16.zero_mul, UInt16.one_mul, UInt16.xor_zero]
  rfl

/-- Different hashes give different ids, unless the id of one replaces the other. -/
theorem generateSessionId_eq_iff {serviceId : UInt16} {first second : UInt32}
    (span : WithinSpan first second) (earlier later : ServiceDiscovery cfg) :
    earlier.generateSessionId serviceId first = later.generateSessionId serviceId second ↔
      Collides serviceId first second := by
  have different : sessionHash serviceId first ≠ sessionHash serviceId second :=
    fun same => span.lower_ne (sessionHash_inj.mp same)
  rw [collides_iff, earlier.generateSessionId_eq, later.generateSessionId_eq]
  generalize sessionHash serviceId first = left at different
  generalize sessionHash serviceId second = right at different
  by_cases leftZero : left = 0
  · subst leftZero
    have rightNonzero : right ≠ 0 := different.symm
    simp [rightNonzero, eq_comm]
  · by_cases rightZero : right = 0
    · subst rightZero
      simp [leftZero]
    · simp [leftZero, rightZero, different]

/-- The consumer has found the service, in a session it knows the id of. -/
def ServiceDiscovery.InSession (consumer : ServiceDiscovery cfg) (serviceId sessionId : UInt16) :
    Prop :=
  ∃ entry, consumer.findConsumer serviceId = some entry ∧ entry.sessionValid = true ∧
    entry.state = .found ∧ entry.sessionId = sessionId

theorem ServiceDiscovery.InSession.detectReboot {consumer : ServiceDiscovery cfg}
    {serviceId known : UInt16} (session : consumer.InSession serviceId known)
    (sessionId : UInt16) :
    consumer.detectReboot serviceId sessionId = true ↔ known ≠ sessionId := by
  obtain ⟨entry, found, valid, state, rfl⟩ := session
  simp [ServiceDiscovery.detectReboot, found, valid, state]

/-- No session id is zero.  Offers at moments 1 to 65535 milliseconds apart, before and after
a restart or not, have the same id exactly if the hash is zero at one moment and one at the
other; otherwise a consumer that knows the first sees a reboot. -/
theorem sessions_separate (serviceId : UInt16) {first second : UInt32}
    (span : WithinSpan first second) (earlier later : ServiceDiscovery cfg) :
    earlier.generateSessionId serviceId first ≠ 0 ∧
      (earlier.generateSessionId serviceId first = later.generateSessionId serviceId second ↔
        Collides serviceId first second) ∧
      ∀ (major minor : UInt8) (ttlSeconds : UInt16) (consumer : ServiceDiscovery cfg),
        (later.offer serviceId major minor ttlSeconds second).1 = true →
        consumer.InSession serviceId (earlier.generateSessionId serviceId first) →
        ∃ provider,
          (later.offer serviceId major minor ttlSeconds second).2.findProvider serviceId =
            some provider ∧
          (consumer.detectReboot serviceId provider.sessionId = true ↔
            ¬Collides serviceId first second) := by
  refine ⟨earlier.generateSessionId_ne_zero serviceId first,
    generateSessionId_eq_iff span earlier later, ?_⟩
  intro major minor ttlSeconds consumer accepted session
  have offered := ServiceDiscovery.findProvider_offer accepted serviceId
  rw [if_pos rfl] at offered
  refine ⟨_, offered, ?_⟩
  rw [session.detectReboot]
  exact (generateSessionId_eq_iff span earlier later).not

/-! A provider, and a consumer that has found its service. -/

def soleProvider : ServiceDiscovery embeddedConfig where
  clientId := 1

def consumerIn (sessionId : UInt16) : ServiceDiscovery embeddedConfig where
  clientId := 2
  consumers := [{
    serviceId := 0x1000
    state := .found
    active := true
    sessionId
    sessionValid := true }]

theorem sessions_separate_restarted :
    ∃ provider,
      (soleProvider.offer 0x1000 1 0 5 1500).2.findProvider 0x1000 = some provider ∧
      (consumerIn (soleProvider.generateSessionId 0x1000 500)).detectReboot 0x1000
        provider.sessionId = true := by
  obtain ⟨provider, offered, seen⟩ := (sessions_separate 0x1000
    (by decide : WithinSpan 500 1500) soleProvider soleProvider).2.2 1 0 5
    (consumerIn (soleProvider.generateSessionId 0x1000 500)) (by decide)
    ⟨_, rfl, rfl, rfl, rfl⟩
  exact ⟨provider, offered, seen.mpr (by decide)⟩

/-- A provider that offers its service again after twelve seconds keeps its session id, and
the consumer sees no reboot. -/
theorem session_id_repeats :
    WithinSpan 0x1000 0x3F51 ∧
      soleProvider.generateSessionId 0x1000 0x1000 =
        soleProvider.generateSessionId 0x1000 0x3F51 ∧
      (consumerIn (soleProvider.generateSessionId 0x1000 0x1000)).detectReboot 0x1000
        (soleProvider.generateSessionId 0x1000 0x3F51) = false := by
  decide

end Sero
