import Sero.Core.Clock
import Sero.Properties.EventLeases

/-!
# The rest of a lease

Eviction asks for the sign of a difference, which a clock that wraps does not change.  The
query for the rest of a lease compares the expiry stamp with the clock as it is, so the two
agree as long as the clock does not pass zero between them.
-/

namespace Sero

open Library EventManager

variable {n : Nat} {cfg : Config n}

/-! ## Untouched leases -/

/-- The lease of a client of an event. -/
def LeaseMap.leaseOf (leaseMap : LeaseMap n) (event : UInt16 × UInt16) (clientId : UInt16) :
    Option (Address n × UInt32) :=
  (leaseMap event).bind fun leases => leases clientId

/-- The call neither renews nor ends the subscription of a client, except that it may evict
it, at most so many milliseconds after the client has subscribed. -/
def EventCall.Spares (event : UInt16 × UInt16) (clientId : UInt16) (subscribedMs : UInt32)
    (elapsed : Nat) : EventCall n → Prop
  | .registerEvent _ => True
  | .subscribe other otherClient _ _ _ => ¬(other = event ∧ otherClient = clientId)
  | .unsubscribe other otherClient => ¬(other = event ∧ otherClient = clientId)
  | .evictExpired nowMs => ∃ ago ≤ elapsed, nowMs = subscribedMs + UInt32.ofNat ago

/-- The expiry stamp of a lease. -/
def expiryOf (subscribedMs : UInt32) (ttl : UInt16) : UInt32 :=
  subscribedMs + ttl.toUInt32 * 1000

/-- A lease is evicted once it is over, however the clock wraps. -/
theorem timeAfter_expiryOf (subscribedMs : UInt32) (ttl : UInt16) {ago : Nat}
    (within : ago ≤ ttl.toNat * 1000 + 0x40000000) :
    timeAfter (subscribedMs + UInt32.ofNat ago) (expiryOf subscribedMs ttl) = true ↔
      ttl.toNat * 1000 < ago := by
  have bound := ttl.toNat_lt
  have start : subscribedMs = clock subscribedMs.toNat 0 := by
    rw [clock, Nat.zero_add, UInt32.ofNat_toNat]
  have small : (UInt32.ofNat ago).toNat = ago :=
    UInt32.toNat_ofNat_of_lt' (by simp only [UInt32.size]; omega)
  rw [expiryOf, start, clock_add, clock_add, toNat_lifetime, small, Nat.zero_add, Nat.zero_add,
    timeAfter_clock _ (by omega) (by omega)]

/-- The client still has this lease, or is without one after it was over. -/
def HeldOrOver (leaseMap : LeaseMap n) (event : UInt16 × UInt16) (clientId : UInt16)
    (lease : Address n × UInt32) (ended : Prop) : Prop :=
  ∃ leases, leaseMap event = some leases ∧
    (leases clientId = some lease ∨ leases clientId = none ∧ ended)

section Spared

variable {leaseMap : LeaseMap n} {event : UInt16 × UInt16} {clientId : UInt16}
variable {addr : Address n} {subscribedMs : UInt32} {ttl : UInt16} {elapsed : Nat}

/-- Writes to other events and other clients do not touch a lease. -/
theorem HeldOrOver.update {lease : Address n × UInt32} {ended : Prop}
    (held : HeldOrOver leaseMap event clientId lease ended) {other : UInt16 × UInt16}
    {written : Option (Leases n)}
    (same : other = event → ∀ leases, leaseMap event = some leases →
      ∃ after, written = some after ∧ after clientId = leases clientId) :
    HeldOrOver (Function.update leaseMap other written) event clientId lease ended := by
  obtain ⟨leases, registered, kept⟩ := held
  by_cases here : other = event
  · obtain ⟨after, rfl, unchanged⟩ := same here leases registered
    refine ⟨after, ?_, ?_⟩
    · rw [here, Function.update_self]
    · rwa [unchanged]
  · exact ⟨leases, by rw [Function.update_of_ne (Ne.symm here), registered], kept⟩

theorem HeldOrOver.perform
    (held : HeldOrOver leaseMap event clientId (addr, expiryOf subscribedMs ttl)
      (ttl.toNat * 1000 < elapsed))
    (within : elapsed ≤ ttl.toNat * 1000 + 0x40000000) {call : EventCall n}
    (spares : call.Spares event clientId subscribedMs elapsed) :
    HeldOrOver (LeaseMap.perform cfg leaseMap call).2 event clientId
      (addr, expiryOf subscribedMs ttl) (ttl.toNat * 1000 < elapsed) := by
  cases call with
  | registerEvent other =>
      rw [LeaseMap.perform]
      split
      · exact held
      · next unknown =>
          split
          · apply held.update
            rintro rfl leases registered
            exact absurd (by simp [LeaseMap.registered, registered]) unknown
          · exact held
  | subscribe other otherClient otherAddr otherTtl nowMs =>
      rw [LeaseMap.perform]
      split
      · exact held
      · next found =>
          split
          · apply held.update
            rintro rfl leases registered
            cases found.symm.trans registered
            refine ⟨_, rfl, ?_⟩
            rw [Function.update_of_ne fun own => spares ⟨rfl, own.symm⟩]
          · exact held
  | unsubscribe other otherClient =>
      apply held.update
      rintro rfl leases registered
      refine ⟨_, by rw [registered, Option.map_some], ?_⟩
      rw [Function.update_of_ne fun own => spares ⟨rfl, own.symm⟩]
  | evictExpired nowMs =>
      obtain ⟨ago, inTime, rfl⟩ := spares
      obtain ⟨leases, registered, kept⟩ := held
      refine ⟨Leases.evictExpired (subscribedMs + UInt32.ofNat ago) leases,
        by simp [LeaseMap.perform, registered], ?_⟩
      rcases kept with here | ⟨gone, ended⟩
      · have evicted := timeAfter_expiryOf subscribedMs ttl (inTime.trans within)
        simp only [Leases.evictExpired, here, Option.filter_some]
        cases late : timeAfter (subscribedMs + UInt32.ofNat ago) (expiryOf subscribedMs ttl) with
        | true => exact .inr ⟨by simp, lt_of_lt_of_le (evicted.mp late) inTime⟩
        | false => exact .inl (by simp)
      · exact .inr ⟨by simp [Leases.evictExpired, gone], ended⟩

/-- A subscription that is accepted is a lease. -/
theorem HeldOrOver.subscribe {clientId : UInt16} {ttlSeconds : UInt16} (ended : Prop)
    (accepted : (LeaseMap.perform cfg leaseMap
      (.subscribe event clientId addr ttlSeconds subscribedMs)).1 = .code .eOk) :
    HeldOrOver (LeaseMap.perform cfg leaseMap
        (.subscribe event clientId addr ttlSeconds subscribedMs)).2 event clientId
      (addr, expiryOf subscribedMs (grantedTtl cfg ttlSeconds)) ended := by
  rw [LeaseMap.perform] at accepted ⊢
  split at accepted
  · cases accepted
  · next leases registered =>
      split at accepted
      · next room =>
          simp only [if_pos room]
          exact ⟨_, Function.update_self .., .inl (Function.update_self ..)⟩
      · cases accepted

theorem HeldOrOver.afterCalls {earlier later : List (EventCall n)}
    (held : HeldOrOver (LeaseMap.afterCalls cfg earlier) event clientId
      (addr, expiryOf subscribedMs ttl) (ttl.toNat * 1000 < elapsed))
    (within : elapsed ≤ ttl.toNat * 1000 + 0x40000000)
    (spared : ∀ call ∈ later, call.Spares event clientId subscribedMs elapsed) :
    HeldOrOver (LeaseMap.afterCalls cfg (later ++ earlier)) event clientId
      (addr, expiryOf subscribedMs ttl) (ttl.toNat * 1000 < elapsed) := by
  induction later with
  | nil => exact held
  | cons call rest ih =>
      have before := ih fun other member => spared other (.tail _ member)
      exact before.perform within (spared call (.head _))

end Spared

/-! ## The query -/

/-- The seconds from the clock to a stamp, both taken as they are. -/
def secondsUntil (expiryMs nowMs : UInt32) : UInt16 :=
  ((if expiryMs > nowMs then expiryMs - nowMs else 0) / 1000).toUInt16

theorem EventManager.getGrantedTtl_eq (manager : EventManager cfg) (event : UInt16 × UInt16)
    (clientId : UInt16) (nowMs : UInt32) :
    manager.getGrantedTtl event.1 event.2 clientId nowMs =
      ((manager.leaseMap.leaseOf event clientId).map fun lease =>
        secondsUntil lease.2 nowMs).getD 0 := by
  rw [getGrantedTtl, LeaseMap.leaseOf, leaseMap]
  cases manager.findEvent event.1 event.2 with
  | none => rfl
  | some slot =>
      rw [Option.map_some, Option.bind_some, leasesOf, Table.lookup]
      dsimp only
      cases slot.subscribers.find? fun subscriber => subscriber.clientId == clientId <;> rfl

section Query

variable (subscribedMs : UInt32) (ttl : UInt16) {elapsed : Nat}

theorem expiryOf_sub_now :
    expiryOf subscribedMs ttl - (subscribedMs + UInt32.ofNat elapsed) =
      ttl.toUInt32 * 1000 - UInt32.ofNat elapsed := by
  rw [expiryOf, UInt32.add_comm subscribedMs, UInt32.add_comm subscribedMs, sub_shift]

/-- As long as the lease runs the query tells its rest, or nothing. -/
theorem secondsUntil_running (running : elapsed ≤ ttl.toNat * 1000) :
    (secondsUntil (expiryOf subscribedMs ttl) (subscribedMs + UInt32.ofNat elapsed)).toNat =
      if subscribedMs + UInt32.ofNat elapsed < expiryOf subscribedMs ttl then
        (ttl.toNat * 1000 - elapsed) / 1000
      else 0 := by
  have bound := ttl.toNat_lt
  have small : (UInt32.ofNat elapsed).toNat = elapsed :=
    UInt32.toNat_ofNat_of_lt' (by simp only [UInt32.size]; omega)
  have rest : (expiryOf subscribedMs ttl - (subscribedMs + UInt32.ofNat elapsed)).toNat =
      ttl.toNat * 1000 - elapsed := by
    rw [expiryOf_sub_now, UInt32.toNat_sub, toNat_lifetime, small]
    omega
  rw [secondsUntil]
  split
  · rw [UInt32.toNat_toUInt16, UInt32.toNat_div, rest, show (1000 : UInt32).toNat = 1000 from rfl]
    omega
  · rfl

/-- Once it is over the query tells nothing, or how far the clock has to go round. -/
theorem secondsUntil_over (isOver : ttl.toNat * 1000 < elapsed)
    (within : elapsed ≤ ttl.toNat * 1000 + 0x40000000) :
    (secondsUntil (expiryOf subscribedMs ttl) (subscribedMs + UInt32.ofNat elapsed)).toNat =
      if subscribedMs + UInt32.ofNat elapsed < expiryOf subscribedMs ttl then
        (0x100000000 - (elapsed - ttl.toNat * 1000)) / 1000 % 0x10000
      else 0 := by
  have bound := ttl.toNat_lt
  have small : (UInt32.ofNat elapsed).toNat = elapsed :=
    UInt32.toNat_ofNat_of_lt' (by simp only [UInt32.size]; omega)
  have rest : (expiryOf subscribedMs ttl - (subscribedMs + UInt32.ofNat elapsed)).toNat =
      0x100000000 - (elapsed - ttl.toNat * 1000) := by
    rw [expiryOf_sub_now, UInt32.toNat_sub, toNat_lifetime, small]
    omega
  rw [secondsUntil]
  split
  · rw [UInt32.toNat_toUInt16, UInt32.toNat_div, rest, show (1000 : UInt32).toNat = 1000 from rfl]
  · rfl

end Query

/-- The query tells the rest of a lease in whole seconds: no more than was granted,
something if there is at least a second, and nothing of a client that is evicted. -/
structure TellsRest (manager : EventManager cfg) (event : UInt16 × UInt16) (clientId ttl : UInt16)
    (elapsed : Nat) (nowMs : UInt32) : Prop where
  rest : (manager.getGrantedTtl event.1 event.2 clientId nowMs).toNat =
    (ttl.toNat * 1000 - elapsed) / 1000
  granted : manager.getGrantedTtl event.1 event.2 clientId nowMs ≤ ttl
  running : elapsed + 1000 ≤ ttl.toNat * 1000 →
    manager.getGrantedTtl event.1 event.2 clientId nowMs ≠ 0
  evicted : (manager.evictExpired nowMs).leaseMap.leaseOf event clientId = none →
    manager.getGrantedTtl event.1 event.2 clientId nowMs = 0

/-- The clock does not pass zero between query and expiry: in a lease with a second left the
clock is below the stamp.  After a lease that has not been evicted yet it is not, unless what it
has to go round happens to be a multiple of 65536 seconds. -/
def ReadsInOrder (manager : EventManager cfg) (event : UInt16 × UInt16) (clientId ttl : UInt16)
    (subscribedMs : UInt32) (elapsed : Nat) : Prop :=
  let isBelow := subscribedMs + UInt32.ofNat elapsed < expiryOf subscribedMs ttl
  (elapsed + 1000 ≤ ttl.toNat * 1000 → isBelow) ∧
    (ttl.toNat * 1000 < elapsed → manager.leaseMap.leaseOf event clientId ≠ none → isBelow →
      (0x100000000 - (elapsed - ttl.toNat * 1000)) / 1000 % 0x10000 = 0)

section Held

variable {manager : EventManager cfg} {event : UInt16 × UInt16} {clientId ttl : UInt16}
variable {addr : Address n} {subscribedMs : UInt32} {elapsed : Nat}

theorem HeldOrOver.leaseOf {leaseMap : LeaseMap n} {lease : Address n × UInt32} {ended : Prop}
    (held : HeldOrOver leaseMap event clientId lease ended) :
    leaseMap.leaseOf event clientId = some lease ∨
      leaseMap.leaseOf event clientId = none ∧ ended := by
  obtain ⟨leases, registered, kept⟩ := held
  rw [LeaseMap.leaseOf, registered]
  exact kept

theorem rest_iff
    (held : HeldOrOver manager.leaseMap event clientId (addr, expiryOf subscribedMs ttl)
      (ttl.toNat * 1000 < elapsed))
    (within : elapsed ≤ ttl.toNat * 1000 + 0x40000000) :
    (manager.getGrantedTtl event.1 event.2 clientId
        (subscribedMs + UInt32.ofNat elapsed)).toNat = (ttl.toNat * 1000 - elapsed) / 1000 ↔
      ReadsInOrder manager event clientId ttl subscribedMs elapsed := by
  rw [getGrantedTtl_eq, ReadsInOrder]
  rcases held.leaseOf with here | ⟨gone, isOver⟩
  · rw [here, Option.map_some, Option.getD_some]
    rcases Nat.lt_or_ge (ttl.toNat * 1000) elapsed with isOver | running
    · rw [secondsUntil_over subscribedMs ttl isOver within, Nat.sub_eq_zero_of_le isOver.le]
      have noSecond : ¬elapsed + 1000 ≤ ttl.toNat * 1000 := by omega
      split
      · next isBelow => simp [noSecond, isOver, isBelow]
      · next notBelow => simp [noSecond, notBelow]
    · rw [secondsUntil_running subscribedMs ttl running]
      split
      · next isBelow => simp [isBelow, Nat.not_lt.mpr running]
      · next notBelow =>
          simp only [notBelow, imp_false, Nat.not_lt.mpr running, false_imp_iff, and_true]
          omega
  · rw [gone, Nat.sub_eq_zero_of_le isOver.le]
    simp only [ne_eq, not_true_eq_false, false_imp_iff, implies_true, and_true]
    constructor
    · intro _ second
      omega
    · intro _
      rfl

/-- The rest in whole seconds says all there is to say. -/
theorem tellsRest_iff (distinct : manager.DistinctSubscribers)
    (held : HeldOrOver manager.leaseMap event clientId (addr, expiryOf subscribedMs ttl)
      (ttl.toNat * 1000 < elapsed))
    (within : elapsed ≤ ttl.toNat * 1000 + 0x40000000) :
    TellsRest manager event clientId ttl elapsed (subscribedMs + UInt32.ofNat elapsed) ↔
      ReadsInOrder manager event clientId ttl subscribedMs elapsed := by
  rw [← rest_iff held within]
  constructor
  · exact TellsRest.rest
  · intro rest
    refine ⟨rest, ?_, ?_, ?_⟩
    · rw [UInt16.le_iff_toNat_le, rest]
      omega
    · intro second zero
      rw [zero, UInt16.toNat_zero] at rest
      omega
    · intro evicted
      apply UInt16.toNat_inj.mp
      rw [rest, UInt16.toNat_zero]
      have isOver : ttl.toNat * 1000 < elapsed := by
        rcases held.leaseOf with here | ⟨-, isOver⟩
        · rw [leaseMap_evictExpired distinct] at evicted
          apply (timeAfter_expiryOf subscribedMs ttl within).mp
          rw [LeaseMap.leaseOf] at here evicted
          cases registered : manager.leaseMap event with
          | none =>
              rw [registered] at here
              cases here
          | some leases =>
              rw [registered, Option.bind_some] at here
              simpa [registered, Leases.evictExpired, here] using evicted
        · exact isOver
      omega

end Held

/-- Whatever other calls there are, the query tells the rest of a lease exactly if the clock
does not pass zero between it and the expiry. -/
theorem remaining_lease_iff {earlier later : List (EventCall n)} {event : UInt16 × UInt16}
    {clientId : UInt16} {addr : Address n} {ttlSeconds : UInt16} {subscribedMs : UInt32}
    {elapsed : Nat}
    (accepted : ((EventManager.afterCalls earlier : EventManager cfg).subscribe event.1 event.2
      clientId addr ttlSeconds subscribedMs).1 = .eOk)
    (spared : ∀ call ∈ later, call.Spares event clientId subscribedMs elapsed)
    (within : elapsed ≤ (grantedTtl cfg ttlSeconds).toNat * 1000 + 0x40000000) :
    let manager : EventManager cfg := EventManager.afterCalls
      (later ++ .subscribe event clientId addr ttlSeconds subscribedMs :: earlier)
    TellsRest manager event clientId (grantedTtl cfg ttlSeconds) elapsed
        (subscribedMs + UInt32.ofNat elapsed) ↔
      ReadsInOrder manager event clientId (grantedTtl cfg ttlSeconds) subscribedMs elapsed := by
  intro manager
  let subscribes : EventCall n := .subscribe event clientId addr ttlSeconds subscribedMs
  have wellFormed : manager.WellFormed := wellFormed_afterCalls _
  have refines := (@wellFormed_afterCalls _ cfg earlier).perform_refines subscribes
  rw [leaseMap_afterCalls] at refines
  have answer : (LeaseMap.perform cfg (LeaseMap.afterCalls cfg earlier) subscribes).1 =
      .code .eOk := by
    rw [← refines]
    exact congrArg EventAnswer.code accepted
  have subscribed := HeldOrOver.subscribe
    ((grantedTtl cfg ttlSeconds).toNat * 1000 < elapsed) answer
  have held := @HeldOrOver.afterCalls _ cfg _ _ _ _ _ _ (subscribes :: earlier) later subscribed
    within spared
  rw [← leaseMap_afterCalls] at held
  exact tellsRest_iff wellFormed.distinct held within

/-! A client that subscribes for ten seconds. -/

def speedEvent : UInt16 × UInt16 :=
  (0x1000, 0x8001)

def consumerAddr : Address 8 :=
  ⟨List.replicate 8 1, by decide⟩

/-- It does so at some time, before other calls. -/
def subscribedAt (subscribedMs : UInt32) (later : List (EventCall 8)) :
    EventManager embeddedConfig :=
  .afterCalls (later ++
    [.subscribe speedEvent 7 consumerAddr 10 subscribedMs, .registerEvent speedEvent])

theorem remaining_lease_iff_midway :
    ((subscribedAt 1000 [.evictExpired 5000, .subscribe speedEvent 8 consumerAddr 2 2000]
      ).getGrantedTtl 0x1000 0x8001 7 6500).toNat = 4 := by
  have told := @remaining_lease_iff _ embeddedConfig [.registerEvent speedEvent]
    [.evictExpired 5000, .subscribe speedEvent 8 consumerAddr 2 2000] speedEvent 7
    consumerAddr 10 1000 5500 (by decide +kernel) ?_ (by decide)
  · refine (told.mpr ⟨by decide, ?_⟩).rest
    intro isOver
    exact absurd isOver (by decide)
  · intro call member
    rcases List.mem_cons.mp member with rfl | rest
    · exact ⟨4000, by decide, by decide⟩
    · cases List.mem_singleton.mp rest
      rintro ⟨-, ⟨⟩⟩

/-- Shortly before the clock passes zero, the query says of a lease that has just begun that
nothing is left of it; afterwards it says of one that is over, and that eviction would end,
that there are hours left. -/
theorem rest_misread :
    (subscribedAt 0xFFFFF000 []).getGrantedTtl 0x1000 0x8001 7 0xFFFFF000 = 0 ∧
      ((subscribedAt 0xFFFFF000 []).evictExpired 0xFFFFF000).hasSubscribers 0x1000 0x8001 = true ∧
      (subscribedAt 0xFFFFB000 []).getGrantedTtl 0x1000 0x8001 7 100 = 35116 ∧
      ((subscribedAt 0xFFFFB000 []).evictExpired 100).hasSubscribers 0x1000 0x8001 = false ∧
      ¬TellsRest (subscribedAt 0xFFFFF000 []) speedEvent 7 10 0 0xFFFFF000 := by
  refine ⟨by decide +kernel, by decide +kernel, by decide +kernel, by decide +kernel, ?_⟩
  intro told
  exact told.running (by decide) (by decide +kernel)

end Sero
