import Sero.Service.EventManager

/-!
# The event manager as a map of leases

What the event manager is for: registered events, and per event the leases of its
subscribers.  `LeaseMap` says this with partial functions; the tables of the event
manager denote such a map, and every call does to the map what it is for.
-/

namespace Sero

open Library

variable {n : Nat}

/-! ## Leases -/

/-- The leases of one event: address and expiry by client id. -/
abbrev Leases (n : Nat) := UInt16 → Option (Address n × UInt32)

namespace Leases

/-- The subscribed clients. -/
def clients (leases : Leases n) : Set UInt16 :=
  {client | (leases client).isSome = true}

/-- Forget the leases that have run out. -/
def evictExpired (nowMs : UInt32) (leases : Leases n) : Leases n :=
  fun client => (leases client).filter fun lease => !timeAfter nowMs lease.2

end Leases

/-- The leases of every registered service and event. -/
abbrev LeaseMap (n : Nat) := UInt16 × UInt16 → Option (Leases n)

/-- A call of the event manager. -/
inductive EventCall (n : Nat) where
  | registerEvent (event : UInt16 × UInt16)
  | subscribe (event : UInt16 × UInt16) (clientId : UInt16) (addr : Address n)
      (ttlSeconds : UInt16) (nowMs : UInt32)
  | unsubscribe (event : UInt16 × UInt16) (clientId : UInt16)
  | evictExpired (nowMs : UInt32)
  deriving DecidableEq

/-- What a call returns. -/
inductive EventAnswer where
  | registered (success : Bool)
  | code (returnCode : ReturnCode)
  | done
  deriving DecidableEq

namespace LeaseMap

def registered (leaseMap : LeaseMap n) : Set (UInt16 × UInt16) :=
  {event | (leaseMap event).isSome = true}

open Classical in
/-- What a call is for. -/
noncomputable def perform (cfg : Config n) (leaseMap : LeaseMap n) :
    EventCall n → EventAnswer × LeaseMap n
  | .registerEvent event =>
      if event ∈ leaseMap.registered then (.registered true, leaseMap)
      else if leaseMap.registered.ncard < cfg.maxServices * cfg.maxEvents then
        (.registered true, Function.update leaseMap event (some fun _ => none))
      else (.registered false, leaseMap)
  | .subscribe event clientId addr ttlSeconds nowMs =>
      match leaseMap event with
      | none => (.code .eNotOk, leaseMap)
      | some leases =>
          if clientId ∈ leases.clients ∨ leases.clients.ncard < cfg.maxSubscribers then
            let expiryMs :=
              nowMs + (EventManager.grantedTtl cfg ttlSeconds).toUInt32 * 1000
            (.code .eOk, Function.update leaseMap event
              (some (Function.update leases clientId (some (addr, expiryMs)))))
          else (.code .eNotOk, leaseMap)
  | .unsubscribe event clientId =>
      (.done, Function.update leaseMap event
        ((leaseMap event).map fun leases => Function.update leases clientId none))
  | .evictExpired nowMs =>
      (.done, fun event => (leaseMap event).map (Leases.evictExpired nowMs))

/-- The map after calls, the latest first. -/
noncomputable def afterCalls (cfg : Config n) : List (EventCall n) → LeaseMap n
  | [] => fun _ => none
  | call :: earlier => (perform cfg (afterCalls cfg earlier) call).2

end LeaseMap

/-! ## What the tables denote -/

/-- The leases a subscriber table denotes. -/
def leasesOf (subscribers : List (Subscriber n)) : Leases n :=
  fun client => (Table.lookup Subscriber.clientId client subscribers).map fun subscriber =>
    (subscriber.addr, subscriber.expiryMs)

theorem clients_leasesOf (subscribers : List (Subscriber n)) :
    (leasesOf subscribers).clients =
      {client | (Table.lookup Subscriber.clientId client subscribers).isSome = true} := by
  ext client
  simp [Leases.clients, leasesOf]

theorem ncard_leasesOf {subscribers : List (Subscriber n)}
    (distinct : Table.Distinct Subscriber.clientId subscribers) :
    (leasesOf subscribers).clients.ncard = subscribers.length := by
  rw [clients_leasesOf, distinct.ncard_lookup]

/-- The service and event a slot is registered for. -/
def EventSlot.event (slot : EventSlot n) : UInt16 × UInt16 :=
  (slot.serviceId, slot.eventId)

namespace EventManager

variable {cfg : Config n} {manager : EventManager cfg} {event : UInt16 × UInt16}

def perform (manager : EventManager cfg) : EventCall n → EventAnswer × EventManager cfg
  | .registerEvent event =>
      let (success, manager) := manager.registerEvent event.1 event.2
      (.registered success, manager)
  | .subscribe event clientId addr ttlSeconds nowMs =>
      let (returnCode, manager) :=
        manager.subscribe event.1 event.2 clientId addr ttlSeconds nowMs
      (.code returnCode, manager)
  | .unsubscribe event clientId => (.done, manager.unsubscribe event.1 event.2 clientId)
  | .evictExpired nowMs => (.done, manager.evictExpired nowMs)

/-- The event manager after calls, the latest first. -/
def afterCalls : List (EventCall n) → EventManager cfg
  | [] => {}
  | call :: earlier => ((afterCalls earlier).perform call).2

def leaseMap (manager : EventManager cfg) : LeaseMap n :=
  fun event => (manager.findEvent event.1 event.2).map fun slot => leasesOf slot.subscribers

/-- What holds of the tables between calls. -/
structure WellFormed (manager : EventManager cfg) : Prop where
  active : ∀ slot ∈ manager.events, slot.active = true
  keyed : Table.Distinct EventSlot.event manager.events
  distinct : manager.DistinctSubscribers
  bounded : ∀ slot ∈ manager.events, slot.subscribers.length ≤ cfg.maxSubscribers

theorem leaseMap_of_findEvent {slot : EventSlot n}
    (found : manager.findEvent event.1 event.2 = some slot) :
    manager.leaseMap event = some (leasesOf slot.subscribers) := by
  rw [leaseMap, found, Option.map_some]

theorem findEvent_eq_lookup (active : ∀ slot ∈ manager.events, slot.active = true)
    (event : UInt16 × UInt16) :
    manager.findEvent event.1 event.2 =
      Table.lookup EventSlot.event event manager.events := by
  apply List.find?_congr
  intro slot member
  rw [Bool.eq_iff_iff]
  simp [holds, EventSlot.event, active slot member, Prod.ext_iff]

theorem WellFormed.ncard_registered (wellFormed : manager.WellFormed) :
    manager.leaseMap.registered.ncard = manager.events.length := by
  rw [← wellFormed.keyed.ncard_lookup]
  congr 1
  ext event
  simp [LeaseMap.registered, leaseMap, findEvent_eq_lookup wellFormed.active]

/-- A fresh slot at the end of the table is an event without leases. -/
theorem leaseMap_append (active : ∀ slot ∈ manager.events, slot.active = true)
    (fresh : manager.findEvent event.1 event.2 = none) :
    leaseMap ({ events := manager.events ++ [{ serviceId := event.1, eventId := event.2 }] } :
        EventManager cfg) =
      Function.update manager.leaseMap event (some fun _ => none) := by
  funext wanted
  let added : EventSlot n := { serviceId := event.1, eventId := event.2 }
  have allActive : ∀ slot ∈ manager.events ++ [added], slot.active = true := by
    intro slot member
    rcases List.mem_append.mp member with old | new
    · exact active slot old
    · rw [List.mem_singleton.mp new]
  rw [findEvent_eq_lookup active] at fresh
  have appended := Table.lookup_append_of_fresh EventSlot.event manager.events added wanted fresh
  have own : added.event = event := rfl
  rw [own] at appended
  rw [leaseMap, findEvent_eq_lookup allActive, appended, Function.update_apply, leaseMap,
    findEvent_eq_lookup active]
  split
  · rfl
  · rfl

theorem WellFormed.registerEvent (wellFormed : manager.WellFormed) (serviceId eventId : UInt16) :
    (manager.registerEvent serviceId eventId).2.WellFormed := by
  have distinct := wellFormed.distinct.registerEvent serviceId eventId
  rw [EventManager.registerEvent] at distinct ⊢
  split
  · exact wellFormed
  · next absent =>
      rw [if_neg absent] at distinct
      split
      · next room =>
          rw [if_pos room] at distinct
          constructor
          · intro slot member
            rcases List.mem_append.mp member with old | new
            · exact wellFormed.active slot old
            · rw [List.mem_singleton.mp new]
          · apply wellFormed.keyed.append_of_fresh
            rw [← findEvent_eq_lookup wellFormed.active]
            exact Option.not_isSome_iff_eq_none.mp absent
          · exact distinct
          · intro slot member
            rcases List.mem_append.mp member with old | new
            · exact wellFormed.bounded slot old
            · rw [List.mem_singleton.mp new]
              exact Nat.zero_le _
      · exact wellFormed

theorem leaseMap_setSubscribers {slot : EventSlot n}
    (found : manager.findEvent event.1 event.2 = some slot)
    (subscribers : List (Subscriber n)) :
    (manager.setSubscribers event.1 event.2 subscribers).leaseMap =
      Function.update manager.leaseMap event (some (leasesOf subscribers)) := by
  funext wanted
  rw [leaseMap, findEvent_setSubscribers]
  by_cases same : wanted = event
  · subst same
    rw [Function.update_self, if_pos ⟨rfl, rfl⟩, found]
    rfl
  · rw [Function.update_of_ne same, if_neg fun equal => same (Prod.ext equal.1 equal.2)]
    rfl

theorem WellFormed.setSubscribers (wellFormed : manager.WellFormed)
    {subscribers : List (Subscriber n)}
    (distinct : Table.Distinct Subscriber.clientId subscribers)
    (bounded : subscribers.length ≤ cfg.maxSubscribers) (serviceId eventId : UInt16) :
    (manager.setSubscribers serviceId eventId subscribers).WellFormed := by
  constructor
  · intro slot member
    rcases Table.mem_updateFirst member with same | ⟨earlier, before, rfl⟩
    · exact wellFormed.active slot same
    · exact wellFormed.active earlier before
  · apply wellFormed.keyed.updateFirst
    intro slot _
    rfl
  · exact wellFormed.distinct.setSubscribers distinct serviceId eventId
  · intro slot member
    rcases Table.mem_updateFirst member with same | ⟨earlier, -, rfl⟩
    · exact wellFormed.bounded slot same
    · exact bounded

theorem subscribe_isOk_iff {slot : EventSlot n} {serviceId eventId : UInt16}
    (found : manager.findEvent serviceId eventId = some slot) (clientId : UInt16)
    (addr : Address n) (ttlSeconds : UInt16) (nowMs : UInt32) :
    (manager.subscribe serviceId eventId clientId addr ttlSeconds nowMs).1 = .eOk ↔
      (Table.lookup Subscriber.clientId clientId slot.subscribers).isSome = true ∨
        slot.subscribers.length < cfg.maxSubscribers := by
  rw [← Table.any_eq_isSome]
  simp only [subscribe, found]
  split
  · next known => simp [known]
  · next unknown =>
      split
      · next room => simp [room]
      · next full => simp [unknown, full, ReturnCode.eNotOk, ReturnCode.eOk]

theorem leaseMap_evictExpired (distinct : manager.DistinctSubscribers) (nowMs : UInt32) :
    (manager.evictExpired nowMs).leaseMap =
      fun event => (manager.leaseMap event).map (Leases.evictExpired nowMs) := by
  funext event
  rw [leaseMap, findEvent_evictExpired, leaseMap]
  cases found : manager.findEvent event.1 event.2 with
  | none => rfl
  | some slot =>
      simp only [Option.map_some, Option.some.injEq]
      funext client
      rw [leasesOf, lookup_evict (findEvent_active found) (distinct slot (findEvent_mem found)),
        Leases.evictExpired, leasesOf, Option.filter_map]
      rfl

theorem WellFormed.evictExpired (wellFormed : manager.WellFormed) (nowMs : UInt32) :
    (manager.evictExpired nowMs).WellFormed := by
  have keeps : ∀ slot : EventSlot n, (evictSlot nowMs slot).event = slot.event := by
    intro slot
    rw [evictSlot]
    split <;> rfl
  constructor
  · intro slot member
    obtain ⟨earlier, before, rfl⟩ := List.mem_map.mp member
    have active := wellFormed.active earlier before
    rw [if_pos active]
    exact active
  · have same : (manager.evictExpired nowMs).events.map EventSlot.event =
        manager.events.map EventSlot.event := by
      change (manager.events.map (evictSlot nowMs)).map EventSlot.event = _
      rw [List.map_map]
      exact List.map_congr_left fun slot _ => keeps slot
    rw [Table.Distinct, same]
    exact wellFormed.keyed
  · exact wellFormed.distinct.evictExpired nowMs
  · intro slot member
    obtain ⟨earlier, before, rfl⟩ := List.mem_map.mp member
    rw [if_pos (wellFormed.active earlier before)]
    have kept := evictLoop_perm nowMs (Nat.le_refl earlier.subscribers.length)
    rw [kept.length_eq]
    exact (List.length_filter_le _ _).trans (wellFormed.bounded earlier before)

/-! ## Every call -/

theorem WellFormed.subscribe (wellFormed : manager.WellFormed)
    (serviceId eventId clientId : UInt16) (addr : Address n) (ttlSeconds : UInt16)
    (nowMs : UInt32) :
    (manager.subscribe serviceId eventId clientId addr ttlSeconds nowMs).2.WellFormed := by
  rcases subscribe_cases manager serviceId eventId clientId addr ttlSeconds nowMs with
    ⟨refused, -⟩ | ⟨slot, subscribers, found, upserted, written⟩
  · rw [refused]
    exact wellFormed
  · have member := findEvent_mem found
    rw [written]
    exact wellFormed.setSubscribers
      (distinct_written upserted rfl (wellFormed.distinct slot member))
      (Table.upsert_length_le upserted (wellFormed.bounded slot member)) _ _

theorem WellFormed.unsubscribe (wellFormed : manager.WellFormed)
    (serviceId eventId clientId : UInt16) :
    (manager.unsubscribe serviceId eventId clientId).WellFormed := by
  rw [EventManager.unsubscribe]
  split
  · exact wellFormed
  · next slot found =>
      have member := findEvent_mem found
      exact wellFormed.setSubscribers ((wellFormed.distinct slot member).swapRemove _)
        ((Table.swapRemove_length_le _ _).trans (wellFormed.bounded slot member)) _ _

theorem WellFormed.perform (wellFormed : manager.WellFormed) (call : EventCall n) :
    (manager.perform call).2.WellFormed := by
  cases call with
  | registerEvent event => exact wellFormed.registerEvent event.1 event.2
  | subscribe event clientId addr ttlSeconds nowMs =>
      exact wellFormed.subscribe event.1 event.2 clientId addr ttlSeconds nowMs
  | unsubscribe event clientId => exact wellFormed.unsubscribe event.1 event.2 clientId
  | evictExpired nowMs => exact wellFormed.evictExpired nowMs

theorem wellFormed_afterCalls (calls : List (EventCall n)) :
    (afterCalls calls : EventManager cfg).WellFormed := by
  induction calls with
  | nil =>
      constructor
      · intro slot member
        cases member
      · exact List.nodup_nil
      · intro slot member
        cases member
      · intro slot member
        cases member
  | cons call earlier ih => exact ih.perform call

theorem WellFormed.perform_registerEvent (wellFormed : manager.WellFormed)
    (event : UInt16 × UInt16) :
    let result := manager.perform (.registerEvent event)
    (result.1, result.2.leaseMap) =
      LeaseMap.perform cfg manager.leaseMap (.registerEvent event) := by
  have registered : event ∈ manager.leaseMap.registered ↔
      (manager.findEvent event.1 event.2).isSome = true := by
    simp [LeaseMap.registered, leaseMap]
  simp only [EventManager.perform, EventManager.registerEvent, LeaseMap.perform, registered,
    wellFormed.ncard_registered]
  split
  · rfl
  · next absent =>
      split
      · have appended := leaseMap_append wellFormed.active
          (Option.not_isSome_iff_eq_none.mp absent)
        exact Prod.ext rfl appended
      · rfl

theorem WellFormed.perform_subscribe (wellFormed : manager.WellFormed)
    (event : UInt16 × UInt16) (clientId : UInt16) (addr : Address n) (ttlSeconds : UInt16)
    (nowMs : UInt32) :
    let call := EventCall.subscribe event clientId addr ttlSeconds nowMs
    ((manager.perform call).1, (manager.perform call).2.leaseMap) =
      LeaseMap.perform cfg manager.leaseMap call := by
  simp only [EventManager.perform, LeaseMap.perform]
  cases found : manager.findEvent event.1 event.2 with
  | none =>
      have unregistered : manager.leaseMap event = none := by rw [leaseMap, found]; rfl
      have refused : manager.subscribe event.1 event.2 clientId addr ttlSeconds nowMs =
          (.eNotOk, manager) := by
        simp only [EventManager.subscribe, found]
      rw [unregistered, refused]
  | some slot =>
      have distinct := wellFormed.distinct slot (findEvent_mem found)
      have isOk := subscribe_isOk_iff found clientId addr ttlSeconds nowMs
      rw [leaseMap_of_findEvent found]
      dsimp only
      have accepts : (clientId ∈ (leasesOf slot.subscribers).clients ∨
          (leasesOf slot.subscribers).clients.ncard < cfg.maxSubscribers) ↔
          (manager.subscribe event.1 event.2 clientId addr ttlSeconds nowMs).1 = .eOk := by
        rw [isOk, ncard_leasesOf distinct, clients_leasesOf]
        rfl
      rcases subscribe_cases manager event.1 event.2 clientId addr ttlSeconds nowMs with
        ⟨refused, -⟩ | ⟨written, subscribers, foundAgain, upserted, result⟩
      · rw [if_neg]
        · rw [refused]
        · rw [accepts, refused]
          simp [ReturnCode.eNotOk, ReturnCode.eOk]
      · cases foundAgain.symm.trans found
        have stored : leasesOf subscribers = Function.update (leasesOf slot.subscribers) clientId
            (some (addr, nowMs + (grantedTtl cfg ttlSeconds).toUInt32 * 1000)) := by
          funext wanted
          rw [leasesOf, lookup_written upserted rfl, Function.update_apply, leasesOf]
          split
          · rfl
          · rfl
        rw [if_pos (accepts.mpr (by rw [result])), result, ← stored]
        exact Prod.ext rfl (leaseMap_setSubscribers found subscribers)

theorem WellFormed.perform_unsubscribe (wellFormed : manager.WellFormed)
    (event : UInt16 × UInt16) (clientId : UInt16) :
    (manager.unsubscribe event.1 event.2 clientId).leaseMap =
      (LeaseMap.perform cfg manager.leaseMap (.unsubscribe event clientId)).2 := by
  rw [EventManager.unsubscribe, LeaseMap.perform]
  dsimp only
  cases found : manager.findEvent event.1 event.2 with
  | none =>
      have unregistered : manager.leaseMap event = none := by rw [leaseMap, found]; rfl
      rw [unregistered, Option.map_none, ← unregistered, Function.update_eq_self]
  | some slot =>
      have distinct := wellFormed.distinct slot (findEvent_mem found)
      rw [leaseMap_of_findEvent found, Option.map_some, leaseMap_setSubscribers found]
      congr 2
      funext wanted
      rw [leasesOf, distinct.lookup_swapRemove, Function.update_apply, leasesOf]
      split
      · rfl
      · rfl

/-- Every call answers as the map of leases does and leaves the map it leaves. -/
theorem WellFormed.perform_refines (wellFormed : manager.WellFormed) (call : EventCall n) :
    ((manager.perform call).1, (manager.perform call).2.leaseMap) =
      LeaseMap.perform cfg manager.leaseMap call := by
  cases call with
  | registerEvent event => exact wellFormed.perform_registerEvent event
  | subscribe event clientId addr ttlSeconds nowMs =>
      exact wellFormed.perform_subscribe event clientId addr ttlSeconds nowMs
  | unsubscribe event clientId =>
      exact Prod.ext rfl (wellFormed.perform_unsubscribe event clientId)
  | evictExpired nowMs =>
      exact Prod.ext rfl (leaseMap_evictExpired wellFormed.distinct nowMs)

theorem leaseMap_afterCalls (calls : List (EventCall n)) :
    (afterCalls calls : EventManager cfg).leaseMap = LeaseMap.afterCalls cfg calls := by
  induction calls with
  | nil => rfl
  | cons call earlier ih =>
      have refines := (@wellFormed_afterCalls _ cfg earlier).perform_refines call
      rw [ih] at refines
      rw [afterCalls, LeaseMap.afterCalls, ← refines]

/-- `notify` calls its function once for each client with a lease, with the address of
the lease. -/
theorem WellFormed.notifyCalls (wellFormed : manager.WellFormed) (event : UInt16 × UInt16) :
    ((manager.notifyCalls event.1 event.2).map Prod.snd).Nodup ∧
      ∀ addr client, (addr, client) ∈ manager.notifyCalls event.1 event.2 ↔
        ∃ leases expiryMs, manager.leaseMap event = some leases ∧
          leases client = some (addr, expiryMs) := by
  rw [EventManager.notifyCalls, leaseMap]
  cases found : manager.findEvent event.1 event.2 with
  | none => simp
  | some slot =>
      have distinct := wellFormed.distinct slot (findEvent_mem found)
      constructor
      · rw [List.map_map]
        exact distinct
      · intro addr client
        simp only [List.mem_map, Prod.mk.injEq, Option.map_some, Option.some.injEq,
          exists_and_left, exists_eq_left', leasesOf, Option.map_eq_some_iff,
          distinct.lookup_iff]
        constructor
        · rintro ⟨subscriber, member, rfl, rfl⟩
          exact ⟨subscriber.expiryMs, subscriber, ⟨member, rfl⟩, rfl, rfl⟩
        · rintro ⟨expiryMs, subscriber, ⟨member, rfl⟩, rfl, -⟩
          exact ⟨subscriber, member, rfl, rfl⟩

/-- After every sequence of calls the tables denote the map of leases the calls are
for, every further call answers as that map does, no event has a client twice or more
clients than it may have, and `notify` sends to every client once, at its latest
address. -/
theorem refines_leases (calls : List (EventCall n)) :
    let manager : EventManager cfg := afterCalls calls
    let leaseMap := LeaseMap.afterCalls cfg calls
    manager.leaseMap = leaseMap ∧
      (∀ call, (manager.perform call).1 = (LeaseMap.perform cfg leaseMap call).1) ∧
      (∀ slot ∈ manager.events, (slot.subscribers.map Subscriber.clientId).Nodup ∧
        slot.subscribers.length ≤ cfg.maxSubscribers) ∧
      ∀ event : UInt16 × UInt16,
        manager.notify event.1 event.2 =
            (manager.notifyCalls event.1 event.2).map Prod.fst ∧
          ((manager.notifyCalls event.1 event.2).map Prod.snd).Nodup ∧
          ∀ addr client, (addr, client) ∈ manager.notifyCalls event.1 event.2 ↔
            ∃ leases expiryMs, leaseMap event = some leases ∧
              leases client = some (addr, expiryMs) := by
  intro manager leaseMap
  have wellFormed : manager.WellFormed := wellFormed_afterCalls calls
  have denotes : manager.leaseMap = leaseMap := leaseMap_afterCalls calls
  refine ⟨denotes, ?_, ?_, ?_⟩
  · intro call
    rw [← denotes, ← wellFormed.perform_refines call]
  · intro slot member
    exact ⟨wellFormed.distinct slot member, wellFormed.bounded slot member⟩
  · intro event
    rw [← denotes]
    exact ⟨manager.notify_eq event.1 event.2, wellFormed.notifyCalls event⟩

/-- Of two subscribers one runs out of time; the other still has its lease. -/
theorem refines_leases_evicted :
    let event : UInt16 × UInt16 := (0x1000, 0x8001)
    let first : Address 8 := ⟨List.replicate 8 1, by decide⟩
    let second : Address 8 := ⟨List.replicate 8 2, by decide⟩
    let calls : List (EventCall 8) :=
      [.evictExpired 4000, .subscribe event 2 second 10 1000, .subscribe event 1 first 2 1000,
        .registerEvent event]
    (afterCalls calls : EventManager embeddedConfig).notifyCalls event.1 event.2 =
        [(second, 2)] ∧
      ∃ leases expiryMs, LeaseMap.afterCalls embeddedConfig calls event = some leases ∧
        leases 2 = some (second, expiryMs) := by
  intro event first second calls
  have remaining : (afterCalls calls : EventManager embeddedConfig).notifyCalls event.1 event.2 =
      [(second, 2)] := by decide +kernel
  have leased := ((@refines_leases _ embeddedConfig calls).2.2.2 event).2.2 second 2
  rw [remaining] at leased
  exact ⟨remaining, leased.mp (List.mem_singleton_self _)⟩

end EventManager

end Sero
