import Sero.Core.Types
import Sero.Library.Table

/-!
# Subscriber tables

The provider side of events: who subscribed to which event, until when.
-/

namespace Sero

open Library

variable {n : Nat}

structure Subscriber (n : Nat) where
  clientId : UInt16
  addr : Address n
  expiryMs : UInt32
  deriving DecidableEq

structure EventSlot (n : Nat) where
  serviceId : UInt16
  eventId : UInt16
  active : Bool := true
  subscribers : List (Subscriber n) := []
  deriving DecidableEq

structure EventManager (cfg : Config n) where
  events : List (EventSlot n) := []

namespace EventManager

variable {cfg : Config n}

def holds (serviceId eventId : UInt16) (slot : EventSlot n) : Bool :=
  slot.active && slot.serviceId == serviceId && slot.eventId == eventId

def findEvent (manager : EventManager cfg) (serviceId eventId : UInt16) :
    Option (EventSlot n) :=
  manager.events.find? (holds serviceId eventId)

/-- Write back the subscribers of one event. -/
def setSubscribers (manager : EventManager cfg) (serviceId eventId : UInt16)
    (subscribers : List (Subscriber n)) : EventManager cfg where
  events := Table.updateFirst (holds serviceId eventId)
    (fun slot => { slot with subscribers }) manager.events

def registerEvent (manager : EventManager cfg) (serviceId eventId : UInt16) :
    Bool × EventManager cfg :=
  if (manager.findEvent serviceId eventId).isSome then (true, manager)
  else if manager.events.length < cfg.maxServices * cfg.maxEvents then
    (true, { events := manager.events ++ [{ serviceId, eventId }] })
  else (false, manager)

def subscribe (manager : EventManager cfg) (serviceId eventId clientId : UInt16)
    (addr : Address n) (ttlSeconds : UInt16) (nowMs : UInt32) :
    ReturnCode × EventManager cfg :=
  match manager.findEvent serviceId eventId with
  | none => (.eNotOk, manager)
  | some slot =>
      let expiryMs :=
        if ttlSeconds > 0 then nowMs + ttlSeconds.toUInt32 * 1000
        else nowMs + cfg.subscriptionTtlSeconds.toUInt32 * 1000
      let isClient := fun subscriber : Subscriber n => subscriber.clientId == clientId
      if slot.subscribers.any isClient then
        -- Renewal: the subscriber moves to its new address and expiry.
        (.eOk, manager.setSubscribers serviceId eventId
          (Table.updateFirst isClient
            (fun subscriber => { subscriber with addr, expiryMs }) slot.subscribers))
      else if slot.subscribers.length < cfg.maxSubscribers then
        (.eOk, manager.setSubscribers serviceId eventId
          (slot.subscribers ++ [{ clientId, addr, expiryMs }]))
      else (.eNotOk, manager)

def unsubscribe (manager : EventManager cfg) (serviceId eventId clientId : UInt16) :
    EventManager cfg :=
  match manager.findEvent serviceId eventId with
  | none => manager
  | some slot =>
      manager.setSubscribers serviceId eventId
        (Table.swapRemove (fun subscriber => subscriber.clientId == clientId)
          slot.subscribers)

/-- The `while` loop over one event's subscribers.  An expired one is overwritten
by the last, which is then examined in its place; every turn either shortens
what is left or passes over one subscriber, so the length is enough fuel. -/
def evictLoop (nowMs : UInt32) : (fuel : Nat) → List (Subscriber n) → List (Subscriber n)
  | 0, subscribers => subscribers
  | _, [] => []
  | fuel + 1, subscriber :: rest =>
      if timeAfter nowMs subscriber.expiryMs then
        match rest.getLast? with
        | none => []
        | some last => evictLoop nowMs fuel (last :: rest.dropLast)
      else subscriber :: evictLoop nowMs fuel rest

def evictExpired (manager : EventManager cfg) (nowMs : UInt32) : EventManager cfg where
  events := manager.events.map fun slot =>
    if slot.active then
      { slot with
        subscribers := evictLoop nowMs slot.subscribers.length slot.subscribers }
    else slot

/-- The addresses a notification fans out to, in table order. -/
def notify (manager : EventManager cfg) (serviceId eventId : UInt16) : List (Address n) :=
  match manager.findEvent serviceId eventId with
  | none => []
  | some slot => slot.subscribers.map Subscriber.addr

/-- The calls of its function that `notify` makes: address and client of each
subscriber. -/
def notifyCalls (manager : EventManager cfg) (serviceId eventId : UInt16) :
    List (Address n × UInt16) :=
  match manager.findEvent serviceId eventId with
  | none => []
  | some slot => slot.subscribers.map fun subscriber => (subscriber.addr, subscriber.clientId)

theorem notify_eq (manager : EventManager cfg) (serviceId eventId : UInt16) :
    manager.notify serviceId eventId = (manager.notifyCalls serviceId eventId).map Prod.fst := by
  rw [notify, notifyCalls]
  cases manager.findEvent serviceId eventId with
  | none => rfl
  | some slot => simp

def hasSubscribers (manager : EventManager cfg) (serviceId eventId : UInt16) : Bool :=
  match manager.findEvent serviceId eventId with
  | none => false
  | some slot => !slot.subscribers.isEmpty

/-- The rest of a subscriber's lease in whole seconds, 0 if there is no such subscriber. -/
def getGrantedTtl (manager : EventManager cfg) (serviceId eventId clientId : UInt16)
    (nowMs : UInt32) : UInt16 :=
  match manager.findEvent serviceId eventId with
  | none => 0
  | some slot =>
      match slot.subscribers.find? fun subscriber => subscriber.clientId == clientId with
      | none => 0
      | some subscriber =>
          let remainingMs := if subscriber.expiryMs > nowMs then subscriber.expiryMs - nowMs else 0
          (remainingMs / 1000).toUInt16

/-! ## Subscribing -/

def subscriber (manager : EventManager cfg) (serviceId eventId clientId : UInt16) :
    Option (Subscriber n) :=
  (manager.findEvent serviceId eventId).bind fun slot =>
    Table.lookup Subscriber.clientId clientId slot.subscribers

/-- No client is subscribed twice to an event. -/
def DistinctSubscribers (manager : EventManager cfg) : Prop :=
  ∀ slot ∈ manager.events, Table.Distinct Subscriber.clientId slot.subscribers

variable {manager : EventManager cfg} {serviceId eventId clientId : UInt16}
variable {nowMs : UInt32}

theorem findEvent_mem {slot : EventSlot n}
    (found : manager.findEvent serviceId eventId = some slot) : slot ∈ manager.events :=
  List.mem_of_find?_eq_some found

/-- Registering an event leaves the subscribers alone. -/
theorem DistinctSubscribers.registerEvent (distinct : manager.DistinctSubscribers)
    (serviceId eventId : UInt16) :
    (manager.registerEvent serviceId eventId).2.DistinctSubscribers := by
  rw [EventManager.registerEvent]
  split
  · exact distinct
  · split
    · intro slot member
      rcases List.mem_append.mp member with old | new
      · exact distinct slot old
      · cases List.mem_singleton.mp new
        exact List.nodup_nil
    · exact distinct

theorem subscriber_registerEvent {subscriber : Subscriber n}
    (subscribed : manager.subscriber serviceId eventId clientId = some subscriber)
    (otherService otherEvent : UInt16) :
    (manager.registerEvent otherService otherEvent).2.subscriber serviceId eventId clientId =
      some subscriber := by
  obtain ⟨slot, found, inSlot⟩ := Option.bind_eq_some_iff.mp subscribed
  rw [registerEvent]
  split
  · exact subscribed
  · split
    · let grown : EventManager cfg :=
        { events := manager.events ++ [{ serviceId := otherService, eventId := otherEvent }] }
      have still : grown.findEvent serviceId eventId = some slot := by
        rw [findEvent] at found ⊢
        rw [List.find?_append, found, Option.some_or]
      rw [EventManager.subscriber, still]
      exact inSlot
    · exact subscribed

/-- Writing back subscribers is seen under their event only. -/
theorem findEvent_setSubscribers (manager : EventManager cfg) (subscribers : List (Subscriber n))
    (serviceId eventId otherService otherEvent : UInt16) :
    (manager.setSubscribers serviceId eventId subscribers).findEvent otherService otherEvent =
      if otherService = serviceId ∧ otherEvent = eventId then
        (manager.findEvent otherService otherEvent).map fun slot => { slot with subscribers }
      else manager.findEvent otherService otherEvent := by
  rw [findEvent, findEvent, setSubscribers]
  dsimp only
  induction manager.events with
  | nil => simp [Table.updateFirst]
  | cons slot rest ih =>
      have keeps : holds otherService otherEvent { slot with subscribers } =
          holds otherService otherEvent slot := rfl
      cases here : holds serviceId eventId slot with
      | true =>
          rw [Table.updateFirst, if_pos here, List.find?_cons, List.find?_cons, keeps]
          simp only [holds, Bool.and_eq_true, beq_iff_eq] at here
          obtain ⟨⟨active, rfl⟩, rfl⟩ := here
          split
          · next wanted =>
              simp only [holds, Bool.and_eq_true, beq_iff_eq] at wanted
              rw [if_pos ⟨wanted.1.2.symm, wanted.2.symm⟩]
              rfl
          · next unwanted =>
              have different : ¬(otherService = slot.serviceId ∧ otherEvent = slot.eventId) := by
                rintro ⟨rfl, rfl⟩
                simp [holds, active] at unwanted
              rw [if_neg different]
      | false =>
          rw [Table.updateFirst, if_neg (by simp [here]), List.find?_cons, List.find?_cons, ih]
          split
          · next wanted =>
              have different : ¬(otherService = serviceId ∧ otherEvent = eventId) := by
                rintro ⟨rfl, rfl⟩
                rw [wanted] at here
                cases here
              rw [if_neg different]
          · rfl

theorem DistinctSubscribers.setSubscribers (distinct : manager.DistinctSubscribers)
    {subscribers : List (Subscriber n)}
    (written : Table.Distinct Subscriber.clientId subscribers) (serviceId eventId : UInt16) :
    (manager.setSubscribers serviceId eventId subscribers).DistinctSubscribers := by
  intro slot member
  rcases Table.mem_updateFirst member with same | ⟨earlier, -, rfl⟩
  · exact distinct slot same
  · exact written

/-- The lifetime a subscription is granted. -/
def grantedTtl (cfg : Config n) (ttlSeconds : UInt16) : UInt16 :=
  if ttlSeconds > 0 then ttlSeconds else cfg.subscriptionTtlSeconds

theorem expiry_eq (ttlSeconds : UInt16) (nowMs : UInt32) :
    (if ttlSeconds > 0 then nowMs + ttlSeconds.toUInt32 * 1000
      else nowMs + cfg.subscriptionTtlSeconds.toUInt32 * 1000) =
    nowMs + (grantedTtl cfg ttlSeconds).toUInt32 * 1000 := by
  rw [grantedTtl]
  split <;> rfl

/-- The entry of an accepted subscription. -/
def accepted (cfg : Config n) (clientId : UInt16) (addr : Address n) (ttlSeconds : UInt16)
    (nowMs : UInt32) : Subscriber n where
  clientId
  addr
  expiryMs := nowMs + (grantedTtl cfg ttlSeconds).toUInt32 * 1000

/-- Subscribing is refused, or writes the client's entry. -/
theorem subscribe_cases (manager : EventManager cfg) (serviceId eventId clientId : UInt16)
    (addr : Address n) (ttlSeconds : UInt16) (nowMs : UInt32) :
    let entry := accepted cfg clientId addr ttlSeconds nowMs
    let result := manager.subscribe serviceId eventId clientId addr ttlSeconds nowMs
    (result = (.eNotOk, manager) ∧ manager.subscriber serviceId eventId clientId = none) ∨
      ∃ slot subscribers, manager.findEvent serviceId eventId = some slot ∧
        Table.upsert (fun subscriber => subscriber.clientId == clientId) (fun _ => entry) entry
          cfg.maxSubscribers slot.subscribers = some subscribers ∧
        result = (.eOk, manager.setSubscribers serviceId eventId subscribers) := by
  intro entry result
  cases found : manager.findEvent serviceId eventId with
  | none =>
      left
      refine ⟨?_, by rw [subscriber, found, Option.bind_none]⟩
      simp only [result, subscribe, found]
  | some slot =>
      cases known : slot.subscribers.any fun subscriber => subscriber.clientId == clientId with
      | true =>
          right
          refine ⟨slot, _, rfl, if_pos known, ?_⟩
          have written : Table.updateFirst (fun subscriber => subscriber.clientId == clientId)
              (fun subscriber : Subscriber n => { subscriber with
                addr, expiryMs := nowMs + (grantedTtl cfg ttlSeconds).toUInt32 * 1000 })
              slot.subscribers =
              Table.updateFirst (fun subscriber => subscriber.clientId == clientId)
                (fun _ => entry) slot.subscribers := by
            apply Table.updateFirst_congr
            intro subscriber isClient
            exact congrArg (fun client => Subscriber.mk client addr _) (eq_of_beq isClient)
          simp only [result, subscribe, found, known, if_true, expiry_eq, written]
      | false =>
          have unknown : ¬(slot.subscribers.any fun subscriber =>
              subscriber.clientId == clientId) = true := by simp [known]
          by_cases room : slot.subscribers.length < cfg.maxSubscribers
          · right
            refine ⟨slot, slot.subscribers ++ [entry], rfl, ?_, ?_⟩
            · rw [Table.upsert, if_neg unknown, if_pos room]
            · simp only [result, subscribe, found, if_neg unknown, if_pos room, expiry_eq]
              rfl
          · left
            constructor
            · simp only [result, subscribe, found, if_neg unknown, if_neg room]
            · rw [Table.any_eq_isSome] at known
              rw [subscriber, found, Option.bind_some]
              exact Option.not_isSome_iff_eq_none.mp (by simp [known])

/-- A client that is subscribed has its subscription renewed. -/
theorem subscribe_renews {earlier : Subscriber n}
    (subscribed : manager.subscriber serviceId eventId clientId = some earlier)
    (addr : Address n) (ttlSeconds : UInt16) :
    (manager.subscribe serviceId eventId clientId addr ttlSeconds nowMs).1 = .eOk := by
  rcases subscribe_cases manager serviceId eventId clientId addr ttlSeconds nowMs with
    ⟨-, unknown⟩ | ⟨_, _, _, _, written⟩
  · cases unknown.symm.trans subscribed
  · rw [written]

theorem subscribe_refused {addr : Address n} {ttlSeconds : UInt16}
    (refused : (manager.subscribe serviceId eventId clientId addr ttlSeconds nowMs).1 ≠ .eOk) :
    (manager.subscribe serviceId eventId clientId addr ttlSeconds nowMs).2 = manager := by
  rcases subscribe_cases manager serviceId eventId clientId addr ttlSeconds nowMs with
    ⟨unchanged, -⟩ | ⟨_, _, _, _, written⟩
  · rw [unchanged]
  · rw [written] at refused
    exact absurd rfl refused

section Written

variable {entry : Subscriber n} {capacity : Nat} {before after : List (Subscriber n)}

theorem lookup_written
    (upserted : Table.upsert (fun subscriber => Subscriber.clientId subscriber == clientId)
      (fun _ => entry) entry capacity before = some after)
    (own : entry.clientId = clientId) (wanted : UInt16) :
    Table.lookup Subscriber.clientId wanted after =
      if wanted = clientId then some entry
      else Table.lookup Subscriber.clientId wanted before :=
  Table.lookup_upsert (fun _ => own) upserted wanted

theorem distinct_written
    (upserted : Table.upsert (fun subscriber => Subscriber.clientId subscriber == clientId)
      (fun _ => entry) entry capacity before = some after)
    (own : entry.clientId = clientId) (distinct : Table.Distinct Subscriber.clientId before) :
    Table.Distinct Subscriber.clientId after :=
  distinct.upsert (fun _ => own) upserted

end Written

/-- The lease of an accepted subscription. -/
theorem subscribe_accepted {addr : Address n} {ttlSeconds : UInt16}
    (isOk : (manager.subscribe serviceId eventId clientId addr ttlSeconds nowMs).1 = .eOk) :
    (manager.subscribe serviceId eventId clientId addr ttlSeconds nowMs).2.subscriber serviceId
        eventId clientId = some (accepted cfg clientId addr ttlSeconds nowMs) := by
  rcases subscribe_cases manager serviceId eventId clientId addr ttlSeconds nowMs with
    ⟨unchanged, -⟩ | ⟨slot, subscribers, found, upserted, written⟩
  · rw [unchanged] at isOk
    cases isOk
  · have looked := lookup_written upserted rfl clientId
    rw [if_pos rfl] at looked
    rw [written, subscriber, findEvent_setSubscribers, if_pos ⟨rfl, rfl⟩, found]
    exact looked

/-- Subscribing one client to one event leaves the others alone. -/
theorem subscriber_subscribe {wantedService wantedEvent wantedClient : UInt16}
    (other : ¬(clientId = wantedClient ∧ serviceId = wantedService ∧ eventId = wantedEvent))
    (addr : Address n) (ttlSeconds : UInt16) :
    (manager.subscribe serviceId eventId clientId addr ttlSeconds nowMs).2.subscriber
        wantedService wantedEvent wantedClient =
      manager.subscriber wantedService wantedEvent wantedClient := by
  rcases subscribe_cases manager serviceId eventId clientId addr ttlSeconds nowMs with
    ⟨unchanged, -⟩ | ⟨slot, subscribers, found, upserted, written⟩
  · rw [unchanged]
  · rw [written, subscriber, subscriber, findEvent_setSubscribers]
    split
    · next same =>
        obtain ⟨rfl, rfl⟩ := same
        have looked := lookup_written upserted rfl wantedClient
        rw [if_neg fun client => other ⟨client.symm, rfl, rfl⟩] at looked
        rw [found]
        exact looked
    · rfl

theorem DistinctSubscribers.subscribe (distinct : manager.DistinctSubscribers)
    (serviceId eventId clientId : UInt16) (addr : Address n) (ttlSeconds : UInt16)
    (nowMs : UInt32) :
    (manager.subscribe serviceId eventId clientId addr ttlSeconds
      nowMs).2.DistinctSubscribers := by
  rcases subscribe_cases manager serviceId eventId clientId addr ttlSeconds nowMs with
    ⟨unchanged, -⟩ | ⟨slot, subscribers, found, upserted, written⟩
  · rw [unchanged]
    exact distinct
  · rw [written]
    exact distinct.setSubscribers
      (distinct_written upserted rfl (distinct slot (findEvent_mem found))) _ _

/-! ## Leaving and eviction -/

theorem subscriber_unsubscribe {wantedService wantedEvent wantedClient : UInt16}
    (distinct : manager.DistinctSubscribers)
    (other : ¬(clientId = wantedClient ∧ serviceId = wantedService ∧ eventId = wantedEvent)) :
    (manager.unsubscribe serviceId eventId clientId).subscriber wantedService wantedEvent
        wantedClient =
      manager.subscriber wantedService wantedEvent wantedClient := by
  rw [unsubscribe]
  split
  · rfl
  · next slot found =>
      rw [subscriber, subscriber, findEvent_setSubscribers]
      split
      · next same =>
          obtain ⟨rfl, rfl⟩ := same
          have different : wantedClient ≠ clientId := fun client => other ⟨client.symm, rfl, rfl⟩
          rw [found, Option.map_some, Option.bind_some, Option.bind_some,
            (distinct slot (findEvent_mem found)).lookup_swapRemove, if_neg different]
      · rfl

theorem DistinctSubscribers.unsubscribe (distinct : manager.DistinctSubscribers)
    (serviceId eventId clientId : UInt16) :
    (manager.unsubscribe serviceId eventId clientId).DistinctSubscribers := by
  rw [EventManager.unsubscribe]
  split
  · exact distinct
  · next slot found =>
      exact distinct.setSubscribers ((distinct slot (findEvent_mem found)).swapRemove _) _ _

/-- The loop removes exactly the expired, up to the order of the rest. -/
theorem evictLoop_perm (nowMs : UInt32) {fuel : Nat} {subscribers : List (Subscriber n)}
    (enough : subscribers.length ≤ fuel) :
    (evictLoop nowMs fuel subscribers).Perm
      (subscribers.filter fun subscriber => !timeAfter nowMs subscriber.expiryMs) := by
  induction fuel generalizing subscribers with
  | zero =>
      rw [List.eq_nil_of_length_eq_zero (Nat.le_zero.mp enough)]
      exact .nil
  | succ fuel ih =>
      cases subscribers with
      | nil => exact .nil
      | cons subscriber rest =>
          have short : rest.length ≤ fuel := Nat.le_of_succ_le_succ enough
          rw [evictLoop]
          split
          · next expired =>
              rw [List.filter_cons_of_neg (by simp [expired])]
              rcases rest.eq_nil_or_concat with rfl | ⟨front, last, rfl⟩
              · exact .nil
              · rw [List.concat_eq_append] at short ⊢
                have moved : (last :: front).Perm (front ++ [last]) :=
                  (List.perm_append_singleton last front).symm
                have evicted := ih (moved.length_eq.trans_le short)
                simpa using evicted.trans (moved.filter _)
          · next lives =>
              rw [List.filter_cons_of_pos (by simpa using lives)]
              exact (ih short).cons subscriber

theorem DistinctSubscribers.evictExpired (distinct : manager.DistinctSubscribers)
    (nowMs : UInt32) : (manager.evictExpired nowMs).DistinctSubscribers := by
  intro slot member
  obtain ⟨earlier, before, rfl⟩ := List.mem_map.mp member
  split
  · have kept := (evictLoop_perm nowMs (Nat.le_refl earlier.subscribers.length)).map
      Subscriber.clientId
    exact kept.nodup_iff.mpr ((distinct earlier before).sublist
      (List.filter_sublist.map Subscriber.clientId))
  · exact distinct earlier before

/-- What eviction leaves of an event. -/
def evictSlot (nowMs : UInt32) (slot : EventSlot n) : EventSlot n :=
  if slot.active then
    { slot with subscribers := evictLoop nowMs slot.subscribers.length slot.subscribers }
  else slot

theorem findEvent_evictExpired (manager : EventManager cfg) (nowMs : UInt32)
    (serviceId eventId : UInt16) :
    (manager.evictExpired nowMs).findEvent serviceId eventId =
      (manager.findEvent serviceId eventId).map (evictSlot nowMs) := by
  have keeps : holds serviceId eventId ∘ @evictSlot n nowMs =
      holds serviceId eventId := by
    funext slot
    rw [Function.comp_apply, evictSlot]
    split <;> rfl
  rw [findEvent, findEvent]
  change (manager.events.map (evictSlot nowMs)).find? _ = _
  rw [List.find?_map, keeps]

theorem findEvent_active {slot : EventSlot n}
    (found : manager.findEvent serviceId eventId = some slot) : slot.active = true := by
  have holding := List.find?_some found
  simp only [holds, Bool.and_eq_true] at holding
  exact holding.1.1

/-- Eviction keeps a client's lease unless it has run out. -/
theorem lookup_evict {slot : EventSlot n} (active : slot.active = true)
    (distinct : Table.Distinct Subscriber.clientId slot.subscribers) (clientId : UInt16) :
    Table.lookup Subscriber.clientId clientId (evictSlot nowMs slot).subscribers =
      (Table.lookup Subscriber.clientId clientId slot.subscribers).filter
        fun subscriber => !timeAfter nowMs subscriber.expiryMs := by
  have kept := evictLoop_perm nowMs (Nat.le_refl slot.subscribers.length)
  have filtered : Table.Distinct Subscriber.clientId
      (slot.subscribers.filter fun subscriber => !timeAfter nowMs subscriber.expiryMs) :=
    distinct.sublist (List.filter_sublist.map Subscriber.clientId)
  rw [evictSlot, if_pos active, ← distinct.lookup_filter,
    filtered.lookup_perm kept.symm]

/-- A subscriber whose lease has not run out stays. -/
theorem subscriber_evictExpired {subscriber : Subscriber n}
    (distinct : manager.DistinctSubscribers)
    (subscribed : manager.subscriber serviceId eventId clientId = some subscriber)
    (unexpired : timeAfter nowMs subscriber.expiryMs = false) :
    (manager.evictExpired nowMs).subscriber serviceId eventId clientId = some subscriber := by
  obtain ⟨slot, found, inSlot⟩ := Option.bind_eq_some_iff.mp subscribed
  have slots := distinct slot (findEvent_mem found)
  rw [EventManager.subscriber, findEvent_evictExpired, found, Option.map_some,
    Option.bind_some, lookup_evict (findEvent_active found) slots, inSlot]
  simp [unexpired]

end EventManager

end Sero
