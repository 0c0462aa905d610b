import Sero.Runtime.Run

/-!
# Subscribing in two tables

`subscribe_event` files the handler first and starts the subscription protocol second.
Both tables have the same capacity, but `unsubscribe_event` frees a place only in the first:
the second can be full when the first is not.
-/

namespace Sero

open Library ServiceDiscovery

variable {n : Nat} {cfg : Config n}

namespace World

/-- Can a handler of the event be filed? -/
def HandlerRoom (serviceId eventId : UInt16) (w : World cfg) : Prop :=
  (w.findEventHandler serviceId eventId).isSome ∨
    w.rt.eventHandlers.length < cfg.maxKnownServices * cfg.maxEvents

/-- Can the event be tracked? -/
def TrackerRoom (serviceId eventId : UInt16) (w : World cfg) : Prop :=
  (w.rt.sd.findSubTracker serviceId eventId).isSome ∨
    w.rt.sd.subTrackers.length < cfg.maxKnownServices * cfg.maxEvents

variable {serviceId eventId : UInt16} {w : World cfg}

theorem subscribeEvent_refused_iff {ttlSeconds : UInt16} {nowMs : UInt32} :
    (w.rt.sd.subscribeEvent serviceId eventId ttlSeconds nowMs).1 = false ↔
      ¬w.TrackerRoom serviceId eventId := by
  have refused := @Table.upsert_eq_none_iff _ _ SubTracker.key _ (serviceId, eventId)
    (SubTracker.subscribe serviceId eventId ttlSeconds nowMs) {}
    (cfg.maxKnownServices * cfg.maxEvents) w.rt.sd.subTrackers
  rw [TrackerRoom, not_or, Nat.not_lt, Option.not_isSome_iff_eq_none, findSubTracker, ← refused,
    ServiceDiscovery.subscribeEvent]
  split
  · next absent => simp [absent]
  · next trackers written => simp [written]

theorem registerEventHandler_refused {context : Nat}
    (full : ¬w.HandlerRoom serviceId eventId) :
    w.registerEventHandler serviceId eventId context = (false, w) := by
  rw [HandlerRoom, not_or, findEventHandler, List.isSome_find?] at full
  rw [registerEventHandler, Table.upsert, if_neg full.1, if_neg full.2]

/-- A handler that is filed is the one that is found. -/
theorem registerEventHandler_found (context : Nat) (room : w.HandlerRoom serviceId eventId) :
    ∃ eventHandlers, w.registerEventHandler serviceId eventId context =
        (true, { w with rt := { w.rt with eventHandlers } }) ∧
      eventHandlers.find? (handlesEvent serviceId eventId) =
        some { serviceId, eventId, context } := by
  have handles : ∀ _ : EventHandlerEntry,
      handlesEvent serviceId eventId { serviceId, eventId, context } = true := by
    intro _
    simp [handlesEvent]
  rw [registerEventHandler]
  cases written : Table.upsert (handlesEvent serviceId eventId)
      (fun _ => { serviceId, eventId, context }) { serviceId, eventId, context }
      (cfg.maxKnownServices * cfg.maxEvents) w.rt.eventHandlers with
  | none =>
      rw [HandlerRoom, findEventHandler, List.isSome_find?] at room
      rw [Table.upsert] at written
      split at written
      · cases written
      · next absent =>
          rw [if_pos (room.resolve_left absent)] at written
          cases written
  | some eventHandlers => exact ⟨eventHandlers, rfl, Table.find?_upsert handles written⟩

end World

/-- A refused call leaves both tables as they were: a notification of the event reaches the
handler it would have reached before, if any, and not the one of the call. -/
def LeavesTables (serviceId eventId : UInt16) (context : Nat) (before : World cfg)
    (outcome : Bool × World cfg) : Prop :=
  outcome.1 = false →
    outcome.2.rt.eventHandlers = before.rt.eventHandlers ∧
    outcome.2.rt.sd.subTrackers = before.rt.sd.subTrackers ∧
    ∀ entry, outcome.2.findEventHandler serviceId eventId = some entry →
      before.findEventHandler serviceId eventId = some entry ∧ entry.context ≠ context

/-- A call is all or nothing unless the handler can be filed and the event not tracked. -/
theorem subscribe_all_or_nothing_iff (serviceId eventId : UInt16) (context : Nat)
    (ttlSeconds : UInt16) (nowMs : UInt32) (w : World cfg) :
    LeavesTables serviceId eventId context w
        (w.subscribeEvent serviceId eventId context ttlSeconds nowMs) ↔
      (w.HandlerRoom serviceId eventId → w.TrackerRoom serviceId eventId) := by
  have tracks := @World.subscribeEvent_refused_iff _ _ serviceId eventId w ttlSeconds nowMs
  by_cases room : w.HandlerRoom serviceId eventId
  · obtain ⟨eventHandlers, registered, found⟩ := World.registerEventHandler_found context room
    rw [World.subscribeEvent, registered]
    constructor
    · intro leaves _
      by_contra full
      obtain ⟨-, -, reaches⟩ := leaves (tracks.mpr full)
      exact (reaches _ found).2 rfl
    · intro tracked refused
      exact absurd (tracked room) (tracks.mp refused)
  · rw [World.subscribeEvent, World.registerEventHandler_refused room]
    have unfiled : w.findEventHandler serviceId eventId = none :=
      Option.not_isSome_iff_eq_none.mp fun filed => room (.inl filed)
    constructor
    · exact fun _ filed => absurd filed room
    · intro _ _
      refine ⟨rfl, rfl, fun entry reaches => ?_⟩
      cases unfiled.symm.trans reaches

/-- A device whose application has subscribed to more and more events and given each up
again. -/
def forgetfulDevice : World embeddedConfig :=
  World.run (.benign _)
    ((List.range 32).flatMap fun event =>
      [.api (.subscribeEvent 0x1000 (0x8000 + UInt16.ofNat event) 0 10 0),
        .api (.unsubscribeEvent 0x1000 (0x8000 + UInt16.ofNat event))])
    (World.initial _ 1)

/-- One more event is refused, and its handler stays. -/
theorem refused_handler_stays :
    World.Reachable (.benign _) forgetfulDevice ∧
      (forgetfulDevice.subscribeEvent 0x1000 0x9000 7 10 0).1 = false ∧
      forgetfulDevice.findEventHandler 0x1000 0x9000 = none ∧
      (forgetfulDevice.subscribeEvent 0x1000 0x9000 7 10 0).2.findEventHandler 0x1000 0x9000 =
        some { serviceId := 0x1000, eventId := 0x9000, context := 7 } ∧
      ¬LeavesTables 0x1000 0x9000 7 forgetfulDevice
        (forgetfulDevice.subscribeEvent 0x1000 0x9000 7 10 0) := by
  have refused : (forgetfulDevice.subscribeEvent 0x1000 0x9000 7 10 0).1 = false := by
    decide +kernel
  have reached : (forgetfulDevice.subscribeEvent 0x1000 0x9000 7 10 0).2.findEventHandler
      0x1000 0x9000 = some { serviceId := 0x1000, eventId := 0x9000, context := 7 } := by
    decide +kernel
  refine ⟨⟨1, _, rfl⟩, refused, by decide +kernel, reached, ?_⟩
  intro leaves
  exact ((leaves refused).2.2 _ reached).2 rfl

end Sero
