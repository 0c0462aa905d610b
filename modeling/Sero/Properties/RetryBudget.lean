import Sero.Properties.RefusedSubscription

/-!
# The retry budget of a subscription

A request that is not answered is repeated twice, each time when a lifetime has passed since
the one before.  The repetitions are counted in the tracker of the event, which outlives its
subscriptions, and subscribing does not reset the count: a new subscription gets what the
earlier ones have left.
-/

namespace Sero

open Library ServiceDiscovery

variable {n : Nat} {cfg : Config n} {env : Env cfg} {serviceId eventId clientId : UInt16}

/-- Is a request due, if the one before was sent then? -/
def isDue (lifetimeMs : UInt32) (last : Option UInt32) (tick : UInt32) : Bool :=
  last.all fun time => timeAfterOrEq tick (time + lifetimeMs)

/-- The ticks at which a request is due: the first, and after each the first that is a
lifetime later. -/
def dueTicks (lifetimeMs : UInt32) : Option UInt32 → List UInt32 → List UInt32
  | _, [] => []
  | last, tick :: rest =>
      if isDue lifetimeMs last tick then tick :: dueTicks lifetimeMs (some tick) rest
      else dueTicks lifetimeMs last rest

/-- The lifetime a device asks for again and again until it is answered. -/
def retryLifetimeMs (cfg : Config n) : UInt32 :=
  cfg.subscriptionTtlSeconds.toUInt32 * 1000

def Move.tick : Move cfg → Option UInt32
  | .housekeeping nowMs => some nowMs
  | _ => none

/-! ## Undisturbed runs -/

/-- Is it an answer about the event? -/
def SdRequest.answers (serviceId eventId : UInt16) : SdRequest n → Bool
  | .ack _ granted => granted.serviceId == serviceId && granted.eventId == eventId
  | _ => false

/-- Does a move hand an answer about the event to discovery? -/
def Move.answers (serviceId eventId : UInt16) (w : World cfg) : Move cfg → Bool
  | .deliver source data _ =>
      (w.validate source data).1.isSome &&
        (heard cfg source data).any (SdRequest.answers serviceId eventId)
  | _ => false

/-- The provider stays found and says nothing about the event, and the application leaves
its subscription alone. -/
structure Undisturbed (env : Env cfg) (serviceId eventId : UInt16) (w : World cfg)
    (move : Move cfg) : Prop where
  found : HasFound serviceId (w.step env move)
  unanswered : move.answers serviceId eventId w = false
  unflagged : move.flagsEvent env serviceId eventId w = false
  leaves : resubscribes serviceId eventId ((w.step env move).since w) = false

def UndisturbedRun (env : Env cfg) (serviceId eventId : UInt16) :
    World cfg → List (Move cfg) → Prop
  | _, [] => True
  | w, move :: rest =>
      Undisturbed env serviceId eventId w move ∧
        UndisturbedRun env serviceId eventId (w.step env move) rest

instance (w : World cfg) (move : Move cfg) :
    Decidable (Undisturbed env serviceId eventId w move) :=
  decidable_of_iff
    ((((w.step env move).rt.sd.getProviderAddress serviceId).isSome = true ∧
      move.answers serviceId eventId w = false) ∧
      move.flagsEvent env serviceId eventId w = false ∧
        resubscribes serviceId eventId ((w.step env move).since w) = false)
    ⟨fun holds => ⟨hasFound_iff.mpr holds.1.1, holds.1.2, holds.2.1, holds.2.2⟩,
      fun holds => ⟨⟨hasFound_iff.mp holds.found, holds.unanswered⟩, holds.unflagged,
        holds.leaves⟩⟩

instance decidableUndisturbedRun : (w : World cfg) → (moves : List (Move cfg)) →
    Decidable (UndisturbedRun env serviceId eventId w moves)
  | _, [] => instDecidableTrue
  | w, move :: rest =>
      have := decidableUndisturbedRun (w.step env move) rest
      instDecidableAnd

/-- Is it a frame that asks for the event? -/
def Event.asks (serviceId eventId : UInt16) (event : Event cfg) : Bool :=
  event.sdFrame.any fun sent => mentions [.subscribeEvent] serviceId eventId sent.2

/-- The ticks in which the event is asked for, once for each frame. -/
def requestTicks (env : Env cfg) (serviceId eventId : UInt16) :
    World cfg → List (Move cfg) → List (Option UInt32)
  | _, [] => []
  | w, move :: rest =>
      let after := w.step env move
      List.replicate ((after.since w).countP (Event.asks serviceId eventId)) move.tick ++
        requestTicks env serviceId eventId after rest

/-- How often the request for the event has been repeated, over all its subscriptions. -/
def ServiceDiscovery.retriesUsed (serviceId eventId : UInt16) (sd : ServiceDiscovery cfg) : Nat :=
  ((sd.findSubTracker serviceId eventId).getD {}).ackRetryCount.toNat

/-- The event is asked for at the first three ticks at which that is due, and given up
only after them. -/
structure FullBudget (env : Env cfg) (serviceId eventId : UInt16) (moves : List (Move cfg))
    (w : World cfg) : Prop where
  requests : requestTicks env serviceId eventId w moves =
    ((dueTicks (retryLifetimeMs cfg) none (moves.filterMap Move.tick)).take 3).map some
  exhausted : ((World.run env moves w).rt.sd.findSubTracker serviceId eventId).any
      SubTracker.active = false → (requestTicks env serviceId eventId w moves).length = 3

section Moves

variable {asked : Option (SdRequest n)} {describes : SubTracker → Prop} {nowMs : UInt32}

theorem CalmMove.keepsTracker {before after : World cfg}
    (move : CalmMove env serviceId eventId asked before after)
    (other : ∀ result granted, asked = some (.ack result granted) →
      (granted.serviceId, granted.eventId) ≠ (serviceId, eventId)) :
    KeepsTracker serviceId eventId clientId describes before after := by
  cases move with
  | step step notOffer notAck =>
      exact step.keepsTracker (fun offer offers => absurd offers (notOffer offer))
        fun result granted acks => absurd acks (notAck result granted)
  | write trackers own =>
      exact .of_silent (List.nil_append _).symm rfl fun tracking => tracking.of_same trackers own
  | @flag offer time _ unwanted =>
      refine .of_silent (List.nil_append _).symm rfl fun tracking => ?_
      obtain ⟨tracker, known, described⟩ := tracking.tracks
      have looked := before.rt.sd.findSubTracker_flagResubscribe offer.serviceId time serviceId
        eventId
      rw [known, Option.map_some, flagged_of_unwanted known unwanted] at looked
      exact ⟨tracking.distinct.map (SubTracker.flagged_key offer.serviceId time) rfl,
        ⟨tracker, looked, described⟩, tracking.clientId⟩
  | @answer result granted acks =>
      refine .of_silent (List.nil_append _).symm rfl fun tracking => ?_
      exact tracking.update (SubTracker.acknowledge_key result granted.ttlSeconds)
        (fun same => absurd same (other result granted acks)) rfl

theorem CalmMoves.keepsTracker {before after : World cfg}
    (moves : CalmMoves env serviceId eventId asked before after)
    (other : ∀ result granted, asked = some (.ack result granted) →
      (granted.serviceId, granted.eventId) ≠ (serviceId, eventId)) :
    KeepsTracker serviceId eventId clientId describes before after := by
  induction moves with
  | refl => exact .of_silent (List.nil_append _).symm rfl id
  | tail _ move ih => exact ih.trans (move.keepsTracker other)

/-- Every move but the rest of a cycle. -/
theorem World.step_keepsTracker {w : World cfg} {move : Move cfg}
    (undisturbed : Undisturbed env serviceId eventId w move) (noTick : move.tick = none) :
    KeepsTracker serviceId eventId clientId describes w (w.step env move) := by
  cases move with
  | api call =>
      have steps : DiscoverySteps env 0 none w _ := perform_discoverySteps call w
      exact steps.keepsTracker (by simp) (by simp)
  | start nowMs =>
      have step : DiscoveryStep env nowMs none w (w.startCycle nowMs) := .startCycle w
      exact step.keepsTracker (by simp) (by simp)
  | deliver source data nowMs =>
      have unanswered := undisturbed.unanswered
      rw [Move.answers] at unanswered
      cases handled : (w.validate source data).1 with
      | none =>
          have validated : DiscoverySteps env nowMs none w (w.validate source data).2 :=
            ((Atomic.validate source data w).plainSteps rfl).discoverySteps
          have dropped : w.validateAndDispatch env source data nowMs =
              (w.validate source data).2 := by
            rw [validateAndDispatch]
            rcases outcome : w.validate source data with ⟨passed, after⟩
            rw [outcome] at handled
            cases handled
            rfl
          rw [step, dropped]
          exact validated.keepsTracker (by simp) (by simp)
      | some hdr =>
          rw [handled, Option.isSome_some, Bool.true_and] at unanswered
          apply (receive_calm undisturbed.unflagged).keepsTracker
          intro result granted hears same
          obtain ⟨service, event⟩ := Prod.mk.inj same
          rw [hears, Option.any_some, SdRequest.answers, service, event, beq_self_eq_true,
            beq_self_eq_true] at unanswered
          cases unanswered
  | housekeeping nowMs => cases noTick

/-- What a move does about an event. -/
theorem World.step_asks {w : World cfg} {tracker : SubTracker} {move : Move cfg}
    (tracking : Tracking serviceId eventId clientId (· = tracker) w)
    (undisturbed : Undisturbed env serviceId eventId w move) :
    let turn := move.tick.elim (none, tracker) fun nowMs => renewed cfg nowMs tracker
    Tracking serviceId eventId clientId (· = turn.2) (w.step env move) ∧
      ((w.step env move).since w).countP (Event.asks serviceId eventId) =
        (turn.1.any (SdMessage.asks serviceId eventId)).toNat := by
  intro turn
  cases noTick : move.tick with
  | none =>
      obtain ⟨events, history, keeps⟩ := @World.step_keepsTracker _ _ env serviceId eventId
        clientId (· = tracker) w move undisturbed noTick
      have since := World.since_eq history
      obtain ⟨after, frames⟩ := keeps (since ▸ undisturbed.leaves) tracking
      simp only [turn, noTick, Option.elim_none, Option.any_none, since]
      exact ⟨after, countP_mentions_eq_zero (by simp) frames⟩
  | some nowMs =>
      obtain rfl : move = .housekeeping nowMs := by
        cases move <;> cases noTick
        rfl
      obtain ⟨offered, older, newer, around⟩ :=
        housekeeping_around tracking undisturbed.leaves undisturbed.found
      obtain ⟨_, known, rfl⟩ := around.tracking.tracks
      rename_i tracker
      obtain ⟨provider, address⟩ := Option.isSome_iff_exists.mp (hasFound_iff.mp around.found)
      have service : tracker.serviceId = serviceId := congrArg Prod.fst (Table.lookup_key known)
      have turned := @renew_found _ _ nowMs offered.rt.sd provider tracker
        (by rw [service]; exact address)
      obtain ⟨burst, history, counted⟩ := @World.renewSubscriptions_count _ _ env serviceId
        eventId _ _ mentions_asks nowMs (fun _ _ sent about => renewal_key sent (.inl about)) _
        around.tracking.distinct
      have whole := around.newerHistory
      rw [history, around.olderHistory] at whole
      let pass : Event cfg := .renewals (offered.rt.sd.processSubscriptionRenewals nowMs).1
        offered.rt.sd (offered.rt.sd.processSubscriptionRenewals nowMs).2
      have since : (w.housekeeping env nowMs).since w = newer ++ (burst ++ pass :: older) :=
        World.since_eq (whole.trans (by simp only [List.append_assoc, List.cons_append, pass]))
      have silentPass : Event.asks serviceId eventId pass = false := rfl
      have first : newer.countP (Event.asks serviceId eventId) = 0 :=
        countP_mentions_eq_zero (by simp) around.newerFrames
      have last : older.countP (Event.asks serviceId eventId) = 0 :=
        countP_mentions_eq_zero (by simp) around.olderFrames
      have sent : burst.countP (Event.asks serviceId eventId) = _ := counted
      refine ⟨around.renewed, ?_⟩
      change ((w.housekeeping env nowMs).since w).countP (Event.asks serviceId eventId) = _
      rw [since, List.countP_append, List.countP_append, List.countP_cons, silentPass, first,
        last, sent, known, Option.any_some, turned]
      have isTurn : turn = renewed cfg nowMs tracker := rfl
      rw [isTurn]
      cases (renewed cfg nowMs tracker).1 <;> simp

end Moves

/-! ## The budget -/

/-- An unanswered tracker with so many requests to go, the one before sent then. -/
structure SubTracker.Awaits (budget : Nat) (last : Option UInt32) (tracker : SubTracker) :
    Prop where
  active : tracker.active = true
  kept : tracker.needsUnsubscribe = false
  ungranted : tracker.grantedTtl = 0
  unsent : tracker.needsSend = last.isNone
  sentAt : ∀ time ∈ last, tracker.lastSentMs = time
  budget : budget = last.isNone.toNat + (2 - tracker.ackRetryCount.toNat)

namespace SubTracker.Awaits

variable {budget : Nat} {last : Option UInt32} {tracker : SubTracker} {tick : UInt32}

/-- What a turn of the renewal loop does about an unanswered tracker. -/
theorem turn (awaits : tracker.Awaits budget last) :
    renewed cfg tick tracker =
      if tracker.needsSend = true then
        (some (.subscribeEvent tracker.serviceId tracker.eventId tracker.requestedTtl),
          { tracker with needsSend := false, lastSentMs := tick })
      else if timeAfterOrEq tick (tracker.lastSentMs + retryLifetimeMs cfg) = true then
        if tracker.ackRetryCount < 2 then
          (some (.subscribeEvent tracker.serviceId tracker.eventId tracker.requestedTtl),
            { tracker with lastSentMs := tick, ackRetryCount := tracker.ackRetryCount + 1 })
        else (none, { tracker with active := false })
      else (none, tracker) := by
  have kept : ¬tracker.needsUnsubscribe = true := Bool.eq_false_iff.mp awaits.kept
  have ungranted : ¬tracker.grantedTtl > 0 := by
    rw [awaits.ungranted]
    decide
  rw [renewed, if_pos awaits.active, renewTracker, if_neg kept, if_neg ungranted]
  rfl

theorem isDue_iff (awaits : tracker.Awaits budget last) :
    isDue (retryLifetimeMs cfg) last tick = true ↔ tracker.needsSend = true ∨
      timeAfterOrEq tick (tracker.lastSentMs + retryLifetimeMs cfg) = true ∧
        tracker.needsSend = false := by
  rw [awaits.unsent]
  cases last with
  | none => simp [isDue]
  | some time => simp [isDue, awaits.sentAt time rfl]

/-- Between requests the tracker waits. -/
theorem waits (awaits : tracker.Awaits budget last)
    (early : ¬isDue (retryLifetimeMs cfg) last tick = true) :
    renewed cfg tick tracker = (none, tracker) := by
  rw [awaits.isDue_iff, not_or] at early
  obtain ⟨sent, early⟩ := early
  rw [awaits.turn, if_neg sent, if_neg]
  exact fun due => early ⟨due, Bool.eq_false_iff.mpr sent⟩

/-- A request that is due is sent, as long as there is one to go. -/
theorem requests (awaits : tracker.Awaits (budget + 1) last)
    (key : SubTracker.key tracker = (serviceId, eventId))
    (due : isDue (retryLifetimeMs cfg) last tick = true) :
    (renewed cfg tick tracker).1.any (SdMessage.asks (n := n) serviceId eventId) = true ∧
      (renewed cfg tick tracker).2.Awaits budget (some tick) := by
  have asks : (SdMessage.subscribeEvent (n := n) tracker.serviceId tracker.eventId
      tracker.requestedTtl).asks serviceId eventId = true := by
    obtain ⟨service, event⟩ := Prod.mk.inj key
    rw [SdMessage.asks, service, event, beq_self_eq_true, beq_self_eq_true]
    rfl
  have room := awaits.budget
  rw [awaits.turn]
  rcases awaits.isDue_iff.mp due with first | ⟨late, sent⟩
  · have unsent : last.isNone = true := awaits.unsent.symm.trans first
    rw [if_pos first]
    refine ⟨asks, awaits.active, awaits.kept, awaits.ungranted, rfl, by simp, ?_⟩
    rw [unsent, Bool.toNat_true] at room
    simp only [Option.isNone_some, Bool.toNat_false]
    omega
  · have before : last.isNone = false := awaits.unsent.symm.trans sent
    rw [before, Bool.toNat_false] at room
    have few : tracker.ackRetryCount.toNat < 2 := by omega
    have retries : tracker.ackRetryCount < 2 := few
    rw [if_neg (Bool.eq_false_iff.mp sent), if_pos late, if_pos retries]
    refine ⟨asks, awaits.active, awaits.kept, awaits.ungranted, sent, by simp, ?_⟩
    have counted : (tracker.ackRetryCount + 1).toNat = tracker.ackRetryCount.toNat + 1 := by
      rw [UInt8.toNat_add]
      exact Nat.mod_eq_of_lt (by change tracker.ackRetryCount.toNat + 1 < 256; omega)
    simp only [Option.isNone_some, Bool.toNat_false, counted]
    omega

/-- When the last request has been waited for in vain, the event is given up. -/
theorem exhausted (awaits : tracker.Awaits 0 last)
    (due : isDue (retryLifetimeMs cfg) last tick = true) :
    (renewed cfg tick tracker).1 = none ∧ (renewed cfg tick tracker).2.Inactive := by
  have room := awaits.budget
  rw [awaits.turn]
  rcases awaits.isDue_iff.mp due with first | ⟨late, sent⟩
  · rw [awaits.unsent.symm.trans first, Bool.toNat_true] at room
    omega
  · have retries : ¬tracker.ackRetryCount < 2 := by
      intro few
      have few : tracker.ackRetryCount.toNat < 2 := few
      omega
    rw [if_neg (Bool.eq_false_iff.mp sent), if_pos late, if_neg retries]
    exact ⟨rfl, rfl⟩

end SubTracker.Awaits

/-- A tracker that has been given up asks for nothing. -/
theorem renewed_inactive {tracker : SubTracker} (inactive : tracker.Inactive) (tick : UInt32) :
    renewed cfg tick tracker = (none, tracker) := by
  rw [renewed, if_neg (Bool.eq_false_iff.mp inactive)]

section Runs

variable {w : World cfg} {moves : List (Move cfg)}

theorem requestTicks_inactive
    (tracking : Tracking serviceId eventId clientId SubTracker.Inactive w)
    (undisturbed : UndisturbedRun env serviceId eventId w moves) :
    requestTicks env serviceId eventId w moves = [] := by
  induction moves generalizing w with
  | nil => rfl
  | cons move rest ih =>
      obtain ⟨tracker, known, inactive⟩ := tracking.tracks
      obtain ⟨after, count⟩ := World.step_asks
        ⟨tracking.distinct, ⟨tracker, known, rfl⟩, tracking.clientId⟩ undisturbed.1
      have still : (move.tick.elim (none, tracker) fun nowMs =>
          renewed cfg nowMs tracker) = (none, tracker) := by
        cases move.tick with
        | none => rfl
        | some nowMs => exact renewed_inactive inactive nowMs
      rw [still] at after count
      rw [requestTicks, count,
        ih (after.imp fun _ same => same ▸ inactive) undisturbed.2]
      rfl

/-- The requests of an undisturbed run are the ones that are due, up to the budget. -/
theorem requestTicks_eq {budget : Nat} {last : Option UInt32}
    (tracking : Tracking serviceId eventId clientId (SubTracker.Awaits budget last) w)
    (undisturbed : UndisturbedRun env serviceId eventId w moves) :
    requestTicks env serviceId eventId w moves =
        ((dueTicks (retryLifetimeMs cfg) last (moves.filterMap Move.tick)).take budget).map some ∧
      (((World.run env moves w).rt.sd.findSubTracker serviceId eventId).any SubTracker.active =
          false →
        budget < (dueTicks (retryLifetimeMs cfg) last (moves.filterMap Move.tick)).length) := by
  induction moves generalizing w budget last with
  | nil =>
      obtain ⟨tracker, known, awaits⟩ := tracking.tracks
      refine ⟨by simp [requestTicks, dueTicks], ?_⟩
      intro inactive
      rw [World.run, List.foldl_nil, known, Option.any_some, awaits.active] at inactive
      cases inactive
  | cons move rest ih =>
      obtain ⟨tracker, known, awaits⟩ := tracking.tracks
      obtain ⟨after, count⟩ := World.step_asks
        ⟨tracking.distinct, ⟨tracker, known, rfl⟩, tracking.clientId⟩ undisturbed.1
      have run : World.run env (move :: rest) w = World.run env rest (w.step env move) := rfl
      rw [requestTicks, count, run]
      cases ticks : move.tick with
      | none =>
          rw [ticks] at after
          rw [List.filterMap_cons_none ticks]
          exact ih (after.imp fun _ same => same ▸ awaits) undisturbed.2
      | some tick =>
          rw [ticks, Option.elim_some] at after
          rw [List.filterMap_cons_some ticks, dueTicks, Option.elim_some]
          split
          · next due =>
              cases budget with
              | zero =>
                  obtain ⟨silent, inactive⟩ := awaits.exhausted due
                  rw [silent, requestTicks_inactive
                    (after.imp fun _ same => same ▸ inactive) undisturbed.2]
                  exact ⟨rfl, fun _ => Nat.zero_lt_succ _⟩
              | succ budget =>
                  obtain ⟨asks, left⟩ := awaits.requests (Table.lookup_key known) due
                  obtain ⟨requests, exhausted⟩ :=
                    ih (after.imp fun _ same => same ▸ left) undisturbed.2
                  rw [asks, requests]
                  exact ⟨rfl, fun inactive => Nat.succ_lt_succ (exhausted inactive)⟩
          · next early =>
              rw [awaits.waits early] at after ⊢
              exact ih (after.imp fun _ same => same ▸ awaits) undisturbed.2

end Runs

/-! ## Subscribing again -/

/-- A successful call, with no unsubscribe pending, leaves what earlier calls have left. -/
theorem World.subscribe_awaits {context : Nat} {ttlSeconds : UInt16} {nowMs : UInt32}
    {w : World cfg} (distinct : w.rt.sd.DistinctTrackers)
    (accepted : (w.subscribeEvent serviceId eventId context ttlSeconds nowMs).1 = true)
    (settled : w.rt.sd.unsubscribesDue serviceId eventId = 0) :
    Tracking serviceId eventId w.rt.sd.clientId
      (SubTracker.Awaits (1 + (2 - w.rt.sd.retriesUsed serviceId eventId)) none)
      (w.step env (.api (.subscribeEvent serviceId eventId context ttlSeconds nowMs))) := by
  rcases w.subscribeEvent_outcome serviceId eventId context ttlSeconds nowMs with
    ⟨refused, -⟩ | ⟨-, taken, sd⟩
  · rw [accepted] at refused
    cases refused
  · have looked := findSubTracker_subscribeEvent taken serviceId eventId
    rw [if_pos rfl, ← sd] at looked
    have kept : ((w.rt.sd.findSubTracker serviceId eventId).getD {}).needsUnsubscribe =
        false := by
      rw [unsubscribesDue] at settled
      cases known : w.rt.sd.findSubTracker serviceId eventId with
      | none => rfl
      | some old =>
          rw [known] at settled
          exact Bool.toNat_eq_zero.mp settled
    refine ⟨?_, ⟨_, looked, rfl, kept, rfl, rfl, by simp, rfl⟩, ?_⟩
    · change (w.subscribeEvent serviceId eventId context ttlSeconds nowMs).2.rt.sd.DistinctTrackers
      rw [sd]
      exact distinct.subscribeEvent _ _ _ _
    · change (w.subscribeEvent serviceId eventId context ttlSeconds nowMs).2.rt.sd.clientId = _
      rw [sd, subscribeEvent_clientId]

/-- A subscription gets the full budget exactly if its tracker has not repeated a request
before, or the run ends before what is left of the budget is used up. -/
theorem full_budget_iff {w : World cfg} (reachable : World.Reachable env w) {context : Nat}
    {ttlSeconds : UInt16} {nowMs : UInt32}
    (accepted : (w.subscribeEvent serviceId eventId context ttlSeconds nowMs).1 = true)
    (settled : w.rt.sd.unsubscribesDue serviceId eventId = 0) {moves : List (Move cfg)}
    (undisturbed : UndisturbedRun env serviceId eventId
      (w.step env (.api (.subscribeEvent serviceId eventId context ttlSeconds nowMs))) moves) :
    FullBudget env serviceId eventId moves
        (w.step env (.api (.subscribeEvent serviceId eventId context ttlSeconds nowMs))) ↔
      w.rt.sd.retriesUsed serviceId eventId = 0 ∨
        (dueTicks (retryLifetimeMs cfg) none (moves.filterMap Move.tick)).length ≤
          1 + (2 - w.rt.sd.retriesUsed serviceId eventId) := by
  obtain ⟨requests, exhausted⟩ := requestTicks_eq
    (World.subscribe_awaits reachable.distinctTrackers accepted settled) undisturbed
  generalize due : dueTicks (retryLifetimeMs cfg) none (moves.filterMap Move.tick) = ticks
    at requests exhausted ⊢
  constructor
  · intro full
    have same := full.requests.symm.trans requests
    rw [due] at same
    have lengths := congrArg List.length same
    simp only [List.length_map, List.length_take] at lengths
    omega
  · intro condition
    constructor
    · rw [requests, due]
      rcases condition with fresh | short
      · rw [fresh]
      · rw [List.take_of_length_le short, List.take_of_length_le (by omega)]
    · intro inactive
      have used := exhausted inactive
      rw [requests, List.length_map, List.length_take]
      omega

/-- A consumer that has found the service. -/
def findingWorld : World embeddedConfig :=
  World.run (.benign _) findingMoves (World.initial _ 2)

/-- The provider renews its offer, and the consumer ticks. -/
def offeredTick (nowMs : UInt32) : List (Move embeddedConfig) :=
  [.deliver (Address.filled 8 1) eventlessOffer nowMs, .housekeeping nowMs]

def unansweredTicks : List (Move embeddedConfig) :=
  offeredTick 0 ++ offeredTick 10000 ++ offeredTick 20000 ++ offeredTick 30000

theorem full_budget_first :
    FullBudget (.benign _) 0x1000 0x8001 unansweredTicks
      (findingWorld.step (.benign _) subscribeCall) := by
  have reachable : World.Reachable (.benign _) findingWorld := ⟨2, _, rfl⟩
  exact (full_budget_iff reachable (by decide +kernel) (by decide +kernel)
    (by decide +kernel)).mpr (.inl (by decide +kernel))

/-- The device has asked three times, in vain, and the application subscribes again: one
request is sent where three are due. -/
theorem second_subscription_is_short :
    let w := World.run (.benign _) (subscribeCall :: unansweredTicks) findingWorld
    let moves := offeredTick 30000 ++ offeredTick 40000 ++ offeredTick 50000
    World.Reachable (.benign _) w ∧
      (w.subscribeEvent 0x1000 0x8001 0 10 0).1 = true ∧
      w.rt.sd.unsubscribesDue 0x1000 0x8001 = 0 ∧
      UndisturbedRun (.benign _) 0x1000 0x8001 (w.step (.benign _) subscribeCall) moves ∧
      ¬FullBudget (.benign _) 0x1000 0x8001 moves (w.step (.benign _) subscribeCall) := by
  intro w moves
  refine ⟨⟨2, findingMoves ++ subscribeCall :: unansweredTicks, ?_⟩, by decide +kernel,
    by decide +kernel, by decide +kernel, ?_⟩
  · exact (List.foldl_append).symm
  · intro full
    have requests := full.requests
    revert requests
    decide +kernel

end Sero
