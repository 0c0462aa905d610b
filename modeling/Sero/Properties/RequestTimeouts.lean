import Sero.Core.Clock
import Sero.Properties.RequestDeadlines

/-!
# When requests time out

The deadline of a request is a 32-bit sum, and it is compared with the clock through a signed
difference.  It is seen as past when it is, unless more than half the range of the clock is
left of it.
-/

namespace Sero

open Library

variable {n : Nat} {cfg : Config n} {env : Env cfg}

/-! ## Turns -/

/-- The deadlines that expire in a turn. -/
def Turn.expires : Turn cfg → UInt32 → Prop
  | .process _ nowMs => expiredAt nowMs
  | .call _ => fun _ => False

/-- A cycle up to its passes. -/
def World.afterReceiving (env : Env cfg) (inbox : List (Address n × Bytes)) (nowMs : UInt32)
    (w : World cfg) : World cfg :=
  (inbox.take cfg.maxReceiveQueueSize).foldl
    (fun w datagram => w.validateAndDispatch env datagram.1 datagram.2 nowMs)
    (w.startCycle nowMs)

theorem World.takeTurns_process (inbox : List (Address n × Bytes)) (nowMs : UInt32)
    (w : World cfg) :
    w.takeTurns env [.process inbox nowMs] =
      (w.afterReceiving env inbox nowMs).housekeeping env nowMs := by
  have process := process_run env inbox nowMs w
  rw [takeTurns, List.flatMap_singleton, Turn.moves, ← process]
  rfl

theorem World.takeTurns_append (left right : List (Turn cfg)) (w : World cfg) :
    w.takeTurns env (left ++ right) = (w.takeTurns env left).takeTurns env right := by
  rw [takeTurns, List.flatMap_append, run, List.foldl_append]
  rfl

section Runs

variable (bounded : cfg.maxPendingRequests < UInt32.size)

include bounded

theorem timely_afterReceiving {expires : UInt32 → Prop} (inbox : List (Address n × Bytes))
    (nowMs : UInt32) (w : World cfg) : Timely expires w (w.afterReceiving env inbox nowMs) := by
  have walk := @timely_walk _ _ env expires bounded
  have each : ∀ (w : World cfg) (datagram : Address n × Bytes),
      Timely expires w (w.validateAndDispatch env datagram.1 datagram.2 nowMs) :=
    fun w datagram => walk.validateAndDispatch datagram.1 datagram.2 nowMs w
  exact walk.trans (walk.background (.startCycle nowMs w)) (walk.foldl each _ _)

theorem timely_turn (turn : Turn cfg) (w : World cfg) :
    Timely turn.expires w (w.takeTurns env [turn]) := by
  cases turn with
  | process inbox nowMs =>
      have walk := @timely_walk _ _ env (expiredAt nowMs) bounded
      rw [World.takeTurns_process]
      exact walk.trans (timely_afterReceiving bounded inbox nowMs w)
        (walk.trans (timely_evictRequests bounded nowMs _) (walk.housekeeping nowMs _))
  | call operation => exact timely_perform bounded (fun w => timely_script bounded _ w) operation w

theorem requestsTimed_takeTurns (turns : List (Turn cfg)) {w : World cfg}
    (timed : RequestsTimed w) : RequestsTimed (w.takeTurns env turns) := by
  induction turns generalizing w with
  | nil => exact timed
  | cons turn rest ih =>
      rw [← List.singleton_append, World.takeTurns_append]
      exact ih (timely_turn bounded turn w timed).timed

end Runs

section Reports

variable {expires : UInt32 → Prop} {before after : World cfg} {handle : Nat}
  {timeoutMs nowMs : UInt32} {rc : ReturnCode} {payload : Bytes}

theorem Passes.since_append (passes : Passes expires before after) :
    after.since before ++ before.history = after.history :=
  World.since_append passes.grown

/-- The report of a request tells that its deadline expires. -/
theorem Passes.expired (passes : Passes expires before after)
    (submitted : Submitted after.history handle timeoutMs nowMs)
    (reported : .callback (.request handle .timeout rc payload) ∈ after.since before) :
    rc = .eTimeout ∧ payload = [] ∧ expires (nowMs + effectiveTimeout cfg timeoutMs) := by
  obtain ⟨events, history, -, due⟩ := passes.events
  rw [World.since_eq history] at reported
  obtain ⟨isTimeout, empty, otherMs, laterMs, other, expiry⟩ := due _ _ _ reported
  obtain ⟨rfl, rfl⟩ := passes.timed.once _ _ _ _ _ submitted other
  exact ⟨isTimeout, empty, expiry⟩

/-- A request has not been reported as timed out. -/
def Unreported (handle : Nat) (w : World cfg) : Prop :=
  ∀ rc payload, .callback (.request handle .timeout rc payload) ∉ w.history

theorem Passes.unreported (passes : Passes expires before after)
    (submitted : Submitted after.history handle timeoutMs nowMs)
    (running : ¬expires (nowMs + effectiveTimeout cfg timeoutMs))
    (unreported : Unreported handle before) : Unreported handle after := by
  intro rc payload reported
  rw [← passes.since_append, List.mem_append] at reported
  rcases reported with new | old
  · exact running (passes.expired submitted new).2.2
  · exact unreported _ _ old

/-- Before its id is returned nothing is reported of a request. -/
theorem Passes.unreported_before (passes : Passes expires before after)
    (timed : RequestsTimed before)
    (submitted : Submitted (after.since before) handle timeoutMs nowMs) :
    Unreported handle before := by
  intro rc payload reported
  obtain ⟨events, history, fresh, -⟩ := passes.events
  rw [World.since_eq history] at submitted
  obtain ⟨otherMs, laterMs, earlier⟩ := timed.reported _ _ _ reported
  exact Nat.not_lt.mpr (fresh _ _ _ submitted) (timed.fresh _ _ _ earlier)

variable (bounded : cfg.maxPendingRequests < UInt32.size)

include bounded

theorem unreported_takeTurns (turns : List (Turn cfg)) {w : World cfg} (timed : RequestsTimed w)
    (submitted : Submitted w.history handle timeoutMs nowMs)
    (running : ∀ turn ∈ turns, ¬turn.expires (nowMs + effectiveTimeout cfg timeoutMs))
    (unreported : Unreported handle w) : Unreported handle (w.takeTurns env turns) := by
  induction turns generalizing w with
  | nil => exact unreported
  | cons turn rest ih =>
      have passes := @timely_turn _ _ env bounded turn w timed
      have still := submitted.mono passes.grown.subset
      rw [← List.singleton_append, World.takeTurns_append]
      exact ih passes.timed still (fun other member => running other (.tail _ member))
        (passes.unreported still (running turn (.head _)) unreported)

/-- A cycle that sees the deadline of a request as past reports it, if nothing has been
reported of it and no reply has come. -/
theorem reported_in_cycle {inbox : List (Address n × Bytes)} {cycleMs : UInt32} {w : World cfg}
    (timed : RequestsTimed w) (submitted : Submitted w.history handle timeoutMs nowMs)
    (unreported : Unreported handle w)
    (expiry : expiredAt cycleMs (nowMs + effectiveTimeout cfg timeoutMs))
    (noReply : ∀ rc payload, .callback (.request handle .reply rc payload) ∉
      (w.takeTurns env [.process inbox cycleMs]).history) :
    .callback (.request handle .timeout .eTimeout []) ∈
      (w.takeTurns env [.process inbox cycleMs]).since w := by
  have whole := @timely_turn _ _ env bounded (.process inbox cycleMs) w timed
  have received : Passes (fun _ => False) w (w.afterReceiving env inbox cycleMs) :=
    timely_afterReceiving bounded inbox cycleMs w timed
  rw [World.takeTurns_process] at whole noReply ⊢
  have still := submitted.mono received.grown.subset
  have rest := (@walk_steps _ _ env).housekeeping cycleMs (w.afterReceiving env inbox cycleMs)
  have pass := (@World.evictRequests_steps _ _ env cycleMs
    (w.afterReceiving env inbox cycleMs)).steps
  have called : Called ((w.afterReceiving env inbox cycleMs).housekeeping env cycleMs).history
      handle := by
    rcases received.timed.owed _ _ _ still with ⟨slot, awaits⟩ | called
    · obtain ⟨otherMs, laterMs, other, deadline⟩ := received.timed.awaits slot handle awaits
      obtain ⟨rfl, rfl⟩ := received.timed.once _ _ _ _ _ still other
      exact (evictRequests_called awaits (deadline ▸ expiry)).mono (Steps.suffix rest).subset
    · exact called.mono (Steps.suffix (pass.trans rest)).subset
  have known := submitted.mono whole.grown.subset
  obtain ⟨cause, rc, payload, entered⟩ := called
  cases cause with
  | reply => exact absurd entered (noReply rc payload)
  | sendFailed => exact absurd known ((whole.timed.refused _ _ _ entered).2 _ _)
  | timeout =>
      rw [← whole.since_append, List.mem_append] at entered
      rcases entered with new | old
      · obtain ⟨rfl, rfl, -⟩ := whole.expired known new
        exact new
      · exact absurd old (unreported rc payload)

end Reports

/-! ## True time -/

/-- A moment that is not behind, and at most half the range of the clock ahead, is not seen as
past. -/
theorem not_timeAfter_clock (offset : Nat) {now target : Nat} (early : now ≤ target)
    (near : target ≤ now + 0x80000000) :
    timeAfter (clock offset now) (clock offset target) = false := by
  rw [← Bool.not_eq_true, timeAfter_iff, UInt32.toNat_sub, toNat_clock, toNat_clock]
  simp only [UInt32.size]
  omega

/-- More than half the range of the clock ahead, a moment is seen as past. -/
theorem timeAfter_clock_far (offset : Nat) {now target : Nat} (far : now + 0x80000000 < target)
    (bounded : target < now + UInt32.size) :
    timeAfter (clock offset now) (clock offset target) = true := by
  rw [timeAfter_iff, UInt32.toNat_sub, toNat_clock, toNat_clock]
  simp only [UInt32.size] at bounded ⊢
  omega

/-- A turn, and the true time at which the device takes it. -/
inductive TimedTurn (cfg : Config n) where
  | process (inbox : List (Address n × Bytes)) (timeMs : Nat)
  | call (call : ApiCall cfg) (timeMs : Nat)

namespace TimedTurn

def timeMs : TimedTurn cfg → Nat
  | process _ timeMs => timeMs
  | call _ timeMs => timeMs

/-- Cycles are told what the clock shows. -/
def turn (offset : Nat) : TimedTurn cfg → Turn cfg
  | process inbox timeMs => .process inbox (clock offset timeMs)
  | call operation _ => .call operation

/-- When a cycle is made. -/
def cycleTime : TimedTurn cfg → Option Nat
  | process _ timeMs => some timeMs
  | call .. => none

variable {offset deadline : Nat}

theorem timeMs_of_cycle {turn : TimedTurn cfg} {timeMs : Nat} (cycle : timeMs ∈ turn.cycleTime) :
    timeMs = turn.timeMs := by
  cases turn with
  | process => exact (Option.some.inj cycle).symm
  | call => cases cycle

/-- Up to a deadline, and not too long before it, no turn sees it as past. -/
theorem not_expires {turn : TimedTurn cfg}
    (early : ∀ timeMs ∈ turn.cycleTime, timeMs ≤ deadline)
    (near : ∀ timeMs ∈ turn.cycleTime, deadline ≤ timeMs + 0x80000000) :
    ¬(turn.turn offset).expires (clock offset deadline) := by
  cases turn with
  | process inbox timeMs =>
      have running := not_timeAfter_clock offset (early timeMs rfl) (near timeMs rfl)
      exact Bool.eq_false_iff.mp running
  | call operation timeMs => exact id

end TimedTurn

/-- If the others are not, a last moment is not far behind a deadline. -/
theorem gap_last {start deadline last : Nat} {times : List Nat} (fromStart : start ≤ deadline)
    (early : ∀ timeMs ∈ times, timeMs ≤ deadline)
    (gaps : (start :: (times ++ [last])).IsChain
      fun earlier later => later < earlier + 0x80000000) :
    last < deadline + 0x80000000 := by
  rw [← List.cons_append, List.isChain_append] at gaps
  obtain ⟨before, found⟩ := Option.ne_none_iff_exists'.mp
    (mt List.getLast?_eq_none_iff.mp (List.cons_ne_nil start times))
  have gap := gaps.2.2 before found last rfl
  have reached : before ≤ deadline := by
    rcases List.mem_cons.mp (List.mem_of_getLast? found) with rfl | member
    · exact fromStart
    · exact early before member
  omega

/-- The report that a request has timed out, in a turn. -/
def ReportsTimeout (handle : Nat) (before after : World cfg) : Prop :=
  ∃ rc payload, .callback (.request handle .timeout rc payload) ∈ after.since before

/-- A reply has come to a request. -/
def Replied (handle : Nat) (w : World cfg) : Prop :=
  ∃ rc payload, .callback (.request handle .reply rc payload) ∈ w.history

/-- Is it the callback of this request, for this cause? -/
def Event.calls (handle : Nat) (cause : Cause) : Event cfg → Bool
  | .callback (.request other why _ _) => other == handle && why == cause
  | _ => false

theorem any_calls_iff {handle : Nat} {cause : Cause} {history : History cfg} :
    history.any (Event.calls handle cause) = true ↔
      ∃ rc payload, .callback (.request handle cause rc payload) ∈ history := by
  rw [List.any_eq_true]
  constructor
  · rintro ⟨event, member, calls⟩
    cases event with
    | callback callback =>
        cases callback with
        | request other why rc payload =>
            simp only [Event.calls, Bool.and_eq_true, beq_iff_eq] at calls
            obtain ⟨rfl, rfl⟩ := calls
            exact ⟨rc, payload, member⟩
        | _ => cases calls
    | _ => cases calls
  · rintro ⟨rc, payload, member⟩
    exact ⟨_, member, by simp [Event.calls]⟩

instance (handle : Nat) (before after : World cfg) :
    Decidable (ReportsTimeout handle before after) :=
  decidable_of_iff _ any_calls_iff

instance (handle : Nat) (w : World cfg) : Decidable (Replied handle w) :=
  decidable_of_iff _ any_calls_iff

/-- As long as no cycle is made while more than half the range of the clock is left of its
timeout, a request is reported only by a cycle after its deadline, and by the first one if
cycles keep coming and no reply does.  The first cycle made while more is left reports it. -/
theorem times_out_when_due (env : Env cfg) (bounded : cfg.maxPendingRequests < UInt32.size)
    (clientId : UInt16) (offset : Nat) (earlier : List (Turn cfg)) (issuing last : TimedTurn cfg)
    (between : List (TimedTurn cfg)) {handle : Nat} {timeoutMs : UInt32} :
    let due := issuing.timeMs + (effectiveTimeout cfg timeoutMs).toNat
    let start := (World.initial cfg clientId).takeTurns env earlier
    let issued := start.takeTurns env [issuing.turn offset]
    let before := issued.takeTurns env (between.map (TimedTurn.turn offset))
    let after := before.takeTurns env [last.turn offset]
    Submitted (issued.since start) handle timeoutMs (clock offset issuing.timeMs) →
    (∀ timeMs ∈ (issuing :: between).filterMap TimedTurn.cycleTime,
      due ≤ timeMs + 0x80000000) →
    ¬ReportsTimeout handle start issued ∧
    ((∀ timeMs ∈ last.cycleTime, due ≤ timeMs + 0x80000000) →
      ReportsTimeout handle before after → ∃ timeMs ∈ last.cycleTime, due < timeMs) ∧
    ((∀ timeMs ∈ between.filterMap TimedTurn.cycleTime, timeMs ≤ due) → ¬Replied handle after →
      ∀ timeMs ∈ last.cycleTime,
        due < timeMs ∧ (issuing.timeMs ::
          (between.filterMap TimedTurn.cycleTime ++ [timeMs])).IsChain
            (fun earlier later => later < earlier + 0x80000000) ∨
        issuing.timeMs ≤ timeMs ∧ timeMs + 0x80000000 < due →
      .callback (.request handle .timeout .eTimeout []) ∈ after.since before) := by
  intro due start issued before after submitted inRange
  have deadline : clock offset issuing.timeMs + effectiveTimeout cfg timeoutMs =
      clock offset due := clock_add offset issuing.timeMs (effectiveTimeout cfg timeoutMs)
  have timed : RequestsTimed start :=
    requestsTimed_takeTurns bounded earlier (requestsTimed_initial clientId)
  have issues := @timely_turn _ _ env bounded (issuing.turn offset) start timed
  have known : Submitted issued.history handle timeoutMs (clock offset issuing.timeMs) := by
    have grown := issues.since_append
    exact submitted.mono (grown ▸ List.subset_append_left _ _)
  have quiet : ¬(issuing.turn offset).expires
      (clock offset issuing.timeMs + effectiveTimeout cfg timeoutMs) := by
    rw [deadline]
    apply TimedTurn.not_expires
    · intro timeMs cycle
      rw [TimedTurn.timeMs_of_cycle cycle]
      exact Nat.le_add_right _ _
    · exact fun timeMs cycle => inRange timeMs (List.mem_filterMap.mpr ⟨issuing, .head _, cycle⟩)
  have timedBefore := @requestsTimed_takeTurns _ _ env bounded
    (between.map (TimedTurn.turn offset)) _ issues.timed
  have grown : issued.history ⊆ before.history :=
    (Steps.suffix (World.run_steps _ issued)).subset
  have passes := @timely_turn _ _ env bounded (last.turn offset) before timedBefore
  have knownAfter := (known.mono grown).mono passes.grown.subset
  refine ⟨?_, ?_, ?_⟩
  · rintro ⟨rc, payload, reported⟩
    exact quiet (issues.expired known reported).2.2
  · rintro near ⟨rc, payload, reported⟩
    have expires := (passes.expired knownAfter reported).2.2
    rw [deadline] at expires
    by_contra notPast
    have early : ∀ timeMs ∈ last.cycleTime, timeMs ≤ due :=
      fun timeMs cycle => Nat.not_lt.mp fun past => notPast ⟨timeMs, cycle, past⟩
    exact TimedTurn.not_expires early near expires
  · intro early unanswered timeMs cycle late
    have unreported : Unreported handle before := by
      refine unreported_takeTurns bounded _ issues.timed known ?_
        (issues.unreported known quiet (issues.unreported_before timed submitted))
      intro turn member
      obtain ⟨timedTurn, between, rfl⟩ := List.mem_map.mp member
      rw [deadline]
      apply TimedTurn.not_expires
      · exact fun timeMs cycle => early timeMs (List.mem_filterMap.mpr ⟨_, between, cycle⟩)
      · exact fun timeMs cycle => inRange timeMs
          (List.mem_filterMap.mpr ⟨_, .tail _ between, cycle⟩)
    obtain ⟨inbox, isCycle⟩ : ∃ inbox, last = .process inbox timeMs := by
      cases last with
      | process inbox other => exact ⟨inbox, congrArg _ (Option.some.inj cycle)⟩
      | call => cases cycle
    have expiry : expiredAt (clock offset timeMs)
        (clock offset issuing.timeMs + effectiveTimeout cfg timeoutMs) := by
      rw [deadline]
      rcases late with ⟨past, gaps⟩ | ⟨later, far⟩
      · have notFar := gap_last (Nat.le_add_right _ _) early gaps
        exact (timeAfter_clock offset notFar (by omega)).mpr past
      · have small := (effectiveTimeout cfg timeoutMs).toNat_lt
        exact timeAfter_clock_far offset far (by simp only [due, UInt32.size] at *; omega)
    subst isCycle
    exact reported_in_cycle bounded timedBefore (known.mono grown) unreported expiry
      (fun rc payload replied => unanswered ⟨rc, payload, replied⟩)

/-! A device that sends a request at time zero, shortly before its clock wraps. -/

def timedRequest (timeoutMs nowMs : UInt32) : ApiCall embeddedConfig :=
  .request (some (Address.filled 8 2)) 0x1000 1 (.bytes []) true timeoutMs nowMs

theorem times_out_when_due_wrapping :
    let issued := (World.initial embeddedConfig 1).takeTurns (.benign _)
      [.call (timedRequest 100 0xFFFFFFF0)]
    let before := issued.takeTurns (.benign _) [.process [] 34]
    let after := before.takeTurns (.benign _) [.process [] 85]
    .callback (.request 0 .timeout .eTimeout []) ∈ after.since before := by
  have due := @times_out_when_due _ _ (.benign embeddedConfig) (by decide) 1 0xFFFFFFF0 []
    (.call (timedRequest 100 0xFFFFFFF0) 0) (.process [] 101) [.process [] 50] 0 100
    ⟨_, _, _, _, 1, List.Mem.head _⟩ (by decide)
  exact due.2.2 (by decide) (by decide +kernel) 101 rfl (.inl ⟨by decide, by decide⟩)

/-- A request that may take 25 days is reported as timed out in the moment it is sent. -/
theorem long_timeout_reported_at_once :
    let start := World.initial embeddedConfig 1
    let issued := start.takeTurns (.benign _)
      [(TimedTurn.call (timedRequest 0x80000001 0) 0).turn 0]
    let after := issued.takeTurns (.benign _) [(TimedTurn.process [] 0).turn 0]
    Submitted (issued.since start) 0 0x80000001 (clock 0 0) ∧ ReportsTimeout 0 issued after ∧
      ¬0 + (effectiveTimeout embeddedConfig 0x80000001).toNat < 0 :=
  ⟨⟨_, _, _, _, 1, List.Mem.head _⟩, by decide +kernel, Nat.not_lt_zero _⟩

end Sero
