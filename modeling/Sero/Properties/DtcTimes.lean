import Sero.Properties.AdvertisedServices
import Sero.Properties.DiagnosticsReplies
import Sero.Properties.DtcReports
import Sero.Runtime.DiscoverySteps

/-!
# Times of trouble codes

The specification has a trouble code stamped with the uptime.  `report_dtc` stamps it with the
clock, whereas the uptime is counted from the clock of the first cycle, so the two agree only
on a device whose clock was zero then.
-/

namespace Sero

open Library DiagnosticsService DiagScanner

variable {n : Nat} {cfg : Config n} {env : Env cfg}

/-- The uptime and the epoch it is counted from are as before. -/
structure SameUptime (before after : World cfg) : Prop where
  started : after.rt.uptimeStarted = before.rt.uptimeStarted
  epochMs : after.rt.uptimeEpochMs = before.rt.uptimeEpochMs
  uptimeMs : after.rt.uptimeMs = before.rt.uptimeMs

/-- So are the trouble codes. -/
structure SameDiagnostics (before after : World cfg) : Prop extends SameUptime before after where
  dtcStore : after.rt.dtcStore = before.rt.dtcStore

/-- The calls that write trouble codes. -/
def ApiCall.writesDtcs : ApiCall cfg → Bool
  | .reportDtc .. | .clearDtc .. | .clearAllDtcs => true
  | _ => false

theorem SameDiagnostics.of_rt {before after : World cfg} (same : after.rt = before.rt) :
    SameDiagnostics before after :=
  ⟨⟨by rw [same], by rw [same], by rw [same]⟩, by rw [same]⟩

theorem SameDiagnostics.trans {first second third : World cfg}
    (left : SameDiagnostics first second) (right : SameDiagnostics second third) :
    SameDiagnostics first third :=
  ⟨⟨right.started.trans left.started, right.epochMs.trans left.epochMs,
    right.uptimeMs.trans left.uptimeMs⟩, right.dtcStore.trans left.dtcStore⟩

namespace World

theorem increment_diagnostics (counter : DiagnosticCounter) (header : Option Bytes)
    (w : World cfg) : SameDiagnostics w (w.increment counter header) := by
  have written := increment_rt counter header w
  exact ⟨⟨by rw [written], by rw [written], by rw [written]⟩, by rw [written]⟩

theorem countRefusal_diagnostics (ok : Bool) (w : World cfg) :
    SameDiagnostics w (w.countRefusal ok) := by
  cases ok with
  | true => exact .of_rt rfl
  | false => exact increment_diagnostics _ _ _

/-- Sending a discovery frame, up to counting a refusal. -/
theorem sentSd_diagnostics (event : Event cfg) (w : World cfg) (eventManager : EventManager cfg)
    (txBuffer : Buffer (maxMsgSize cfg)) (sdSeq : UInt8) :
    SameDiagnostics w (World.emit event
      { w with rt := { w.rt with eventManager, txBuffer, sdSeq } }) :=
  ⟨⟨rfl, rfl, rfl⟩, rfl⟩

theorem sendSdBroadcast_diagnostics (message : SdMessage n) (w : World cfg) :
    SameDiagnostics w (w.sendSdBroadcast env message) := by
  rw [sendSdBroadcast]
  split
  · exact .of_rt rfl
  · exact (sentSd_diagnostics _ w w.rt.eventManager _ _).trans (countRefusal_diagnostics _ _)

theorem sendSdUnicast_diagnostics (dest : Address n) (message : SdMessage n) (w : World cfg) :
    SameDiagnostics w (w.sendSdUnicast env dest message) := by
  rw [sendSdUnicast]
  split
  · exact .of_rt rfl
  · exact (sentSd_diagnostics _ w w.rt.eventManager _ _).trans (countRefusal_diagnostics _ _)

theorem handleSubscribeRequest_diagnostics (source : Address n) (hdr : MessageHeader)
    (request : SdPayload.Subscribe) (nowMs : UInt32) (w : World cfg) :
    SameDiagnostics w (w.handleSubscribeRequest env source hdr request nowMs) :=
  (sentSd_diagnostics _ w _ _ _).trans (countRefusal_diagnostics _ _)

theorem apiCall_diagnostics (body : World cfg → World cfg) {call : ApiCall cfg}
    (isLocal : call.isLocal = true) (other : call.writesDtcs = false) (w : World cfg) :
    SameDiagnostics w (w.apiCall env body call).2 := by
  cases call with
  | request | fireAndForget | notifyEvent => cases isLocal
  | reportDtc | clearDtc | clearAllDtcs => cases other
  | offerService serviceId ttlSeconds nowMs =>
      obtain ⟨sd, written, -⟩ := w.offerService_rt serviceId ttlSeconds nowMs
      change SameDiagnostics w (w.offerService serviceId ttlSeconds nowMs).2
      rw [written]
      exact ⟨⟨rfl, rfl, rfl⟩, rfl⟩
  | enableDiagnostics nowMs authRequired =>
      obtain ⟨_, _, _, _, written, -⟩ := w.enableDiagnostics_rt nowMs authRequired
      change SameDiagnostics w (w.enableDiagnostics nowMs authRequired).2
      rw [written]
      exact ⟨⟨rfl, rfl, rfl⟩, rfl⟩
  | subscribeEvent serviceId eventId context ttlSeconds nowMs =>
      simp only [apiCall, subscribeEvent, registerEventHandler]
      cases Table.upsert (handlesEvent serviceId eventId)
          (fun _ => { serviceId, eventId, context }) { serviceId, eventId, context }
          (cfg.maxKnownServices * cfg.maxEvents) w.rt.eventHandlers <;>
        exact ⟨⟨rfl, rfl, rfl⟩, rfl⟩
  | _ => exact ⟨⟨rfl, rfl, rfl⟩, rfl⟩

/-- No local call writes the uptime. -/
theorem apiCall_uptime (body : World cfg → World cfg) {call : ApiCall cfg}
    (isLocal : call.isLocal = true) (w : World cfg) :
    SameUptime w (w.apiCall env body call).2 := by
  cases writes : call.writesDtcs with
  | false => exact (apiCall_diagnostics body isLocal writes w).toSameUptime
  | true =>
      cases call with
      | reportDtc code severity nowMs =>
          change SameUptime w (w.reportDtc code severity nowMs).2
          rw [reportDtc]
          split
          · exact ⟨rfl, rfl, rfl⟩
          · have counted := @countRefusal_diagnostics _ cfg
            obtain ⟨⟨started, epochMs, uptimeMs⟩, -⟩ := counted
              (w.rt.dtcStore.report code severity nowMs).1 { w with rt := { w.rt with
                dtcStore := (w.rt.dtcStore.report code severity nowMs).2 } }
            exact ⟨started, epochMs, uptimeMs⟩
      | clearDtc | clearAllDtcs => exact ⟨rfl, rfl, rfl⟩
      | _ => cases writes

end World

section Frames

variable {before after : World cfg} {kind : StepKind}

/-- A step that is neither a call nor of the background writes neither. -/
theorem Atomic.diagnostics (step : Atomic env kind before after) (notCall : kind ≠ .perform)
    (notBackground : kind ≠ .background) : SameDiagnostics before after := by
  cases step with
  | background | perform => contradiction
  | validate source data =>
      obtain ⟨diag, rt, -⟩ := World.validate_rt source data before
      exact ⟨⟨by rw [rt], by rw [rt], by rw [rt]⟩, by rw [rt]⟩
  | @reply source data hdr _ accepted checked notSd isRequest rc responseLength fits =>
      obtain ⟨last, ok, equal, rt, -⟩ := World.sendReply_spec env source hdr
        (payloadOf hdr data) rc responseLength before
      rw [equal]
      exact .trans ⟨⟨by rw [rt], by rw [rt], by rw [rt]⟩, by rw [rt]⟩
        (World.countRefusal_diagnostics ok last)
  | @finish slot =>
      rw [RequestTracker.finish]
      cases ((World.trackerLens.get before).entries slot).callback <;>
        exact ⟨⟨rfl, rfl, rfl⟩, rfl⟩
  | submit =>
      rw [World.submit]
      split <;> exact ⟨⟨rfl, rfl, rfl⟩, rfl⟩
  | _ => exact ⟨⟨rfl, rfl, rfl⟩, rfl⟩

/-- In the background, a cycle starts the uptime and the built-in service clears codes. -/
theorem Background.diagnostics (step : Background env before after) :
    SameDiagnostics before after ∨
      (∃ nowMs, after = before.startCycle nowMs) ∨
      (∃ dtcStore, DtcWrite before.rt.dtcStore dtcStore ∧
        after = { before with rt := { before.rt with dtcStore } }) := by
  cases step with
  | increment counter header => exact .inl (World.increment_diagnostics counter header before)
  | storeDtcs write => exact .inr (.inr ⟨_, write, rfl⟩)
  | sdBroadcast message => exact .inl (World.sendSdBroadcast_diagnostics message before)
  | sdUnicast dest message => exact .inl (World.sendSdUnicast_diagnostics dest message before)
  | subscribeRequest source hdr request nowMs =>
      exact .inl (World.handleSubscribeRequest_diagnostics source hdr request nowMs before)
  | startCycle nowMs => exact .inr (.inl ⟨nowMs, rfl⟩)
  | fillResponse | unsubscribeRequest | evictSubscribers =>
      exact .inl ⟨⟨rfl, rfl, rfl⟩, rfl⟩

theorem Atomic.sameUptime (step : Atomic env kind before after)
    (notBackground : kind ≠ .background) : SameUptime before after := by
  by_cases calls : kind = .perform
  · subst calls
    cases step with
    | perform isLocal =>
        have same := @World.apiCall_uptime _ _ env id _ isLocal before
        exact ⟨same.started, same.epochMs, same.uptimeMs⟩
  · exact (step.diagnostics calls notBackground).toSameUptime

/-- No step but the start of a cycle writes the uptime. -/
theorem Atomic.uptime (step : Atomic env kind before after) :
    SameUptime before after ∨ ∃ nowMs, after = before.startCycle nowMs := by
  by_cases background : kind = .background
  · subst background
    cases step with
    | background step =>
        rcases step.diagnostics with same | started | ⟨dtcStore, -, rfl⟩
        · exact .inl same.toSameUptime
        · exact .inr started
        · exact .inl ⟨rfl, rfl, rfl⟩
  · exact .inl (step.sameUptime background)

theorem CallStep.uptime (step : CallStep env before after) : SameUptime before after := by
  cases step with
  | count counter header =>
      exact (World.increment_diagnostics counter header before).toSameUptime
  | own isCall step =>
      apply step.sameUptime
      rintro rfl
      cases isCall

theorem PlainStep.uptime (step : PlainStep env before after) : SameUptime before after := by
  cases step with
  | count counter header =>
      exact (World.increment_diagnostics counter header before).toSameUptime
  | storeDtcs | fillResponse => exact ⟨rfl, rfl, rfl⟩
  | own isPlain step =>
      apply step.sameUptime
      rintro rfl
      cases isPlain

theorem DiscoveryStep.uptime {nowMs : UInt32} {asked : Option (SdRequest n)}
    (step : DiscoveryStep env nowMs asked before after) :
    SameUptime before after ∨ after = before.startCycle nowMs := by
  cases step with
  | plain step => exact .inl step.uptime
  | startCycle => exact .inr rfl
  | sendFind serviceId =>
      exact .inl (World.sendSdBroadcast_diagnostics (.find serviceId) before).toSameUptime
  | @answerFind source serviceId message =>
      exact .inl (World.sendSdUnicast_diagnostics source message before).toSameUptime
  | @subscribeRequest source hdr request =>
      exact .inl
        (World.handleSubscribeRequest_diagnostics source hdr request nowMs before).toSameUptime
  | _ => exact .inl ⟨rfl, rfl, rfl⟩

end Frames

/-! ## The uptime -/

namespace World

/-- The clock value that the uptime is counted from. -/
def epochMs (w : World cfg) : Option UInt32 :=
  if w.rt.uptimeStarted then some w.rt.uptimeEpochMs else none

/-- The world in which a datagram is handled, in a cycle that has received others. -/
def handling (env : Env cfg) (nowMs : UInt32) (received : List (Address n × Bytes))
    (next : Address n × Bytes) (w : World cfg) : World cfg :=
  ((run env (received.map fun datagram => .deliver datagram.1 datagram.2 nowMs)
    (w.startCycle nowMs)).validate next.1 next.2).2

theorem epochMs_congr {before after : World cfg} (same : SameUptime before after) :
    after.epochMs = before.epochMs := by
  rw [epochMs, epochMs, same.started, same.epochMs]

theorem startCycle_epochMs (nowMs : UInt32) (w : World cfg) :
    (w.startCycle nowMs).epochMs = some (w.epochMs.getD nowMs) := by
  rw [epochMs, epochMs, startCycle, if_pos rfl]
  cases started : w.rt.uptimeStarted <;> simp

/-- Once there is an epoch it stays. -/
theorem steps_epochMs {before after : World cfg} (steps : Steps env before after)
    {epoch : UInt32} (started : before.epochMs = some epoch) : after.epochMs = some epoch := by
  induction steps with
  | refl => exact started
  | tail _ step ih =>
      obtain ⟨kind, step⟩ := step
      rcases step.uptime with same | ⟨nowMs, rfl⟩
      · rw [epochMs_congr same, ih]
      · rw [startCycle_epochMs, ih, Option.getD_some]

theorem perform_epochMs (call : ApiCall cfg) (w : World cfg) :
    (w.perform env (react env) call).epochMs = w.epochMs := by
  have kept : ∀ after, CallSteps env w after → after.epochMs = w.epochMs := by
    intro after steps
    induction steps with
    | refl => rfl
    | tail _ step ih => rw [epochMs_congr step.uptime, ih]
  exact kept _ (perform_steps react_steps call w)

/-- The epoch is the clock value of the first cycle. -/
theorem takeTurns_epochMs (turns : List (Turn cfg)) (w : World cfg) :
    (w.takeTurns env turns).epochMs = w.epochMs.or (turns.filterMap Turn.cycleMs).head? := by
  induction turns generalizing w with
  | nil => simp [takeTurns, run]
  | cons turn turns ih =>
      have split : w.takeTurns env (turn :: turns) =
          (run env turn.moves w).takeTurns env turns := by
        rw [takeTurns, List.flatMap_cons, run, List.foldl_append]
        rfl
      rw [split, ih]
      cases turn with
      | call operation =>
          have kept : (run env (Turn.call operation).moves w).epochMs = w.epochMs :=
            @perform_epochMs _ _ env operation w
          rw [kept]
          rfl
      | process inbox nowMs =>
          have started := startCycle_epochMs nowMs w
          have kept : (run env (Turn.process inbox nowMs).moves w).epochMs =
              some (w.epochMs.getD nowMs) :=
            steps_epochMs (@run_steps _ _ env _ (w.startCycle nowMs)) started
          rw [kept]
          cases w.epochMs <;> rfl

/-- In a cycle the uptime is counted from the epoch. -/
structure CountsFrom (epoch nowMs : UInt32) (w : World cfg) : Prop where
  epochMs : w.epochMs = some epoch
  uptimeMs : w.rt.uptimeMs = nowMs - epoch

namespace CountsFrom

variable {epoch nowMs : UInt32} {before after : World cfg}

theorem of_same (counts : CountsFrom epoch nowMs before) (same : SameUptime before after) :
    CountsFrom epoch nowMs after :=
  ⟨(epochMs_congr same).trans counts.epochMs, same.uptimeMs.trans counts.uptimeMs⟩

theorem startCycle {w : World cfg} (started : (w.startCycle nowMs).epochMs = some epoch) :
    CountsFrom epoch nowMs (w.startCycle nowMs) := by
  have same : (w.startCycle nowMs).rt.uptimeEpochMs = epoch := Option.some.inj started
  exact ⟨started, congrArg (nowMs - ·) same⟩

theorem discoverySteps {asked : Option (SdRequest n)} (counts : CountsFrom epoch nowMs before)
    (steps : DiscoverySteps env nowMs asked before after) : CountsFrom epoch nowMs after := by
  induction steps with
  | refl => exact counts
  | tail _ step ih =>
      rcases step.uptime with same | rfl
      · exact ih.of_same same
      · apply startCycle
        rw [startCycle_epochMs, ih.epochMs, Option.getD_some]

end CountsFrom

theorem handling_countsFrom (nowMs : UInt32) (received : List (Address n × Bytes))
    (next : Address n × Bytes) (w : World cfg) :
    CountsFrom (w.epochMs.getD nowMs) nowMs (w.handling env nowMs received next) := by
  have delivered : ∀ start : World cfg, CountsFrom (w.epochMs.getD nowMs) nowMs start →
      CountsFrom (w.epochMs.getD nowMs) nowMs (run env
        (received.map fun datagram => .deliver datagram.1 datagram.2 nowMs) start) := by
    induction received with
    | nil =>
        intro start counts
        exact counts
    | cons datagram received ih =>
        intro start counts
        exact ih _ (counts.discoverySteps (receive_discoverySteps datagram.1 datagram.2 start))
  have validated : ∀ start : World cfg, SameUptime start (start.validate next.1 next.2).2 := by
    intro start
    have step : Atomic env .validate start (start.validate next.1 next.2).2 :=
      .validate next.1 next.2 start
    exact step.sameUptime (by simp)
  exact (delivered _ (.startCycle (startCycle_epochMs nowMs w))).of_same (validated _)

end World

namespace DtcStore

variable {store : DtcStore cfg}

theorem Keyed.write (keyed : store.Keyed) {after : DtcStore cfg}
    (write : DtcWrite store after) : after.Keyed := by
  cases write with
  | keep => exact keyed
  | clear code => exact keyed.clear code
  | clearAll => exact ⟨fun _ member => absurd member List.not_mem_nil, List.nodup_nil⟩

theorem mem_of_write {after : DtcStore cfg} (write : DtcWrite store after) {dtc : Dtc}
    (member : dtc ∈ after.dtcs) : dtc ∈ store.dtcs := by
  cases write with
  | keep => exact member
  | clear code => exact mem_clear member
  | clearAll => cases member

end DtcStore

/-! ## What has been reported -/

/-- The clock value of a report that has succeeded. -/
def Event.reportMs : Event cfg → Option UInt32
  | .returned (.reportDtc _ _ nowMs) (.bool true) => some nowMs
  | _ => none

/-- When a code was last reported. -/
def lastReport (code : UInt16) : History cfg → Option UInt32
  | [] => none
  | .returned (.reportDtc reported _ nowMs) (.bool true) :: past =>
      if reported = code then some nowMs else lastReport code past
  | _ :: past => lastReport code past

/-- The clock does not go back from one report to the next. -/
def SteadyReports (history : History cfg) : Prop :=
  (history.filterMap Event.reportMs).Pairwise fun later earlier => earlier ≤ later

instance (history : History cfg) : Decidable (SteadyReports history) :=
  inferInstanceAs (Decidable (List.Pairwise _ _))

theorem reportMs_eq_none {event : Event cfg} (notCall : event.kind ≠ .perform) :
    event.reportMs = none := by
  cases event with
  | returned call result =>
      cases call with
      | reportDtc => exact absurd rfl notCall
      | _ => rfl
  | _ => rfl

section Unreported

variable {events past : History cfg}

/-- What is no report changes nothing about reports. -/
theorem lastReport_append (code : UInt16)
    (unreported : ∀ event ∈ events, event.reportMs = none) :
    lastReport code (events ++ past) = lastReport code past := by
  induction events with
  | nil => rfl
  | cons event events ih =>
      have own := unreported event (.head _)
      rw [List.cons_append, ← ih fun later member => unreported later (.tail _ member)]
      cases event with
      | returned call result =>
          cases call with
          | reportDtc code severity nowMs =>
              cases result with
              | bool accepted =>
                  cases accepted with
                  | false => rfl
                  | true => cases own
              | _ => rfl
          | _ => rfl
      | _ => rfl

theorem reports_append (unreported : ∀ event ∈ events, event.reportMs = none) :
    (events ++ past).filterMap Event.reportMs = past.filterMap Event.reportMs := by
  rw [List.filterMap_append, List.filterMap_eq_nil_iff.mpr unreported, List.nil_append]

end Unreported

/-- The stamps of the trouble codes are clock values of reports. -/
structure DtcsTracked (w : World cfg) : Prop where
  keyed : w.rt.dtcStore.Keyed
  last : ∀ dtc ∈ w.rt.dtcStore.dtcs, lastReport dtc.code w.history = some dtc.lastSeenMs
  first : ∀ dtc ∈ w.rt.dtcStore.dtcs,
    dtc.firstSeenMs ∈ w.history.filterMap Event.reportMs
  ordered : SteadyReports w.history →
    ∀ dtc ∈ w.rt.dtcStore.dtcs, dtc.firstSeenMs ≤ dtc.lastSeenMs

namespace DtcsTracked

variable {before after : World cfg}

theorem initial (clientId : UInt16) : DtcsTracked (World.initial cfg clientId) where
  keyed := ⟨fun _ member => absurd member List.not_mem_nil, List.nodup_nil⟩
  last _ member := absurd member List.not_mem_nil
  first _ member := absurd member List.not_mem_nil
  ordered _ _ member := absurd member List.not_mem_nil

/-- Steps that report nothing and store nothing new. -/
theorem of_write (tracked : DtcsTracked before)
    (write : DtcWrite before.rt.dtcStore after.rt.dtcStore) {events : History cfg}
    (history : after.history = events ++ before.history)
    (unreported : ∀ event ∈ events, event.reportMs = none) : DtcsTracked after where
  keyed := tracked.keyed.write write
  last dtc member := by
    rw [history, lastReport_append dtc.code unreported]
    exact tracked.last dtc (DtcStore.mem_of_write write member)
  first dtc member := by
    rw [history, reports_append unreported]
    exact tracked.first dtc (DtcStore.mem_of_write write member)
  ordered steady dtc member := by
    rw [SteadyReports, history, reports_append unreported] at steady
    exact tracked.ordered steady dtc (DtcStore.mem_of_write write member)

/-- A report that succeeds. -/
theorem report (tracked : DtcsTracked before) {code : UInt16} {severity : DtcSeverity}
    {nowMs : UInt32} (accepted : (before.rt.dtcStore.report code severity nowMs).1 = true)
    (stored : after.rt.dtcStore = (before.rt.dtcStore.report code severity nowMs).2)
    (history : after.history =
      .returned (.reportDtc code severity nowMs) (.bool true) :: before.history) :
    DtcsTracked after := by
  have reports : after.history.filterMap Event.reportMs =
      nowMs :: before.history.filterMap Event.reportMs := by
    rw [history]
    rfl
  have cases : ∀ dtc ∈ after.rt.dtcStore.dtcs,
      (dtc ∈ before.rt.dtcStore.dtcs ∧ dtc.code ≠ code) ∨
        (dtc.code = code ∧ dtc.lastSeenMs = nowMs ∧ (dtc.firstSeenMs = nowMs ∨
          ∃ earlier ∈ before.rt.dtcStore.dtcs, dtc.firstSeenMs = earlier.firstSeenMs)) := by
    rw [stored]
    exact fun dtc member => tracked.keyed.mem_report accepted member
  constructor
  · rw [stored]
    exact tracked.keyed.report code severity nowMs
  · intro dtc member
    rw [history, lastReport]
    rcases cases dtc member with ⟨old, other⟩ | ⟨same, last, -⟩
    · rw [if_neg other.symm]
      exact tracked.last dtc old
    · rw [if_pos same.symm, last]
  · intro dtc member
    rw [reports]
    rcases cases dtc member with ⟨old, -⟩ | ⟨-, -, now | ⟨earlier, old, same⟩⟩
    · exact .tail _ (tracked.first dtc old)
    · rw [now]
      exact .head _
    · rw [same]
      exact .tail _ (tracked.first earlier old)
  · intro steady dtc member
    rw [SteadyReports, reports, List.pairwise_cons] at steady
    obtain ⟨newest, steady⟩ := steady
    rcases cases dtc member with ⟨old, -⟩ | ⟨-, last, now | ⟨earlier, old, same⟩⟩
    · exact tracked.ordered steady dtc old
    · rw [last, now]
      exact UInt32.le_refl nowMs
    · rw [last, same]
      exact newest _ (tracked.first earlier old)

theorem reportDtc {w : World cfg} (tracked : DtcsTracked w) (code : UInt16)
    (severity : DtcSeverity) (nowMs : UInt32) :
    DtcsTracked (w.perform env id (.reportDtc code severity nowMs)) := by
  simp only [World.perform, World.apiCall, World.reportDtc]
  split
  · exact tracked.of_write .keep (List.singleton_append.symm :
      _ = [.returned (.reportDtc code severity nowMs) (.bool false)] ++ w.history)
      (by simp [Event.reportMs])
  · dsimp only
    cases accepted : (w.rt.dtcStore.report code severity nowMs).1 with
    | true => exact tracked.report accepted rfl rfl
    | false =>
        rw [DtcStore.report_refused accepted]
        obtain ⟨events, history, kinds⟩ := (@World.countRefusal_core _ cfg false w).history
        have counted := World.countRefusal_diagnostics false w
        have kept : DtcWrite w.rt.dtcStore (w.countRefusal false).rt.dtcStore := by
          rw [counted.dtcStore]
          exact .keep
        refine @of_write _ _ _ (World.emit _ (w.countRefusal false)) tracked kept
          (.returned (.reportDtc code severity nowMs) (.bool false) :: events)
          (congrArg (List.cons _) history) ?_
        intro event member
        rcases List.mem_cons.mp member with rfl | earlier
        · rfl
        · exact reportMs_eq_none (Event.kind_ne kinds (by simp) (by simp) event earlier)

theorem perform (tracked : DtcsTracked before) {call : ApiCall cfg}
    (isLocal : call.isLocal = true) : DtcsTracked (before.perform env id call) := by
  cases writes : call.writesDtcs with
  | false =>
      obtain ⟨events, history, kinds⟩ :=
        (@World.apiCall_same _ _ env id call isLocal before).history
      have same := @World.apiCall_diagnostics _ _ env id call isLocal writes before
      have recorded : (before.perform env id call).history =
          (.returned call (before.apiCall env id call).1 :: events) ++ before.history :=
        congrArg (List.cons _) history
      have kept : DtcWrite before.rt.dtcStore (before.perform env id call).rt.dtcStore := by
        change DtcWrite _ (before.apiCall env id call).2.rt.dtcStore
        rw [same.dtcStore]
        exact .keep
      apply tracked.of_write kept recorded
      intro event member
      rcases List.mem_cons.mp member with rfl | earlier
      · cases call with
        | reportDtc => cases writes
        | _ => rfl
      · exact reportMs_eq_none (Event.kind_ne kinds (by simp) (by simp) event earlier)
  | true =>
      cases call with
      | reportDtc code severity nowMs => exact tracked.reportDtc code severity nowMs
      | clearDtc code =>
          exact tracked.of_write (.clear code) (List.singleton_append.symm :
            _ = [.returned (.clearDtc code) _] ++ before.history) (by simp [Event.reportMs])
      | clearAllDtcs =>
          exact tracked.of_write .clearAll (List.singleton_append.symm :
            _ = [.returned .clearAllDtcs _] ++ before.history) (by simp [Event.reportMs])
      | _ => cases writes

theorem step (tracked : DtcsTracked before) {kind : StepKind}
    (step : Atomic env kind before after) : DtcsTracked after := by
  by_cases calls : kind = .perform
  · subst calls
    cases step with
    | perform isLocal => exact tracked.perform isLocal
  · obtain ⟨events, history, kinds⟩ := step.observes
    have unreported : ∀ event ∈ events, event.reportMs = none := by
      intro event member
      exact reportMs_eq_none (Event.kind_ne kinds calls (by simp) event member)
    apply tracked.of_write _ history unreported
    by_cases background : kind = .background
    · subst background
      cases step with
      | background step =>
          rcases step.diagnostics with same | ⟨nowMs, rfl⟩ | ⟨dtcStore, write, rfl⟩
          · rw [same.dtcStore]
            exact .keep
          · exact .keep
          · exact write
    · rw [(step.diagnostics calls background).dtcStore]
      exact .keep

theorem of_steps {clientId : UInt16} {w : World cfg}
    (steps : Steps env (World.initial cfg clientId) w) : DtcsTracked w := by
  induction steps with
  | refl => exact .initial clientId
  | tail _ step ih =>
      obtain ⟨kind, step⟩ := step
      exact ih.step step

end DtcsTracked

/-! ## What a scanner is told -/

/-- What the built-in service answers to a request without payload. -/
def World.diagReply (env : Env cfg) (methodId : UInt16) (w : World cfg) : ReturnCode × Bytes :=
  let result := (w.callHandler env (OffersTracked.diagnosticsEntry false) methodId []
    (some cfg.maxPayloadSize)).1
  (result.code, (w.rt.responseBuffer.writeAll result.writes).bytes.take result.responseLength)

/-- The clock value of the first cycle of a run whose current cycle is at `nowMs`. -/
def firstCycleMs (earlier : List (Turn cfg)) (nowMs : UInt32) : UInt32 :=
  ((earlier.filterMap Turn.cycleMs).head?).getD nowMs

/-- A device in a run of its own, in the cycle in which it answers a request. -/
def World.answering (env : Env cfg) (clientId : UInt16) (earlier : List (Turn cfg))
    (nowMs : UInt32) (received : List (Address n × Bytes)) (request : Address n × Bytes) :
    World cfg :=
  ((World.initial cfg clientId).takeTurns env earlier).handling env nowMs received request

/-- By the two replies, each code has last been seen no earlier than it was first seen, and
no later than the uptime. -/
def StampsAreUptimes (env : Env cfg) (dtcsWorld infoWorld : World cfg) : Prop :=
  (infoWorld.diagReply env 0x0005).1 = .eOk →
    ∀ dtc ∈ onDtcs (dtcsWorld.diagReply env 0x0001).1 (dtcsWorld.diagReply env 0x0001).2 [],
      dtc.firstSeenMs ≤ dtc.lastSeenMs ∧
        dtc.lastSeenMs ≤ (onDeviceInfo (infoWorld.diagReply env 0x0005).1
          (infoWorld.diagReply env 0x0005).2 {}).uptimeMs

/-- The codes that have room in the reply. -/
def World.shownDtcs (w : World cfg) : List Dtc :=
  w.rt.dtcStore.stored.take (roomFor 16 cfg.maxPayloadSize w.rt.dtcStore.stored.length)

/-- Each code that is shown was last reported so long ago that the epoch does not matter. -/
def ReportedEarly (epoch nowMs : UInt32) (w : World cfg) : Prop :=
  8 ≤ cfg.maxPayloadSize → ∀ dtc ∈ w.shownDtcs, ∀ lastMs,
    lastReport dtc.code w.history = some lastMs → epoch.toNat + lastMs.toNat ≤ nowMs.toNat

namespace World

/-- The built-in service fills the start of the response buffer with what it reports. -/
theorem diagReply_eq (methodId : UInt16) (w : World cfg) :
    ∃ isReady,
      let result := w.rt.diagService.onRequest w.rt.diag w.rt.dispatcher isReady w.rt.uptimeMs
        methodId [] cfg.maxPayloadSize w.rt.dtcStore
      w.diagReply env methodId = (result.code, result.reply) := by
  refine ⟨(w.emit (.onRequest (OffersTracked.diagnosticsEntry false) w.rt.authenticator methodId
    [] (some cfg.maxPayloadSize))).isReady env, ?_⟩
  intro result
  have reported : result.written.length = result.responseLength :=
    onRequest_written_length ..
  have fits : result.written.length ≤ cfg.maxPayloadSize := onRequest_written_le ..
  have filled := w.rt.responseBuffer.take_writeAll_start fits
  rw [reported] at filled
  refine Prod.ext rfl (filled.trans ?_)
  rw [DiagResult.reply, ← reported, List.take_length]

theorem diagReply_dtcs (w : World cfg) :
    onDtcs (w.diagReply env 0x0001).1 (w.diagReply env 0x0001).2 [] =
      w.shownDtcs.map .ofDtc := by
  rcases Nat.lt_or_ge cfg.maxPayloadSize 2 with short | room
  · have code : (w.diagReply env 0x0001).1 = .eNotOk :=
      congrArg DiagResult.code (if_pos short :
        listReply cfg.maxPayloadSize 16 _ w.rt.dtcStore = _)
    have none : roomFor 16 cfg.maxPayloadSize w.rt.dtcStore.stored.length = 0 := by
      rw [roomFor, Nat.div_eq_of_lt (by omega), Nat.min_zero]
    rw [onDtcs, onList, code, if_pos (.inl (by decide)), shownDtcs, none]
    rfl
  · have small := cfg.maxPayloadSize_le
    have countable : roomFor 16 cfg.maxPayloadSize w.rt.dtcStore.stored.length < 65536 := by
      rw [roomFor]
      omega
    have readsBack := @listReply_readsBack _ cfg _ 16 _ dtcRecord w.rt.dtcStore.stored
      w.rt.dtcStore _ _ _ (fun _ => rfl) readDtc_dtcRecord (by decide) room countable
    have decoded := readsBack.decoded []
    rw [List.length_map, ← List.map_take] at decoded
    obtain ⟨isReady, answered⟩ := @diagReply_eq _ _ env 0x0001 w
    rw [answered]
    exact decoded

theorem diagReply_info (w : World cfg) :
    ((w.diagReply env 0x0005).1 = .eOk ↔ 8 ≤ cfg.maxPayloadSize) ∧
      (8 ≤ cfg.maxPayloadSize → (onDeviceInfo (w.diagReply env 0x0005).1
        (w.diagReply env 0x0005).2 {}).uptimeMs = w.rt.uptimeMs) := by
  have answer : w.diagReply env 0x0005 =
      let result := w.rt.diagService.handleGetDeviceInfo cfg.maxPayloadSize w.rt.uptimeMs
        w.rt.dtcStore
      (result.code, result.reply) := by
    obtain ⟨isReady, answered⟩ := @diagReply_eq _ _ env 0x0005 w
    exact answered
  rw [answer, handleGetDeviceInfo]
  split
  · next short =>
      have failed : ReturnCode.eNotOk ≠ .eOk := by decide
      exact ⟨iff_of_false failed (Nat.not_le.mpr short),
        fun room => absurd room (Nat.not_le.mpr short)⟩
  · next room =>
      refine ⟨iff_of_true rfl (Nat.not_lt.mp room), fun _ => ?_⟩
      exact readU32_writeU32 (writeU16 w.rt.diagService.clientId) _ w.rt.uptimeMs 2 rfl

/-- Up to the handling of a datagram the device takes steps. -/
theorem handling_steps (nowMs : UInt32) (received : List (Address n × Bytes))
    (next : Address n × Bytes) (w : World cfg) :
    Steps env w (w.handling env nowMs received next) := by
  have started : Steps env w (w.startCycle nowMs) :=
    Atomic.steps (.background (.startCycle nowMs w))
  exact (started.trans (run_steps _ _)).trans (Atomic.steps (.validate next.1 next.2 _))

section Answering

variable (clientId : UInt16) (earlier : List (Turn cfg)) (nowMs : UInt32)
variable (received : List (Address n × Bytes)) (request : Address n × Bytes)

theorem answering_tracked :
    DtcsTracked (answering env clientId earlier nowMs received request) :=
  .of_steps ((run_steps _ _).trans (handling_steps nowMs received request _))

/-- While it answers, the uptime is counted from the first cycle. -/
theorem answering_uptimeMs :
    (answering env clientId earlier nowMs received request).rt.uptimeMs =
      nowMs - firstCycleMs earlier nowMs := by
  have counts := @handling_countsFrom _ _ env nowMs received request
    ((World.initial cfg clientId).takeTurns env earlier)
  have epoch := @takeTurns_epochMs _ _ env earlier (World.initial cfg clientId)
  have fresh : (World.initial cfg clientId).epochMs = none := rfl
  rw [fresh, Option.none_or] at epoch
  rw [epoch] at counts
  exact counts.uptimeMs

end Answering

end World

theorem firstCycleMs_le {earlier : List (Turn cfg)} {nowMs : UInt32}
    (steady : (earlier.filterMap Turn.cycleMs ++ [nowMs]).Pairwise (· ≤ ·)) :
    firstCycleMs earlier nowMs ≤ nowMs := by
  rw [firstCycleMs]
  cases first : (earlier.filterMap Turn.cycleMs).head? with
  | none => exact UInt32.le_refl nowMs
  | some epoch =>
      have member := List.mem_of_mem_head? first
      exact (List.pairwise_append.mp steady).2.2 epoch member nowMs (.head _)

/-- In every run with a clock that does not go back, the stamps a scanner is told are uptimes
exactly if each of them and the epoch together are no more than the time of the cycle. -/
theorem stamps_are_uptimes_iff (clientId : UInt16) {earlier : List (Turn cfg)} {nowMs : UInt32}
    (steadyCycles : (earlier.filterMap Turn.cycleMs ++ [nowMs]).Pairwise (· ≤ ·))
    {dtcsReceived : List (Address n × Bytes)} {getDtcs : Address n × Bytes}
    (steadyReports :
      SteadyReports (World.answering env clientId earlier nowMs dtcsReceived getDtcs).history)
    (infoReceived : List (Address n × Bytes)) (getInfo : Address n × Bytes) :
    StampsAreUptimes env (World.answering env clientId earlier nowMs dtcsReceived getDtcs)
        (World.answering env clientId earlier nowMs infoReceived getInfo) ↔
      ReportedEarly (firstCycleMs earlier nowMs) nowMs
        (World.answering env clientId earlier nowMs dtcsReceived getDtcs) := by
  have tracked : DtcsTracked (World.answering env clientId earlier nowMs dtcsReceived getDtcs) :=
    World.answering_tracked clientId earlier nowMs dtcsReceived getDtcs
  have uptime := @World.answering_uptimeMs _ _ env clientId earlier nowMs infoReceived getInfo
  have within := UInt32.toNat_sub_of_le _ _ (firstCycleMs_le steadyCycles)
  have epochLe := UInt32.le_iff_toNat_le.mp (firstCycleMs_le steadyCycles)
  generalize World.answering env clientId earlier nowMs dtcsReceived getDtcs = dtcsWorld at *
  generalize World.answering env clientId earlier nowMs infoReceived getInfo = infoWorld at *
  obtain ⟨answered, told⟩ := @World.diagReply_info _ _ env infoWorld
  rw [StampsAreUptimes, ReportedEarly, answered]
  apply forall_congr'
  intro room
  rw [World.diagReply_dtcs, told room, uptime, List.forall_mem_map]
  apply forall₂_congr
  intro dtc shown
  have stored : dtc ∈ dtcsWorld.rt.dtcStore.dtcs :=
    List.mem_of_mem_filter (List.mem_of_mem_take shown)
  have last := tracked.last dtc stored
  constructor
  · rintro ⟨-, inTime⟩ lastMs reported
    rw [last] at reported
    cases reported
    have bound := UInt32.le_iff_toNat_le.mp inTime
    rw [within] at bound
    change dtc.lastSeenMs.toNat ≤ _ at bound
    omega
  · intro early
    refine ⟨tracked.ordered steadyReports dtc stored, UInt32.le_iff_toNat_le.mpr ?_⟩
    rw [within]
    exact Nat.le_sub_of_add_le' (early dtc.lastSeenMs last)

/-! A device whose clock is past zero in its first cycle, and a scanner that asks it for its
trouble codes and for its uptime. -/

def scannerRequest (methodId : UInt16) (sequenceCounter : UInt8) : Address 8 × Bytes :=
  (Address.filled 8 1, messageFrame {
    messageType := MessageType.request.toByte
    serviceId := diagServiceId
    methodEventId := methodId
    clientId := 7
    sequenceCounter
    requestId := 1 } [] [])

/-- It is started at `epoch`, and has a code reported at `reported`. -/
def startedAt (epoch reported : UInt32) : List (Turn embeddedConfig) :=
  [.call (.enableDiagnostics epoch false), .process [] epoch,
    .call (.reportDtc 0x0101 .error reported)]

theorem stamps_are_uptimes_iff_early :
    StampsAreUptimes (.benign _)
        (World.answering (.benign _) 1 (startedAt 100 150) 300 [] (scannerRequest 1 1))
        (World.answering (.benign _) 1 (startedAt 100 150) 300 [scannerRequest 1 1]
          (scannerRequest 5 2)) ↔
      ReportedEarly (firstCycleMs (startedAt 100 150) 300) 300
        (World.answering (.benign _) 1 (startedAt 100 150) 300 [] (scannerRequest 1 1)) :=
  stamps_are_uptimes_iff 1 (by decide) (by decide +kernel) [scannerRequest 1 1]
    (scannerRequest 5 2)

/-- Has a datagram just passed validation? -/
def justAccepted (history : History cfg) : Bool :=
  history.head?.any fun
    | .dispatched .. => true
    | _ => false

/-- It is up for two seconds, and says of a code that it was last seen after six. -/
theorem stamps_exceed_uptime :
    let dtcsWorld := World.answering (.benign _) 1 (startedAt 5000 6000) 7000 []
      (scannerRequest 1 1)
    let infoWorld := World.answering (.benign _) 1 (startedAt 5000 6000) 7000
      [scannerRequest 1 1] (scannerRequest 5 2)
    justAccepted dtcsWorld.history = true ∧ justAccepted infoWorld.history = true ∧
      infoWorld.rt.dispatcher.find diagServiceId = some (OffersTracked.diagnosticsEntry false) ∧
      SteadyReports dtcsWorld.history ∧
      (onDtcs (dtcsWorld.diagReply (.benign _) 1).1 (dtcsWorld.diagReply (.benign _) 1).2
        []).map DeviceDtc.lastSeenMs = [6000] ∧
      (onDeviceInfo (infoWorld.diagReply (.benign _) 5).1
        (infoWorld.diagReply (.benign _) 5).2 {}).uptimeMs = 2000 ∧
      ¬StampsAreUptimes (.benign _) dtcsWorld infoWorld := by
  intro dtcsWorld infoWorld
  have told : (onDtcs (dtcsWorld.diagReply (.benign _) 1).1
      (dtcsWorld.diagReply (.benign _) 1).2 []).map DeviceDtc.lastSeenMs = [6000] := by
    decide +kernel
  have uptime : (onDeviceInfo (infoWorld.diagReply (.benign _) 5).1
      (infoWorld.diagReply (.benign _) 5).2 {}).uptimeMs = 2000 := by
    decide +kernel
  refine ⟨by decide +kernel, by decide +kernel, by decide +kernel, by decide +kernel, told,
    uptime, ?_⟩
  intro agree
  obtain ⟨dtc, shown, last⟩ := List.mem_map.mp (told ▸ List.mem_singleton_self 6000)
  have within := (agree (by decide +kernel) dtc shown).2
  rw [last, uptime] at within
  exact absurd within (by decide)

end Sero
