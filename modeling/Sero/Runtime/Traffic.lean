import Sero.Runtime.Decomposition

/-!
# Discovery traffic

The discovery frames a device has sent.  Handling application messages, running
callbacks and calling the interface add none: they are plain steps.
-/

namespace Sero

open Library

variable {n : Nat} {cfg : Config n} {env : Env cfg}

/-- A discovery frame and where it goes, `none` being everyone. -/
def Event.sdFrame : Event cfg → Option (Option (Address n) × Bytes)
  | .broadcast frame _ => some (none, frame)
  | .sent .sd dest frame _ => some (some dest, frame)
  | _ => none

namespace World

/-- The discovery frames sent so far, newest first. -/
def traffic (w : World cfg) : List (Option (Address n) × Bytes) :=
  w.history.filterMap Event.sdFrame

theorem traffic_of_history {before after : World cfg}
    (same : after.history = before.history) : after.traffic = before.traffic := by
  rw [traffic, same, traffic]

theorem traffic_append {before after : World cfg} {events : History cfg}
    (history : after.history = events ++ before.history) :
    after.traffic = events.filterMap Event.sdFrame ++ before.traffic := by
  rw [traffic, history, List.filterMap_append]
  rfl

theorem traffic_emit {event : Event cfg} (quiet : event.sdFrame = none) (w : World cfg) :
    (w.emit event).traffic = w.traffic :=
  List.filterMap_cons_none quiet

theorem modify_traffic (update : ServiceDiscovery cfg → ServiceDiscovery cfg)
    (w : World cfg) : (sdLens.modify update w).traffic = w.traffic := rfl

theorem increment_traffic (counter : DiagnosticCounter) (header : Option Bytes)
    (w : World cfg) : (w.increment counter header).traffic = w.traffic := by
  rw [increment]
  split <;> rfl

theorem countRefusal_traffic (ok : Bool) (w : World cfg) :
    (w.countRefusal ok).traffic = w.traffic := by
  cases ok with
  | true => rfl
  | false => exact increment_traffic _ _ _

theorem checkSequence_traffic (source : Address n) (data : Bytes) (hdr : MessageHeader)
    (w : World cfg) : (w.checkSequence source data hdr).2.traffic = w.traffic := by
  rw [checkSequence]
  split
  · rfl
  · have recorded : (w.sequenceVerdict source data hdr.sequenceCounter).2.traffic =
        w.traffic := rfl
    rcases verdict : w.sequenceVerdict source data hdr.sequenceCounter with ⟨result, after⟩
    rw [verdict] at recorded
    cases result with
    | accept | firstSeen => exact recorded
    | duplicate | stale | tableFull => exact (increment_traffic _ _ _).trans recorded

theorem validate_traffic (source : Address n) (data : Bytes) (w : World cfg) :
    (w.validate source data).2.traffic = w.traffic := by
  rw [validate]
  cases checkFrame cfg data with
  | error failure => exact increment_traffic _ _ _
  | ok hdr =>
      have checked : _ = w.traffic :=
        checkSequence_traffic source data hdr (w.emit (.received source data))
      rcases sequence : (w.emit (.received source data)).checkSequence source data hdr with
        ⟨proceed, after⟩
      rw [sequence] at checked
      simp only [sequence]
      cases proceed with
      | false => exact checked
      | true =>
          dsimp only
          split
          · exact checked
          · exact (increment_traffic _ _ _).trans checked

theorem sendReply_traffic (source : Address n) (hdr : MessageHeader) (payload : Bytes)
    (rc : ReturnCode) (responseLength : Nat) (w : World cfg) :
    (w.sendReply env source hdr payload rc responseLength).traffic = w.traffic := by
  obtain ⟨after, ok, equal, -, history⟩ :=
    sendReply_spec env source hdr payload rc responseLength w
  rw [equal, countRefusal_traffic, traffic, history]
  rfl

theorem subscribeEvent_history (serviceId eventId : UInt16) (context : Nat)
    (ttlSeconds : UInt16) (nowMs : UInt32) (w : World cfg) :
    (w.subscribeEvent serviceId eventId context ttlSeconds nowMs).2.history = w.history := by
  rw [subscribeEvent, registerEventHandler]
  cases Table.upsert (handlesEvent serviceId eventId)
      (fun _ => { serviceId, eventId, context }) { serviceId, eventId, context }
      (cfg.maxKnownServices * cfg.maxEvents) w.rt.eventHandlers <;> rfl

/-- Local calls send nothing. -/
theorem apiCall_traffic (body : World cfg → World cfg) {call : ApiCall cfg}
    (isLocal : call.isLocal = true) (w : World cfg) :
    (w.apiCall env body call).2.traffic = w.traffic := by
  cases call with
  | request | fireAndForget | notifyEvent => cases isLocal
  | offerService serviceId ttl now =>
      obtain ⟨sd, written, -⟩ := w.offerService_rt serviceId ttl now
      exact (congrArg World.traffic written).trans rfl
  | subscribeEvent serviceId eventId context ttl now =>
      exact traffic_of_history (w.subscribeEvent_history serviceId eventId context ttl now)
  | enableDiagnostics now auth =>
      obtain ⟨_, _, _, _, written, -⟩ := w.enableDiagnostics_rt now auth
      exact (congrArg World.traffic written).trans rfl
  | reportDtc code severity now =>
      change (w.reportDtc code severity now).2.traffic = w.traffic
      rw [reportDtc]
      split
      · rfl
      · exact countRefusal_traffic _ _
  | _ => rfl

theorem submit_traffic (handle : Nat) (target : Address n) (serviceId methodId : UInt16)
    (payload : Payload) (hasCallback : Bool) (timeoutMs nowMs : UInt32) (w : World cfg) :
    (w.submit env handle target serviceId methodId payload hasCallback timeoutMs
      nowMs).2.traffic = w.traffic := by
  rw [submit]
  split <;> rfl

theorem finish_traffic (slot : Fin cfg.maxPendingRequests) (cause : Cause)
    (rc : ReturnCode) (payload : Bytes) (w : World cfg) :
    (RequestTracker.finish trackerLens (invokeRequest cause id) slot rc payload
      w).traffic = w.traffic := by
  rw [RequestTracker.finish]
  cases ((trackerLens.get w).entries slot).callback <;> rfl

end World

theorem PlainStep.traffic {before after : World cfg} (step : PlainStep env before after) :
    after.traffic = before.traffic := by
  cases step with
  | count counter header => exact World.increment_traffic counter header before
  | storeDtcs | fillResponse => rfl
  | own isPlain step =>
      cases step with
      | background | sdWrite | markRenewals => cases isPlain
      | validate source data => exact World.validate_traffic source data before
      | reply => exact World.sendReply_traffic ..
      | finish => exact World.finish_traffic ..
      | submit => exact World.submit_traffic ..
      | transmit dest payload payloadLength auth _ type =>
          rcases type with ⟨rfl, -⟩ | ⟨rfl, -⟩ <;> rfl
      | perform isLocal => exact World.apiCall_traffic id isLocal before
      | enterHandler | callback | returned | resetPeer => rfl

theorem PlainSteps.traffic {before after : World cfg} (steps : PlainSteps env before after) :
    after.traffic = before.traffic := by
  induction steps with
  | refl => rfl
  | tail _ step ih => exact step.traffic.trans ih

end Sero
