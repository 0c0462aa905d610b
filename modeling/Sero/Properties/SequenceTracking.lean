import Sero.Runtime.Decomposition

/-!
# Sequence tracking over runs

What a receiver's tracking table holds can be read off its history: per source
address the counter recorded last, unless the address has been reset since.  Every
verdict is then determined by the history before it.
-/

namespace Sero

open Library

variable {n : Nat} {cfg : Config n} {env : Env cfg}

/-- The sequence counter a datagram carries. -/
def counterOf (data : Bytes) : UInt8 :=
  (MessageHeader.deserialize data).sequenceCounter

/-- The counter recorded last for an address. -/
def lastRecorded (addr : Address n) : History cfg → Option UInt8
  | [] => none
  | .verdict source data result :: past =>
      if source = addr ∧ result.records = true then some (counterOf data)
      else lastRecorded addr past
  | .peerReset reset :: past => if reset = addr then none else lastRecorded addr past
  | _ :: past => lastRecorded addr past

/-- Only validation and resets are recorded. -/
theorem lastRecorded_append_of_kind (addr : Address n) {events past : History cfg}
    (kinds : ∀ event ∈ events, event.kind ≠ .validate ∧ event.kind ≠ .resetPeer) :
    lastRecorded addr (events ++ past) = lastRecorded addr past := by
  induction events with
  | nil => rfl
  | cons event rest ih =>
      have tail := ih fun event member => kinds event (.tail _ member)
      obtain ⟨notValidate, notReset⟩ := kinds event (.head _)
      cases event with
      | verdict => exact absurd rfl notValidate
      | peerReset => exact absurd rfl notReset
      | _ => exact tail

/-! ## What validation records -/

namespace World

/-- What step 8 records of a datagram. -/
def sequenceTrace (source : Address n) (data : Bytes) (w : World cfg) : History cfg :=
  match checkFrame cfg data with
  | .error _ => []
  | .ok hdr =>
      if hdr.serviceId = sdServiceId then []
      else [.verdict source data
        (w.rt.e2e.validateSequence source hdr.sequenceCounter).1]

/-- Events behind a verdict: the datagram is dispatched or counted. -/
def AfterVerdict (source : Address n) (data : Bytes) (events : History cfg) : Prop :=
  ∀ event ∈ events, event = .dispatched source data ∨
    ∃ counter header, event = .diagnostic counter header

theorem increment_history (counter : DiagnosticCounter) (header : Option Bytes)
    (w : World cfg) (source : Address n) (data : Bytes) :
    ∃ events, (w.increment counter header).history = events ++ w.history ∧
      AfterVerdict source data events := by
  rw [increment]
  split
  · exact ⟨[.diagnostic counter header], rfl, by simp [AfterVerdict]⟩
  · exact ⟨[], rfl, by simp [AfterVerdict]⟩

theorem checkSequence_history {source : Address n} {data : Bytes} {hdr : MessageHeader}
    (checked : checkFrame cfg data = .ok hdr) (w : World cfg) :
    ∃ events, (w.checkSequence source data hdr).2.history =
        events ++ (w.sequenceTrace source data ++ w.history) ∧
      AfterVerdict source data events := by
  simp only [sequenceTrace, checked, checkSequence]
  split
  · exact ⟨[], rfl, by simp [AfterVerdict]⟩
  · have recorded : (w.sequenceVerdict source data hdr.sequenceCounter).2.history =
        [] ++ ([.verdict source data
          (w.rt.e2e.validateSequence source hdr.sequenceCounter).1] ++ w.history) := rfl
    rcases verdict : w.sequenceVerdict source data hdr.sequenceCounter with ⟨result, after⟩
    rw [verdict] at recorded
    cases result with
    | accept | firstSeen => exact ⟨[], recorded, by simp [AfterVerdict]⟩
    | duplicate | stale | tableFull =>
        obtain ⟨events, history, counted⟩ := after.increment_history _
          (some (rawHeader data)) source data
        exact ⟨events, history.trans (congrArg (events ++ ·) recorded), counted⟩

theorem validate_history (source : Address n) (data : Bytes) (w : World cfg) :
    ∃ events, (w.validate source data).2.history =
        events ++ (w.sequenceTrace source data ++ .received source data :: w.history) ∧
      AfterVerdict source data events := by
  rw [validate]
  cases checked : checkFrame cfg data with
  | error failure =>
      obtain ⟨counter, header⟩ := failure
      simp only [sequenceTrace, checked]
      exact increment_history counter header (w.emit (.received source data)) source data
  | ok hdr =>
      obtain ⟨events, history, trace⟩ :=
        checkSequence_history checked (w.emit (.received source data))
      rcases sequence : (w.emit (.received source data)).checkSequence source data hdr with
        ⟨proceed, after⟩
      rw [sequence] at history
      simp only [sequence]
      cases proceed with
      | false => exact ⟨events, history, trace⟩
      | true =>
          simp only
          split
          · refine ⟨.dispatched source data :: events, ?_, ?_⟩
            · exact congrArg (List.cons _) history
            · intro event member
              rcases List.mem_cons.mp member with rfl | older
              · exact .inl rfl
              · exact trace event older
          · obtain ⟨newer, counted, newerTrace⟩ := after.increment_history .authFailures
              (some (rawHeader data)) source data
            refine ⟨newer ++ events, ?_, ?_⟩
            · rw [counted, history, List.append_assoc]
              rfl
            · intro event member
              rcases List.mem_append.mp member with new | old
              · exact newerTrace event new
              · exact trace event old

end World

theorem lastRecorded_afterVerdict (addr : Address n) {source : Address n} {data : Bytes}
    {events : History cfg} (trace : World.AfterVerdict source data events)
    (past : History cfg) : lastRecorded addr (events ++ past) = lastRecorded addr past := by
  induction events with
  | nil => rfl
  | cons event rest ih =>
      have tail := ih fun event member => trace event (.tail _ member)
      rcases trace event (.head _) with rfl | ⟨counter, header, rfl⟩
      · exact tail
      · exact tail

/-! ## The invariant -/

/-- The table is what the history says, and verdicts follow from their past. -/
structure SequenceTracked (w : World cfg) : Prop where
  distinct : w.rt.e2e.Distinct
  recorded : ∀ addr, w.rt.e2e.lastSeen addr = lastRecorded addr w.history
  judged : ∀ source data result past,
    (.verdict source data result :: past) <:+ w.history →
      E2EProtection.Judged cfg (lastRecorded source past) (counterOf data) result

/-- Only validation and resets write the table. -/
theorem Atomic.peers {kind : StepKind} {before after : World cfg}
    (step : Atomic env kind before after) (notValidate : kind ≠ .validate)
    (notReset : kind ≠ .resetPeer) : after.rt.e2e.peers = before.rt.e2e.peers := by
  have e2e := step.frame.e2e
  cases step with
  | validate | resetPeer => contradiction
  | transmit => rfl
  | @reply source data hdr _ accepted checked notSd isRequest rc responseLength fits =>
      obtain ⟨last, ok, equal, rt, -⟩ := World.sendReply_spec env source hdr
        (payloadOf hdr data) rc responseLength before
      rw [equal, (World.countRefusal_core ok last).e2e, rt]
      rfl
  | @submit handle target serviceId methodId payload hasCallback timeoutMs nowMs =>
      rcases @World.submit_spec _ _ env handle target serviceId methodId payload hasCallback
          timeoutMs nowMs before with ⟨-, none⟩ | ⟨_, _, _, -, -, -, drawn, -⟩
      · rw [none]
      · rw [drawn]
        rfl
  | _ => exact congrArg E2EProtection.peers (e2e (by simp))

namespace SequenceTracked

theorem initial (clientId : UInt16) : SequenceTracked (World.initial cfg clientId) where
  distinct := List.nodup_nil
  recorded _ := rfl
  judged _ _ _ _ occurs := by simp [World.initial] at occurs

theorem validate {before : World cfg} (tracked : SequenceTracked before)
    (source : Address n) (data : Bytes) :
    SequenceTracked (before.validate source data).2 := by
  obtain ⟨diag, rt, -⟩ := World.validate_rt source data before
  obtain ⟨events, history, trace⟩ := World.validate_history source data before
  have noVerdict : ∀ other bytes result, .verdict other bytes result ∉ events := by
    intro other bytes result member
    rcases trace _ member with dispatched | ⟨_, _, counted⟩
    · cases dispatched
    · cases counted
  have arrived : ∀ {other bytes result past},
      (.verdict other bytes result :: past) <:+ .received source data :: before.history →
      E2EProtection.Judged cfg (lastRecorded other past) (counterOf bytes) result := by
    intro other bytes result past occurs
    rcases List.suffix_cons_iff.mp occurs with now | earlier
    · cases now
    · exact tracked.judged _ _ _ _ earlier
  cases checked : checkFrame cfg data with
  | error failure =>
      simp only [checked, World.sequenceTrace, List.nil_append] at rt history
      refine ⟨by rw [rt]; exact tracked.distinct, ?_, ?_⟩
      · intro addr
        rw [rt, history, lastRecorded_afterVerdict addr trace]
        exact tracked.recorded addr
      · intro other bytes result past occurs
        rw [history] at occurs
        exact arrived (Runs.suffix_of_notMem occurs (noVerdict _ _ _))
  | ok hdr =>
      have counter : hdr.sequenceCounter = counterOf data := by
        rw [(checkFrame_ok_iff.mp checked).header, counterOf]
      by_cases sd : hdr.serviceId = sdServiceId
      · simp only [checked, World.sequenceTrace, sd, if_true, List.nil_append] at rt history
        refine ⟨by rw [rt]; exact tracked.distinct, ?_, ?_⟩
        · intro addr
          rw [rt, history, lastRecorded_afterVerdict addr trace]
          exact tracked.recorded addr
        · intro other bytes result past occurs
          rw [history] at occurs
          exact arrived (Runs.suffix_of_notMem occurs (noVerdict _ _ _))
      · simp only [checked, World.sequenceTrace, sd, if_false, counter] at rt history
        refine ⟨by rw [rt]; exact tracked.distinct.validateSequence _ _, ?_, ?_⟩
        · intro addr
          rw [rt, history, lastRecorded_afterVerdict addr trace,
            E2EProtection.lastSeen_validateSequence, tracked.recorded]
          rfl
        · intro other bytes result past occurs
          rw [history] at occurs
          have behind := Runs.suffix_of_notMem occurs (noVerdict _ _ _)
          rcases List.suffix_cons_iff.mp behind with now | earlier
          · cases now
            have judged := before.rt.e2e.validateSequence_judged source (counterOf data)
            rw [tracked.recorded] at judged
            exact judged
          · exact arrived earlier

theorem step {kind : StepKind} {before after : World cfg} (tracked : SequenceTracked before)
    (step : Atomic env kind before after) : SequenceTracked after := by
  by_cases validates : kind = .validate
  · subst validates
    cases step with
    | validate source data => exact tracked.validate source data
  · have judged : ∀ source data result past,
        (.verdict source data result :: past) <:+ after.history →
        E2EProtection.Judged cfg (lastRecorded source past) (counterOf data) result :=
      fun source data result past occurs => tracked.judged _ _ _ _
        (step.observes.earlier occurs (Ne.symm validates) (by simp [Event.kind]))
    by_cases resets : kind = .resetPeer
    · subst resets
      cases step with
      | resetPeer addr =>
          refine ⟨tracked.distinct.resetPeer addr, ?_, judged⟩
          intro other
          have forgotten := tracked.distinct.lastSeen_resetPeer addr other
          rw [tracked.recorded] at forgotten
          exact forgotten
    · have peers := step.peers validates resets
      obtain ⟨events, history, kinds⟩ := step.observes
      refine ⟨?_, ?_, judged⟩
      · rw [E2EProtection.Distinct, peers]
        exact tracked.distinct
      · intro addr
        have quiet : ∀ event ∈ events, event.kind ≠ .validate ∧ event.kind ≠ .resetPeer := by
          intro event member
          exact ⟨Event.kind_ne kinds validates (by simp) event member,
            Event.kind_ne kinds resets (by simp) event member⟩
        rw [history, lastRecorded_append_of_kind addr quiet, ← tracked.recorded,
          E2EProtection.lastSeen, E2EProtection.findPeer, peers]
        rfl

end SequenceTracked

theorem World.Reachable.sequenceTracked {w : World cfg} (reachable : World.Reachable env w) :
    SequenceTracked w :=
  reachable.invariant SequenceTracked.initial fun _ _ _ tracked step => tracked.step step

end Sero
