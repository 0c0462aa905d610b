import Sero.Runtime.Decomposition

/-!
# Replies and the requests they complete

A response or error completes the pending request with its request id.  Nothing else
about it is compared: neither its service and method, which the table records, nor its
source, which the table does not.
-/

namespace Sero

open Library

variable {n : Nat} {cfg : Config n}

namespace World

/-- What happens to a reply that has passed validation. -/
structure CompletesById (env : Env cfg) (w : World cfg) (source : Address n) (data : Bytes)
    (hdr : MessageHeader) (nowMs : UInt32) : Prop where
  /-- No pending request has its id: the table is unchanged and no callback runs. -/
  unanswered :
    (∀ slot, (w.rt.requestTracker.entries slot).active = true →
      (w.rt.requestTracker.entries slot).requestId ≠ hdr.requestId) →
    let after := w.validateAndDispatch env source data nowMs
    after.rt.requestTracker = w.rt.requestTracker ∧
      ∀ callback, .callback callback ∉ after.since w
  /-- The slot found under its id is freed and no other; then its callback runs, with
  what the reply carries. -/
  answered : ∀ slot, w.rt.requestTracker.findActive hdr.requestId = some slot →
    ∃ freed : World cfg,
      freed.rt.requestTracker = w.rt.requestTracker.release slot ∧
      (∀ callback, .callback callback ∉ freed.since w) ∧
      w.validateAndDispatch env source data nowMs =
        match (w.rt.requestTracker.entries slot).callback with
        | none => freed
        | some handle =>
            freed.callback env
              (.request handle .reply ⟨hdr.returnCode⟩ (payloadOf hdr data))

/-- Replies are matched by request id alone. -/
theorem reply_completes_by_id (env : Env cfg) {w : World cfg} {source : Address n}
    {data : Bytes} {hdr : MessageHeader} (passes : (w.validate source data).1 = some hdr)
    (notSd : hdr.serviceId ≠ sdServiceId)
    (isReply : MessageType.ofByte hdr.messageType = some .response ∨
      MessageType.ofByte hdr.messageType = some .error) (nowMs : UInt32) :
    CompletesById env w source data hdr nowMs := by
  obtain ⟨validated, outcome⟩ : ∃ validated, w.validate source data = (some hdr, validated) :=
    ⟨_, Prod.ext passes rfl⟩
  have dispatched : w.validateAndDispatch env source data nowMs =
      validated.handleReply env hdr (payloadOf hdr data) := by
    rw [validateAndDispatch, outcome]
    simp only [dispatchMessage, if_neg notSd]
    rcases isReply with response | error
    · rw [response]
    · rw [error]
  have tracker : validated.rt.requestTracker = w.rt.requestTracker := by
    obtain ⟨diag, written, -⟩ := w.validate_rt source data
    rw [outcome] at written
    rw [written]
  have quiet : ∀ callback, .callback callback ∉ validated.since w := by
    intro callback member
    obtain ⟨events, history, kinds⟩ := w.validate_observes source data
    rw [outcome] at history
    rw [since_eq history] at member
    rcases kinds _ member with own | background
    · cases callback <;> cases own
    · cases callback <;> cases background
  constructor
  · intro noneMatches after
    have absent : w.rt.requestTracker.findActive hdr.requestId = none := by
      rw [RequestTracker.findActive, List.find?_eq_none]
      intro slot _ found
      rw [Bool.and_eq_true, beq_iff_eq] at found
      exact noneMatches slot found.1 found.2
    have completed : after = validated := by
      change w.validateAndDispatch env source data nowMs = validated
      rw [dispatched, handleReply, RequestTracker.complete, trackerLens_get, tracker, absent]
    rw [completed]
    exact ⟨tracker, quiet⟩
  · intro slot found
    let freed : World cfg := { validated with rt := { validated.rt with
      requestTracker := w.rt.requestTracker.release slot } }
    refine ⟨freed, rfl, quiet, ?_⟩
    rw [dispatched, handleReply, RequestTracker.complete, trackerLens_get, tracker, found]
    simp only [RequestTracker.finish, trackerLens_get, trackerLens_modify, tracker]
    cases (w.rt.requestTracker.entries slot).callback <;> rfl

end World

/-! A device that has asked one provider and hears from another. -/

def askedAddress : Address 8 := Address.filled 8 2

def askingDevice : World embeddedConfig :=
  World.run (.benign _)
    [.api (.request (some askedAddress) 0x1000 1 (.bytes []) true 100 0)] (World.initial _ 1)

/-- A reply with another service and method but the id of the pending request. -/
def strayHeader : MessageHeader where
  messageType := MessageType.response.toByte
  serviceId := 0x3000
  methodEventId := 7
  clientId := 9
  requestId := 1

def strayFrame : Bytes := messageFrame strayHeader [] []

/-- The request callbacks run because of replies, with what they were given. -/
def replyCallbacks (history : History cfg) : List (Nat × ReturnCode × Bytes) :=
  history.filterMap fun
    | .callback (.request handle .reply rc payload) => some (handle, rc, payload)
    | _ => none

theorem reply_completes_by_id_stray :
    World.CompletesById (.benign _) askingDevice (Address.filled 8 9) strayFrame strayHeader 5 :=
  World.reply_completes_by_id (.benign _) (by decide +kernel) (by decide) (.inl (by decide)) 5

/-- It completes a request for another service and method, sent to another address. -/
theorem stray_reply_completes :
    World.Reachable (.benign _) askingDevice ∧
      (askingDevice.validate (Address.filled 8 9) strayFrame).1 = some strayHeader ∧
      .issued 0 1 askedAddress 0x1000 1 (.bytes []) true ∈ askingDevice.history ∧
      askedAddress ≠ Address.filled 8 9 ∧ strayHeader.serviceId ≠ 0x1000 ∧
      strayHeader.methodEventId ≠ 1 ∧
      replyCallbacks (askingDevice.validateAndDispatch (.benign _) (Address.filled 8 9)
        strayFrame 5).history = [(0, .eOk, [])] :=
  ⟨⟨1, _, rfl⟩, by decide +kernel, .tail _ (.tail _ (.head _)), by decide, by decide, by decide,
    by decide +kernel⟩

end Sero
