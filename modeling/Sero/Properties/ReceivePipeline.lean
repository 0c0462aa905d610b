import Sero.Properties.Replay
import Sero.Properties.Discard

/-!
# The receive pipeline against its table

Section 7.4 of the protocol lists the checks of a received message in order, each with
the counter it increments.  `ValidationStep.fails` states the checks one by one, as the
runtime is meant to make them; the pipeline stops at the first that fails.
-/

namespace Sero

variable {n : Nat} {cfg : Config n}

/-- The checks in the order they are made.  `totalSize` is not in the table: the message
must be as long as its header says. -/
inductive ValidationStep where
  | minimumSize
  | checksum
  | version
  | payloadLength
  | totalSize
  | messageType
  | typeId
  | clientId
  | sequence
  | authentication
  deriving DecidableEq, Repr

namespace ValidationStep

/-- The checks that look at the datagram alone. -/
def ofFrame : List ValidationStep :=
  [minimumSize, checksum, version, payloadLength, totalSize, messageType, typeId, clientId]

def order : List ValidationStep := ofFrame ++ [sequence, authentication]

/-- Is the counter a repetition of the one recorded last, or outside its window? -/
def sequenceFails (source : Address n) (sequenceCounter : UInt8) (w : World cfg) : Bool :=
  match w.rt.e2e.lastSeen source with
  | none => false
  | some last =>
      let delta := sequenceCounter - last
      decide (delta = 0) || decide (cfg.seqCounterAcceptWindow < delta)

/-- A tag that is there must be right, and one that the service requires must be there. -/
def authenticationFails (source : Address n) (data : Bytes) (hdr : MessageHeader)
    (w : World cfg) : Bool :=
  if hdr.hasAuth then
    match w.rt.authenticator.findKey source with
    | none => true
    | some entry => decide (tagOf hdr data ≠
        (hmac entry.key (rawHeader data ++ payloadOf hdr data)).take hmacSize)
  else
    match w.rt.dispatcher.find hdr.serviceId with
    | none => false
    | some entry => decide (hdr.serviceId ≠ sdServiceId) && entry.authRequired

/-- The check of the table.  Discovery messages are exempt from the sequence check and
from the policies of services. -/
def fails (source : Address n) (data : Bytes) (w : World cfg) (step : ValidationStep) : Bool :=
  let hdr := MessageHeader.deserialize data
  match step with
  | minimumSize => decide (data.length < minMessageSize)
  | checksum => decide (crc16Compute (data.take (data.length - crcSize)) ≠
      readU16 data (data.length - crcSize))
  | version => decide (hdr.version ≠ protocolVersion)
  | payloadLength => decide (cfg.maxPayloadSize < hdr.payloadLength.toNat)
  | totalSize => decide (data.length < hdr.expectedSize)
  | messageType => decide (MessageType.ofByte hdr.messageType = none)
  | typeId => decide ((hdr.messageType = MessageType.notification.toByte) ≠
      (isEventId hdr.methodEventId = true))
  | clientId => decide ((hdr.messageType = MessageType.request.toByte ∨
      hdr.messageType = MessageType.requestNoReturn.toByte) ∧ hdr.clientId = 0)
  | sequence => decide (hdr.serviceId ≠ sdServiceId) &&
      sequenceFails source hdr.sequenceCounter w
  | authentication => authenticationFails source data hdr w

/-- The counter of the table; a sequence counter is a duplicate or stale. -/
def counter (source : Address n) (data : Bytes) (w : World cfg) :
    ValidationStep → DiagnosticCounter
  | minimumSize => .droppedMessages
  | checksum => .crcErrors
  | version => .versionMismatches
  | payloadLength => .oversizedPayloads
  | totalSize => .droppedMessages
  | messageType => .unknownMessageTypes
  | typeId => .typeIdMismatches
  | clientId => .droppedMessages
  | sequence =>
      if w.rt.e2e.lastSeen source = some (MessageHeader.deserialize data).sequenceCounter then
        .duplicateMessages
      else .staleMessages
  | authentication => .authFailures

/-- The header the callback is shown: none if the message is too short for one. -/
def header (data : Bytes) (step : ValidationStep) : Option Bytes :=
  if step = minimumSize then none else some (rawHeader data)

end ValidationStep

/-- The first check of the table that fails. -/
def firstFailing (source : Address n) (data : Bytes) (w : World cfg) : Option ValidationStep :=
  ValidationStep.order.find? (ValidationStep.fails source data w)

/-! ## Counting -/

/-- What the diagnostic callback has been called with. -/
def diagnostics (history : History cfg) : List (DiagnosticCounter × Option Bytes) :=
  history.filterMap fun
    | .diagnostic counter header => some (counter, header)
    | _ => none

/-- Exactly these counters have been incremented, in this order, each with one call of
the callback if there is one. -/
structure Counts (discards : List (DiagnosticCounter × Option Bytes))
    (before after : World cfg) : Prop where
  counters : after.rt.diag =
    (discards.map Prod.fst).foldl DiagnosticCounters.increment before.rt.diag
  callbacks : diagnostics after.history =
    (if before.rt.diag.callback then discards.reverse else []) ++ diagnostics before.history

theorem foldl_increment_callback (counters : List DiagnosticCounter)
    (diag : DiagnosticCounters) :
    (counters.foldl DiagnosticCounters.increment diag).callback = diag.callback := by
  induction counters generalizing diag with
  | nil => rfl
  | cons counter rest ih => exact ih (diag.increment counter)

theorem Counts.trans {older newer : List (DiagnosticCounter × Option Bytes)}
    {first second third : World cfg} (left : Counts older first second)
    (right : Counts newer second third) : Counts (older ++ newer) first third := by
  have callback : second.rt.diag.callback = first.rt.diag.callback := by
    rw [left.counters, foldl_increment_callback]
  constructor
  · rw [right.counters, left.counters, List.map_append, List.foldl_append]
  · rw [right.callbacks, left.callbacks, callback]
    cases first.rt.diag.callback with
    | true => simp
    | false => rfl

/-- Other observations count nothing. -/
theorem counts_quiet {before after : World cfg} (diag : after.rt.diag = before.rt.diag)
    (quiet : diagnostics after.history = diagnostics before.history) :
    Counts [] before after := by
  constructor
  · exact diag
  · rw [quiet]
    cases before.rt.diag.callback <;> rfl

theorem counts_increment (counter : DiagnosticCounter) (header : Option Bytes) (w : World cfg) :
    Counts [(counter, header)] w (w.increment counter header) := by
  constructor
  · rw [World.increment_rt]
    rfl
  · rw [World.increment]
    cases called : w.rt.diag.callback with
    | true => rfl
    | false => rfl

/-! ## The checks of the frame -/

theorem crc16Verify_eq {data : Bytes} (long : minMessageSize ≤ data.length) :
    (!crc16Verify data) = decide (crc16Compute (data.take (data.length - crcSize)) ≠
      readU16 data (data.length - crcSize)) := by
  have enough : ¬data.length < 2 := by
    simp only [minMessageSize, headerSize, crcSize] at long
    omega
  rw [crc16Verify, if_neg enough, Bool.eq_iff_iff, Bool.not_eq_true', decide_eq_true_iff,
    ← Bool.not_eq_true, beq_iff_eq]
  rfl

theorem isValidMessageType_eq (value : UInt8) :
    (!isValidMessageType value) = decide (MessageType.ofByte value = none) := by
  rw [Bool.eq_iff_iff, Bool.not_eq_true', ← Bool.not_eq_true, isValidMessageType_iff,
    decide_eq_true_iff, Option.eq_none_iff_forall_ne_some]
  exact not_exists

theorem typeIdConsistent_eq {messageType : UInt8} {methodEventId : UInt16}
    (known : MessageType.ofByte messageType ≠ none) :
    (!typeIdConsistent messageType methodEventId) =
      decide ((messageType = MessageType.notification.toByte) ≠
        (isEventId methodEventId = true)) := by
  cases kind : MessageType.ofByte messageType with
  | none => exact absurd kind known
  | some type =>
      have byte := (MessageType.ofByte_eq_some_iff messageType type).mp kind
      subst byte
      have method : isMethodId methodEventId = !isEventId methodEventId := by
        rw [isMethodId, isEventId, bne, Bool.not_not]
      rw [typeIdConsistent, kind]
      cases type with
      | notification =>
          rw [Bool.eq_iff_iff, Bool.not_eq_true', decide_eq_true_iff]
          simp
      | request | requestNoReturn | response | error =>
          simp only [method, Bool.not_not]
          cases isEventId methodEventId <;> decide

theorem validateClientId_eq (hdr : MessageHeader) :
    (!hdr.validateClientId) = decide ((hdr.messageType = MessageType.request.toByte ∨
      hdr.messageType = MessageType.requestNoReturn.toByte) ∧ hdr.clientId = 0) := by
  rw [Bool.eq_iff_iff, decide_eq_true_iff, MessageHeader.validateClientId,
    ← MessageType.ofByte_eq_some_iff, ← MessageType.ofByte_eq_some_iff]
  cases MessageType.ofByte hdr.messageType with
  | none => simp
  | some type => cases type <;> simp [bne]

/-- The first of the steps that satisfies the predicate decides. -/
theorem elim_find_cons {α : Type} (p : ValidationStep → Bool) (step : ValidationStep)
    (rest : List ValidationStep) (otherwise : α) (stop : ValidationStep → α) :
    ((step :: rest).find? p).elim otherwise stop =
      if p step then stop step else (rest.find? p).elim otherwise stop := by
  rw [List.find?_cons]
  cases p step with
  | true => rfl
  | false => rfl

open ValidationStep in
/-- Steps 1 to 7 stop at the first check of the frame that fails. -/
theorem checkFrame_eq (source : Address n) (data : Bytes) (w : World cfg) :
    checkFrame cfg data =
      (ofFrame.find? (fails source data w)).elim (.ok (MessageHeader.deserialize data))
        fun step => .error (step.counter source data w, step.header data) := by
  rw [checkFrame]
  simp only [ofFrame, elim_find_cons, fails, decide_eq_true_eq]
  split
  · rfl
  · next long =>
      have hasHeader : headerSize ≤ data.length := by
        simp only [minMessageSize] at long
        omega
      rw [crc16Verify_eq (Nat.not_lt.mp long), if_pos hasHeader, isValidMessageType_eq,
        MessageHeader.validateTypeIdConsistency, validateClientId_eq]
      by_cases known : MessageType.ofByte (MessageHeader.deserialize data).messageType = none
      · simp only [decide_eq_true_eq, known, if_true]
        rfl
      · rw [typeIdConsistent_eq known]
        simp only [decide_eq_true_eq, if_neg known]
        rfl

/-! ## The checks of the peer -/

/-- Accepted without validation of its counter: the table is full and has no entry for
the source.  This is counted as a drop. -/
def Untracked (source : Address n) (data : Bytes) (w : World cfg) : Prop :=
  (MessageHeader.deserialize data).serviceId ≠ sdServiceId ∧
    w.rt.e2e.lastSeen source = none ∧ cfg.maxTrackedPeers ≤ w.rt.e2e.peers.length

instance (source : Address n) (data : Bytes) (w : World cfg) :
    Decidable (Untracked source data w) :=
  inferInstanceAs (Decidable (_ ∧ _ ∧ _))

open ValidationStep

/-- An untracked source is recorded while there is room for it. -/
theorem validateSequence_unseen {e2e : E2EProtection cfg} {source : Address n}
    (unseen : e2e.lastSeen source = none) (counter : UInt8) :
    (e2e.validateSequence source counter).1 =
      if e2e.peers.length < cfg.maxTrackedPeers then .firstSeen else .tableFull := by
  rw [E2EProtection.lastSeen, Option.map_eq_none_iff] at unseen
  rw [E2EProtection.validateSequence, unseen]
  dsimp only
  split
  · rfl
  · rfl

/-- What step 8 counts. -/
def sequenceDiscards (source : Address n) (data : Bytes) (w : World cfg) :
    List (DiagnosticCounter × Option Bytes) :=
  if fails source data w .sequence then
    [(ValidationStep.sequence.counter source data w, some (rawHeader data))]
  else if Untracked source data w then [(.droppedMessages, some (rawHeader data))]
  else []

theorem checkSequence_eq (source : Address n) (data : Bytes) (w : World cfg) :
    (w.checkSequence source data (MessageHeader.deserialize data)).1 =
        (!fails source data w .sequence) ∧
      Counts (sequenceDiscards source data w) w
        (w.checkSequence source data (MessageHeader.deserialize data)).2 := by
  rw [World.checkSequence]
  by_cases sd : (MessageHeader.deserialize data).serviceId = sdServiceId
  · rw [if_pos sd]
    have passes : fails source data w .sequence = false := by simp [fails, sd]
    have tracked : ¬Untracked source data w := fun untracked => untracked.1 sd
    rw [sequenceDiscards, passes, if_neg tracked]
    exact ⟨rfl, counts_quiet rfl rfl⟩
  · rw [if_neg sd]
    have fails_eq : fails source data w .sequence =
        sequenceFails source (MessageHeader.deserialize data).sequenceCounter w := by
      simp [fails, sd]
    have verdict : (w.sequenceVerdict source data
        (MessageHeader.deserialize data).sequenceCounter).1 =
        (w.rt.e2e.validateSequence source
          (MessageHeader.deserialize data).sequenceCounter).1 := rfl
    have quiet : Counts [] w (w.sequenceVerdict source data
        (MessageHeader.deserialize data).sequenceCounter).2 := counts_quiet rfl rfl
    rcases judged : w.sequenceVerdict source data
      (MessageHeader.deserialize data).sequenceCounter with ⟨result, after⟩
    rw [judged] at verdict quiet
    have counted : ∀ counter, Counts [(counter, some (rawHeader data))] w
        (after.increment counter (some (rawHeader data))) :=
      fun counter => quiet.trans (counts_increment counter _ after)
    rw [sequenceDiscards, fails_eq, sequenceFails]
    cases seen : w.rt.e2e.lastSeen source with
    | none =>
        rw [validateSequence_unseen seen] at verdict
        have untracked : Untracked source data w ↔
            ¬w.rt.e2e.peers.length < cfg.maxTrackedPeers := by
          simp [Untracked, sd, seen]
        by_cases room : w.rt.e2e.peers.length < cfg.maxTrackedPeers
        · rw [if_pos room] at verdict
          subst verdict
          simp only [untracked, room, not_true, if_false, Bool.false_eq_true]
          exact ⟨rfl, quiet⟩
        · rw [if_neg room] at verdict
          subst verdict
          simp only [untracked, room, not_false_eq_true, if_true, Bool.false_eq_true, if_false]
          exact ⟨rfl, counted _⟩
    | some last =>
        have tracked : ¬Untracked source data w := by simp [Untracked, seen]
        have window := w.rt.e2e.validateSequence_judged source
          (MessageHeader.deserialize data).sequenceCounter
        rw [seen, ← verdict, E2EProtection.Judged] at window
        by_cases repeated : (MessageHeader.deserialize data).sequenceCounter - last = 0
        · rw [if_pos repeated] at window
          subst window
          have same : some last = some (MessageHeader.deserialize data).sequenceCounter := by
            rw [UInt8.sub_eq_iff_eq_add.mp repeated, UInt8.zero_add]
          simp only [repeated, decide_true, Bool.true_or, if_true, counter, seen]
          rw [if_pos same]
          exact ⟨rfl, counted _⟩
        · have different : last ≠ (MessageHeader.deserialize data).sequenceCounter := by
            rintro rfl
            exact repeated (UInt8.sub_self _)
          rw [if_neg repeated] at window
          by_cases inside : (MessageHeader.deserialize data).sequenceCounter - last ≤
              cfg.seqCounterAcceptWindow
          · rw [if_pos inside] at window
            subst window
            simp only [repeated, UInt8.not_lt.mpr inside, tracked, decide_false, Bool.or_false,
              if_false, Bool.false_eq_true]
            exact ⟨rfl, quiet⟩
          · rw [if_neg inside] at window
            subst window
            simp only [repeated, UInt8.not_le.mp inside, decide_true, Bool.or_true, if_true,
              counter, seen, Option.some.injEq, different, if_false]
            exact ⟨rfl, counted _⟩

theorem checkAuth_eq {source : Address n} {data : Bytes} {w : World cfg}
    (checked : FrameChecked cfg data (MessageHeader.deserialize data)) :
    w.checkAuth source data (MessageHeader.deserialize data) =
      !fails source data w .authentication := by
  rw [World.checkAuth, fails, authenticationFails]
  cases auth : (MessageHeader.deserialize data).hasAuth with
  | true =>
      have verifies := w.rt.authenticator.verify_iff (rawHeader data)
        (payloadOf (MessageHeader.deserialize data) data) source (checked.tag_length auth)
      rw [if_pos rfl, if_pos rfl, Bool.eq_iff_iff, verifies, Bool.not_eq_true']
      cases w.rt.authenticator.findKey source with
      | none => simp
      | some entry => simp
  | false =>
      rw [if_neg Bool.false_ne_true, if_neg Bool.false_ne_true]
      by_cases sd : (MessageHeader.deserialize data).serviceId = sdServiceId
      · rw [if_pos sd]
        cases w.rt.dispatcher.find (MessageHeader.deserialize data).serviceId with
        | none => rfl
        | some entry => simp [sd]
      · rw [if_neg sd]
        cases w.rt.dispatcher.find (MessageHeader.deserialize data).serviceId with
        | none => rfl
        | some entry => simp [sd]

/-- What a datagram counts that fails this check first. -/
def discards (source : Address n) (data : Bytes) (w : World cfg) (step : ValidationStep) :
    List (DiagnosticCounter × Option Bytes) :=
  (if step = .authentication ∧ Untracked source data w then
    [(.droppedMessages, some (rawHeader data))] else []) ++
  [(step.counter source data w, step.header data)]

theorem firstFailing_eq (source : Address n) (data : Bytes) (w : World cfg) :
    firstFailing source data w =
      (ofFrame.find? (fails source data w)).or
        (if fails source data w .sequence then some .sequence
        else if fails source data w .authentication then some .authentication
        else none) := by
  rw [firstFailing, order, List.find?_append, List.find?_cons, List.find?_cons]
  cases fails source data w .sequence with
  | true => rfl
  | false => cases fails source data w .authentication <;> rfl

/-- Validation ends at the first check that fails. -/
theorem validate_eq (source : Address n) (data : Bytes) (w : World cfg) :
    (firstFailing source data w).elim
      ((w.validate source data).1 = some (MessageHeader.deserialize data))
      fun step => (w.validate source data).1 = none ∧
        Counts (discards source data w step) w (w.validate source data).2 := by
  have arrived : Counts [] w (w.emit (.received source data)) := counts_quiet rfl rfl
  have frame := checkFrame_eq source data w
  rw [firstFailing_eq, World.validate]
  cases failing : ofFrame.find? (fails source data w) with
  | some step =>
      have early : step ≠ .authentication := by
        rintro rfl
        exact absurd (List.mem_of_find?_eq_some failing) (by decide)
      rw [failing] at frame
      rw [frame, Option.some_or]
      dsimp only [Option.elim]
      rw [discards, if_neg fun both => early both.1]
      exact ⟨rfl, arrived.trans (counts_increment _ _ _)⟩
  | none =>
      rw [failing] at frame
      have checked := checkFrame_ok_iff.mp frame
      obtain ⟨proceeds, counted⟩ := checkSequence_eq source data (w.emit (.received source data))
      obtain ⟨diag, rt, -⟩ := World.checkSequence_rt source data
        (MessageHeader.deserialize data) (w.emit (.received source data))
      rw [frame, Option.none_or]
      dsimp only [Option.elim]
      rcases sequence : (w.emit (.received source data)).checkSequence source data
        (MessageHeader.deserialize data) with ⟨proceed, after⟩
      rw [sequence] at proceeds counted rt
      have through := arrived.trans counted
      dsimp only at proceeds
      subst proceeds
      have same : fails source data (w.emit (.received source data)) .sequence =
        fails source data w .sequence := rfl
      have sameDiscards : sequenceDiscards source data (w.emit (.received source data)) =
        sequenceDiscards source data w := rfl
      rw [sameDiscards, List.nil_append] at through
      rw [same]
      cases behind : fails source data w .sequence with
      | true =>
          rw [sequenceDiscards, behind] at through
          exact ⟨rfl, through⟩
      | false =>
          have authentic : after.checkAuth source data (MessageHeader.deserialize data) =
              !fails source data w .authentication := by
            rw [← checkAuth_eq checked]
            exact World.checkAuth_congr (by rw [rt]; rfl) (by rw [rt]; rfl)
          rw [sequenceDiscards, behind] at through
          simp only [Bool.not_false, authentic]
          cases forged : fails source data w .authentication with
          | false => rfl
          | true =>
              have counts := through.trans
                (counts_increment .authFailures (some (rawHeader data)) after)
              have untracked : discards source data w .authentication =
                  (if Untracked source data w then
                    [(DiagnosticCounter.droppedMessages, some (rawHeader data))] else []) ++
                  [(DiagnosticCounter.authFailures, some (rawHeader data))] := by
                simp [discards, counter, header]
              refine ⟨rfl, ?_⟩
              rw [untracked]
              exact counts

/-- A datagram is discarded exactly when a check of the table fails, and it counts under
the first that does.  The runtime departs from the table where it says so: the declared
size is a check of its own, discovery messages are exempt from the sequence check, and a
message let through untracked has been counted when authentication rejects it. -/
theorem receive_pipeline (env : Env cfg) (source : Address n) (data : Bytes) (nowMs : UInt32)
    (w : World cfg) :
    ((w.validate source data).1 = none ↔ (firstFailing source data w).isSome = true) ∧
      ∀ step, firstFailing source data w = some step →
        Counts (discards source data w step) w (w.validateAndDispatch env source data nowMs) := by
  have validated := validate_eq source data w
  cases failing : firstFailing source data w with
  | none =>
      rw [failing] at validated
      constructor
      · rw [show (w.validate source data).1 = some (MessageHeader.deserialize data) from validated]
        simp
      · intro step fails
        cases fails
  | some step =>
      rw [failing] at validated
      obtain ⟨stopped, counts⟩ := validated
      constructor
      · simp [stopped]
      · intro same equal
        cases equal
        rw [World.validateAndDispatch]
        rcases outcome : w.validate source data with ⟨passed, after⟩
        rw [outcome] at stopped counts
        cases stopped
        exact counts

def device (number : UInt8) : Address 8 :=
  ⟨[0, 0, 0, 0, 0, 0, 0, number], rfl⟩

/-- One device for each place in the sequence table has sent a notification. -/
def crowdedWorld : World embeddedConfig :=
  World.run (.benign _)
    (.api (.setDiagnosticCallback true) ::
      [1, 2, 3, 4, 5, 6, 7, 8].map fun number =>
        .deliver (device number) World.notification 0)
    (World.initial _ 1)

theorem short_datagram_counts_once :
    Counts [(.droppedMessages, none)] crowdedWorld
      (crowdedWorld.validateAndDispatch (.benign _) (device 1) [0] 0) :=
  (receive_pipeline (.benign _) (device 1) [0] 0 crowdedWorld).2 .minimumSize
    (by decide +kernel)

/-- A request of one more device fails step 9 and is counted twice, each time with a
callback.  A discovery request that repeats the counter of its source is not discarded. -/
theorem forged_request_counts_twice :
    let after := crowdedWorld.validateAndDispatch (.benign _) (device 9) World.forgedRequest 0
    World.Reachable (.benign _) crowdedWorld ∧
      (crowdedWorld.validate (device 9) World.forgedRequest).1 = none ∧
      [crowdedWorld, after].map (fun w => w.rt.diag.counters .droppedMessages) = [0, 1] ∧
      [crowdedWorld, after].map (fun w => w.rt.diag.counters .authFailures) = [0, 1] ∧
      diagnostics (after.since crowdedWorld) =
        [(.authFailures, some (rawHeader World.forgedRequest)),
          (.droppedMessages, some (rawHeader World.forgedRequest))] ∧
      crowdedWorld.rt.e2e.lastSeen (device 1) =
        some (MessageHeader.deserialize World.findRequest).sequenceCounter ∧
      (crowdedWorld.validate (device 1) World.findRequest).1.isSome = true :=
  ⟨⟨1, _, rfl⟩, by decide +kernel, by decide +kernel, by decide +kernel, by decide +kernel,
    by decide +kernel, by decide +kernel⟩

end Sero
