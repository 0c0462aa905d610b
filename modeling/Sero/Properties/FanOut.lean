import Mathlib.Data.List.Chain
import Sero.Properties.SequenceTracking

/-!
# One counter, several destinations

A sender numbers its application frames with one counter shared by all
destinations.  A receiver that gets its share in order sees the gaps left by the
frames sent elsewhere: it accepts every frame as long as no gap exceeds its window.
-/

namespace Sero

open Library

variable {n : Nat} {cfg : Config n} {env : Env cfg}

/-! ## The sender's numbering -/

/-- A frame of application traffic, and whether the transport took it. -/
structure Outgoing (n : Nat) where
  dest : Address n
  frame : Bytes
  ok : Bool

def applicationFrame : Event cfg → Option (Outgoing n)
  | .sent .sd .. => none
  | .sent _ dest frame ok => some ⟨dest, frame, ok⟩
  | _ => none

/-- All application frames, newest first. -/
def applicationFrames (history : History cfg) : List (Outgoing n) :=
  history.filterMap applicationFrame

/-- Every frame carries the number of frames before it; an oversized message draws a
number but yields an empty frame. -/
def Numbered : List (Outgoing n) → Prop
  | [] => True
  | sent :: older =>
      (sent.frame = [] ∨ counterOf sent.frame = UInt8.ofNat older.length) ∧ Numbered older

theorem Observes.applicationFrames {kind : StepKind} {before after : World cfg}
    (observes : Observes kind before after) (other : kind ∉ [.reply, .submit, .transmit]) :
    Sero.applicationFrames after.history = Sero.applicationFrames before.history := by
  apply observes.filterMap
  rintro event (own | quiet)
  · subst own
    cases event with
    | sent purpose => cases purpose <;> simp_all [Event.kind, applicationFrame]
    | _ => rfl
  · cases event with
    | sent purpose => cases purpose <;> simp_all [Event.kind, applicationFrame]
    | _ => rfl

/-- A built frame carries the counter of its header, unless it is empty. -/
theorem counterOf_builtFrame (rt : Runtime cfg) (hdr : MessageHeader)
    (payload : Option Bytes) (payloadLength : Nat) (auth : Bool) (peer : Address n) :
    rt.builtFrame hdr payload payloadLength auth peer = [] ∨
      counterOf (rt.builtFrame hdr payload payloadLength auth peer) =
        hdr.sequenceCounter := by
  by_cases fits : payloadLength ≤ cfg.maxPayloadSize
  · right
    obtain ⟨body, tag, frame, -⟩ :=
      buildMessage_frame rt hdr payload payloadLength auth peer fits
    rw [frame, counterOf, deserialize_messageFrame]
  · left
    have oversized : cfg.maxPayloadSize < payloadLength := Nat.lt_of_not_le fits
    simp [Runtime.builtFrame, Runtime.buildMessage, oversized]

/-- What a step does to the numbering: nothing, or one frame with the next number. -/
def Numbers (before after : World cfg) : Prop :=
  (applicationFrames after.history = applicationFrames before.history ∧
    after.rt.e2e.txSeq = before.rt.e2e.txSeq) ∨
  ∃ sent, applicationFrames after.history = sent :: applicationFrames before.history ∧
    after.rt.e2e.txSeq = before.rt.e2e.txSeq + 1 ∧
    (sent.frame = [] ∨ counterOf sent.frame = before.rt.e2e.txSeq)

theorem World.transmit_numbers {kind : SendKind} (application : kind ≠ .sd)
    (dest : Address n) (hdr : MessageHeader) (payload : Option Bytes) (payloadLength : Nat)
    (auth : Bool) (w : World cfg) :
    Numbers w (w.transmit env kind dest hdr payload payloadLength auth).2 := by
  let numbered : MessageHeader := { hdr with sequenceCounter := w.rt.e2e.txSeq }
  let frame := w.rt.builtFrame numbered payload payloadLength auth dest
  refine .inr ⟨⟨dest, frame, env.sendOk w.history dest frame⟩, ?_, rfl,
    counterOf_builtFrame w.rt numbered payload payloadLength auth dest⟩
  cases kind with
  | sd => exact absurd rfl application
  | _ => rfl

theorem Numbers.trans_core {first second third : World cfg} (numbers : Numbers first second)
    (same : SameCore second third) : Numbers first third := by
  have frames := same.history.applicationFrames (by simp)
  unfold Numbers
  rw [frames, same.e2e]
  exact numbers

theorem World.sendReply_numbers (source : Address n) (hdr : MessageHeader) (payload : Bytes)
    (rc : ReturnCode) (responseLength : Nat) (w : World cfg) :
    Numbers w (w.sendReply env source hdr payload rc responseLength) := by
  obtain ⟨after, ok, equal, rt, history⟩ :=
    sendReply_spec env source hdr payload rc responseLength w
  have frames := congrArg applicationFrames history
  have drawn := congrArg (fun rt => rt.e2e.txSeq) rt
  rw [equal]
  exact Numbers.trans_core
    (.inr ⟨_, frames, drawn, counterOf_builtFrame w.rt _ _ _ _ source⟩)
    (countRefusal_core ok after)

theorem World.submit_numbers (handle : Nat) (target : Address n)
    (serviceId methodId : UInt16) (payload : Payload) (hasCallback : Bool)
    (timeoutMs nowMs : UInt32) (w : World cfg) :
    Numbers w (w.submit env handle target serviceId methodId payload hasCallback timeoutMs
      nowMs).2 := by
  rcases @submit_spec _ _ env handle target serviceId methodId payload hasCallback timeoutMs
      nowMs w with ⟨-, none⟩ | ⟨_, _, ok, -, -, -, drawn, rt, auth, history⟩
  · rw [none]
    exact .inl ⟨rfl, rfl⟩
  · have frames := congrArg applicationFrames history
    exact .inr ⟨_, frames, congrArg E2EProtection.txSeq drawn,
      counterOf_builtFrame rt _ _ _ _ _⟩

theorem Atomic.numbers {kind : StepKind} {before after : World cfg}
    (step : Atomic env kind before after) : Numbers before after := by
  have frames := step.observes.applicationFrames
  have e2e := step.frame.e2e
  cases step with
  | reply => exact World.sendReply_numbers _ _ _ _ _ _
  | submit => exact World.submit_numbers _ _ _ _ _ _ _ _ _
  | transmit _ _ _ _ _ type =>
      refine World.transmit_numbers ?_ _ _ _ _ _ _
      rcases type with ⟨rfl, -⟩ | ⟨rfl, -⟩ <;> simp
  | resetPeer => exact .inl ⟨frames (by simp), rfl⟩
  | validate source data =>
      refine .inl ⟨frames (by simp), ?_⟩
      obtain ⟨diag, rt, -⟩ := World.validate_rt source data before
      rw [rt]
      dsimp only
      split
      · rfl
      · split
        · rfl
        · exact E2EProtection.validateSequence_txSeq _ _ _
  | _ => exact .inl ⟨frames (by simp), congrArg E2EProtection.txSeq (e2e (by simp))⟩

/-- A sender's application frames are numbered by its counter. -/
structure SenderNumbered (w : World cfg) : Prop where
  numbered : Numbered (applicationFrames w.history)
  counter : w.rt.e2e.txSeq = UInt8.ofNat (applicationFrames w.history).length

theorem World.Reachable.senderNumbered {w : World cfg} (reachable : World.Reachable env w) :
    SenderNumbered w := by
  refine reachable.invariant (fun _ => ⟨trivial, rfl⟩) ?_
  intro kind before after holds step
  rcases step.numbers with ⟨frames, counter⟩ | ⟨sent, frames, counter, number⟩
  · exact ⟨frames ▸ holds.numbered, by rw [frames, counter, holds.counter]⟩
  · refine ⟨?_, ?_⟩
    · rw [frames, Numbered, ← holds.counter]
      exact ⟨number, holds.numbered⟩
    · rw [frames, counter, holds.counter, List.length_cons, UInt8.ofNat_add]
      rfl

/-- In sending order a frame's counter is its index. -/
theorem Numbered.counterOf_index {frames : List (Outgoing n)} (numbered : Numbered frames) :
    ∀ sent index, (sent, index) ∈ frames.reverse.zipIdx →
      sent.frame = [] ∨ counterOf sent.frame = UInt8.ofNat index := by
  induction frames with
  | nil => simp
  | cons newest older ih =>
      intro sent index member
      rw [List.reverse_cons, List.zipIdx_append, List.mem_append] at member
      rcases member with earlier | now
      · exact ih numbered.2 sent index earlier
      · simp only [List.length_reverse, Nat.zero_add, List.zipIdx_cons, List.zipIdx_nil,
          List.mem_singleton, Prod.mk.injEq] at now
        obtain ⟨rfl, rfl⟩ := now
        exact numbered.1

/-! ## The receiver's share -/

/-- Not addressed to service discovery. -/
def isApplication (frame : Bytes) : Bool :=
  (MessageHeader.deserialize frame).serviceId != sdServiceId

/-- Does the datagram reach step 8? -/
def reachesSequence (cfg : Config n) (frame : Bytes) : Bool :=
  match checkFrame cfg frame with
  | .error _ => false
  | .ok _ => true

/-- The application frames the transport took for one destination, in sending order,
each with its number. -/
def framesTo (dest : Address n) (history : History cfg) : List (Bytes × Nat) :=
  ((applicationFrames history).reverse.zipIdx.filter fun sent =>
    sent.1.dest == dest && sent.1.ok && isApplication sent.1.frame).map fun sent =>
      (sent.1.frame, sent.2)

/-- The application datagrams received from one address, newest first. -/
def receivedFrom (addr : Address n) (history : History cfg) : List Bytes :=
  history.filterMap fun
    | .received source data =>
        if source = addr ∧ isApplication data = true then some data else none
    | _ => none

/-- The datagrams from one address that step 8 has judged, newest first. -/
def judgedFrom (addr : Address n) (history : History cfg) : List Bytes :=
  history.filterMap fun
    | .verdict source data _ => if source = addr then some data else none
    | _ => none

/-- Two counters the window accepts after one another. -/
def InWindow (cfg : Config n) (earlier later : Nat) : Prop :=
  1 ≤ (later - earlier) % 256 ∧ (later - earlier) % 256 ≤ cfg.seqCounterAcceptWindow.toNat

instance (cfg : Config n) (earlier later : Nat) : Decidable (InWindow cfg earlier later) :=
  inferInstanceAs (Decidable (_ ∧ _))

theorem judgedFrom_afterVerdict (addr : Address n) {source : Address n} {data : Bytes}
    {events : History cfg} (trace : World.AfterVerdict source data events)
    (past : History cfg) :
    judgedFrom addr (events ++ past) = judgedFrom addr past ∧
      receivedFrom addr (events ++ past) = receivedFrom addr past := by
  induction events with
  | nil => exact ⟨rfl, rfl⟩
  | cons event rest ih =>
      have tail := ih fun event member => trace event (.tail _ member)
      rcases trace event (.head _) with rfl | ⟨counter, header, rfl⟩
      · exact tail
      · exact tail

/-- Step 8 judges exactly the application datagrams that reach it. -/
theorem World.Reachable.judgedFrom_eq {w : World cfg} (reachable : World.Reachable env w)
    (addr : Address n) :
    judgedFrom addr w.history =
      (receivedFrom addr w.history).filter (reachesSequence cfg) := by
  refine @World.Reachable.invariant _ _ _ (fun w => judgedFrom addr w.history =
    (receivedFrom addr w.history).filter (reachesSequence cfg)) (fun _ => rfl) ?_ _ reachable
  intro kind before after holds step
  by_cases validates : kind = .validate
  · subst validates
    cases step with
    | validate source data =>
        obtain ⟨events, history, trace⟩ := World.validate_history source data before
        obtain ⟨judged, received⟩ := judgedFrom_afterVerdict addr trace
          (before.sequenceTrace source data ++ .received source data :: before.history)
        rw [history, judged, received, World.sequenceTrace]
        cases checked : checkFrame cfg data with
        | error failure =>
            have dropped : reachesSequence cfg data = false := by
              simp [reachesSequence, checked]
            simp only [judgedFrom, receivedFrom, List.nil_append, List.filterMap_cons] at *
            split
            · exact holds
            · next arrived =>
                split at arrived
                · cases arrived
                  simpa [dropped] using holds
                · cases arrived
        | ok hdr =>
            have reaches : reachesSequence cfg data = true := by
              simp [reachesSequence, checked]
            have serviceId : isApplication data = (hdr.serviceId != sdServiceId) := by
              rw [isApplication, (checkFrame_ok_iff.mp checked).header]
            by_cases sd : hdr.serviceId = sdServiceId <;> by_cases same : source = addr <;>
              simpa [judgedFrom, receivedFrom, sd, serviceId, same, reaches] using holds
  · have same {β : Type} {select : Event cfg → Option β}
        (validation : ∀ event : Event cfg, event.kind ≠ .validate → select event = none) :
        after.history.filterMap select = before.history.filterMap select := by
      apply step.observes.filterMap
      rintro event (own | quiet)
      · exact validation event (own ▸ validates)
      · exact validation event (by simp [quiet])
    have judged : judgedFrom addr after.history = judgedFrom addr before.history := by
      apply same
      rintro (_ | _) notValidate <;> first | rfl | exact absurd rfl notValidate
    have received : receivedFrom addr after.history = receivedFrom addr before.history := by
      apply same
      rintro (_ | _) notValidate <;> first | rfl | exact absurd rfl notValidate
    rw [judged, received]
    exact holds

/-- Where every judged counter is in the window of the one judged before it, every
verdict lets its datagram pass; by induction on the history, newest event first. -/
theorem passes_of_chain {addr : Address n} {history : History cfg}
    (judged : ∀ data result past, (.verdict addr data result :: past) <:+ history →
      E2EProtection.Judged cfg (lastRecorded addr past) (counterOf data) result)
    (chain : (judgedFrom addr history).IsChain fun later earlier =>
      counterOf later - counterOf earlier ≠ 0 ∧
        counterOf later - counterOf earlier ≤ cfg.seqCounterAcceptWindow) :
    (∀ data result, .verdict addr data result ∈ history → result.passes = true) ∧
      (lastRecorded addr history = none ∨
        lastRecorded addr history = (judgedFrom addr history).head?.map counterOf) := by
  induction history with
  | nil => exact ⟨by simp, .inl rfl⟩
  | cons event past ih =>
      have judgedPast := fun data result earlier occurs =>
        judged data result earlier (List.IsSuffix.trans occurs (List.suffix_cons event past))
      cases event with
      | verdict source data result =>
          by_cases same : source = addr
          · subst same
            have split : judgedFrom source (.verdict source data result :: past) =
                data :: judgedFrom source past := by simp [judgedFrom]
            rw [split] at chain ⊢
            obtain ⟨passing, last⟩ := ih judgedPast chain.tail
            have here := judged data result past (List.suffix_refl _)
            have accepted : result.passes = true ∧
                (result.records = true ∨ lastRecorded source past = none) := by
              rcases last with unseen | seen
              · rw [unseen] at here
                rcases here with rfl | rfl
                · exact ⟨rfl, .inl rfl⟩
                · exact ⟨rfl, .inr unseen⟩
              · cases judgedPast : judgedFrom source past with
                | nil =>
                    rw [seen, judgedPast] at here
                    rcases here with rfl | rfl
                    · exact ⟨rfl, .inl rfl⟩
                    · exact ⟨rfl, .inr (by rw [seen, judgedPast]; rfl)⟩
                | cons previous older =>
                    rw [judgedPast] at chain seen
                    obtain ⟨different, inside⟩ := (List.isChain_cons_cons.mp chain).1
                    rw [seen] at here
                    simp only [E2EProtection.Judged, List.head?_cons, Option.map_some,
                      if_neg different, if_pos inside] at here
                    subst here
                    exact ⟨rfl, .inl rfl⟩
            refine ⟨?_, ?_⟩
            · intro other outcome member
              rcases List.mem_cons.mp member with now | earlier
              · cases now
                exact accepted.1
              · exact passing other outcome earlier
            · rw [lastRecorded]
              rcases accepted.2 with records | unseen
              · exact .inr (if_pos ⟨rfl, records⟩)
              · by_cases records : result.records = true
                · exact .inr (if_pos ⟨rfl, records⟩)
                · exact .inl ((if_neg fun both => records both.2).trans unseen)
          · have split : judgedFrom addr (.verdict source data result :: past) =
                judgedFrom addr past := by simp [judgedFrom, same]
            rw [split] at chain ⊢
            obtain ⟨passing, last⟩ := ih judgedPast chain
            refine ⟨?_, ?_⟩
            · intro other outcome member
              rcases List.mem_cons.mp member with now | earlier
              · cases now
                exact absurd rfl same
              · exact passing other outcome earlier
            · simpa [lastRecorded, same] using last
      | peerReset reset =>
          obtain ⟨passing, last⟩ := ih judgedPast chain
          refine ⟨by simpa using passing, ?_⟩
          rw [lastRecorded]
          split
          · exact .inl rfl
          · exact last
      | _ =>
          obtain ⟨passing, last⟩ := ih judgedPast chain
          exact ⟨by simpa using passing, last⟩

/-- Counters of frames whose numbers are in the window of one another. -/
theorem InWindow.counters {earlier later : Nat} (inside : InWindow cfg earlier later) :
    UInt8.ofNat later - UInt8.ofNat earlier ≠ 0 ∧
      UInt8.ofNat later - UInt8.ofNat earlier ≤ cfg.seqCounterAcceptWindow := by
  obtain ⟨positive, bounded⟩ := inside
  have distance : (UInt8.ofNat later - UInt8.ofNat earlier).toNat = (later - earlier) % 256 := by
    simp only [UInt8.toNat_sub, UInt8.toNat_ofNat']
    omega
  refine ⟨?_, ?_⟩
  · intro zero
    rw [zero] at distance
    simp only [UInt8.toNat_zero] at distance
    omega
  · rw [UInt8.le_iff_toNat_le, distance]
    exact bounded

/-- A frame that reaches step 8 carries its number. -/
theorem World.Reachable.counterOf_framesTo {w : World cfg}
    (reachable : World.Reachable env w) {dest : Address n} {frame : Bytes} {index : Nat}
    (member : (frame, index) ∈ framesTo dest w.history) {cfgB : Config n}
    (reaches : reachesSequence cfgB frame = true) :
    counterOf frame = UInt8.ofNat index := by
  obtain ⟨⟨sent, number⟩, kept, equal⟩ := List.mem_map.mp member
  cases equal
  have numbered := reachable.senderNumbered.numbered.counterOf_index sent number
    (List.mem_of_mem_filter kept)
  refine numbered.resolve_left fun empty => ?_
  have short : checkFrame cfgB [] = .error (.droppedMessages, none) := if_pos (by decide)
  rw [empty, reachesSequence, short] at reaches
  cases reaches

/-- The numbers of the frames to `dest` that a receiver's step 8 gets to see. -/
def judgedNumbers (cfgB : Config n) (dest : Address n) (history : History cfg) : List Nat :=
  ((framesTo dest history).filter fun sent => reachesSequence cfgB sent.1).map Prod.snd

/-- A receiver that gets its share of a sender's application frames once and in order
never judges one of them a duplicate or stale, provided that consecutive frames of the
share lie within its window, counting the frames sent elsewhere in between. -/
theorem fan_out_passes {cfgA cfgB : Config n} {envA : Env cfgA} {envB : Env cfgB}
    {sender : World cfgA} {receiver : World cfgB}
    (sending : World.Reachable envA sender) (receiving : World.Reachable envB receiver)
    (addrA addrB : Address n)
    (inOrder : (receivedFrom addrA receiver.history).reverse <+:
      (framesTo addrB sender.history).map Prod.fst)
    (spaced : (judgedNumbers cfgB addrB sender.history).IsChain (InWindow cfgB)) :
    ∀ data result, .verdict addrA data result ∈ receiver.history →
      result = .accept ∨ result = .firstSeen ∨ result = .tableFull := by
  let share := (framesTo addrB sender.history).filter fun sent => reachesSequence cfgB sent.1
  have numbers : share.IsChain fun earlier later =>
      counterOf later.1 - counterOf earlier.1 ≠ 0 ∧
        counterOf later.1 - counterOf earlier.1 ≤ cfgB.seqCounterAcceptWindow := by
    have chain : share.IsChain fun earlier later => InWindow cfgB earlier.2 later.2 :=
      (List.isChain_map Prod.snd).mp spaced
    refine chain.imp_of_mem_imp fun earlier later earlierMem laterMem inside => ?_
    have counter := fun sent (member : sent ∈ share) =>
      sending.counterOf_framesTo (List.mem_filter.mp member).1 (List.mem_filter.mp member).2
    rw [counter earlier earlierMem, counter later laterMem]
    exact inside.counters
  have judged : (judgedFrom addrA receiver.history).reverse <+: share.map Prod.fst := by
    have prefixes := inOrder.filter (reachesSequence cfgB)
    rw [List.filter_reverse, ← receiving.judgedFrom_eq, List.filter_map] at prefixes
    exact prefixes
  have chain : (judgedFrom addrA receiver.history).IsChain fun later earlier =>
      counterOf later - counterOf earlier ≠ 0 ∧
        counterOf later - counterOf earlier ≤ cfgB.seqCounterAcceptWindow := by
    have mapped := (List.isChain_map (R := fun earlier later : Bytes =>
      counterOf later - counterOf earlier ≠ 0 ∧
        counterOf later - counterOf earlier ≤ cfgB.seqCounterAcceptWindow) Prod.fst).mpr numbers
    apply List.isChain_reverse.mp
    exact List.IsChain.prefix mapped judged
  intro data result occurs
  have passing := (passes_of_chain (receiving.sequenceTracked.judged addrA) chain).1
    data result occurs
  cases result <;> simp_all [SeqResult.passes]

/-! A device sends requests, each given up before the next, to two others; one of them
receives its share. -/

def requestMoves (nowMs : UInt32) (dest : Address 8) : List (Move embeddedConfig) :=
  [.api (.request (some dest) 0x1000 1 (.bytes []) false 100 nowMs),
    .housekeeping (nowMs + 200)]

/-- The sender after requests to these destinations. -/
def requester (destinations : List (Address 8)) : World embeddedConfig :=
  World.run (.benign _) (destinations.flatMap (requestMoves 0)) (World.initial _ 1)

/-- A receiver to which its share has been delivered. -/
def shareReceiver (dest : Address 8) (sender : World embeddedConfig) : World embeddedConfig :=
  World.run (.benign _)
    ((framesTo dest sender.history).map fun sent => .deliver (Address.filled 8 1) sent.1 0)
    (World.initial _ 2)

theorem requester_reachable (destinations : List (Address 8)) :
    World.Reachable (.benign _) (requester destinations) :=
  ⟨1, _, rfl⟩

theorem shareReceiver_reachable (dest : Address 8) (sender : World embeddedConfig) :
    World.Reachable (.benign _) (shareReceiver dest sender) :=
  ⟨2, _, rfl⟩

theorem fan_out_passes_two :
    let sender := requester [Address.filled 8 2, Address.filled 8 3, Address.filled 8 2]
    let receiver := shareReceiver (Address.filled 8 2) sender
    (judgedFrom (Address.filled 8 1) receiver.history).length = 2 ∧
      ∀ data result, .verdict (Address.filled 8 1) data result ∈ receiver.history →
        result = .accept ∨ result = .firstSeen ∨ result = .tableFull :=
  ⟨by decide +kernel, fan_out_passes
    (requester_reachable [Address.filled 8 2, Address.filled 8 3, Address.filled 8 2])
    (shareReceiver_reachable _ _) (Address.filled 8 1) (Address.filled 8 2)
    (by decide +kernel) (by decide +kernel)⟩

/-- With 16 frames sent elsewhere in between, the second frame of the share is stale. -/
theorem fan_out_stale :
    let sender := requester
      (Address.filled 8 2 :: List.replicate 16 (Address.filled 8 3) ++ [Address.filled 8 2])
    let receiver := shareReceiver (Address.filled 8 2) sender
    World.Reachable (.benign _) sender ∧ World.Reachable (.benign _) receiver ∧
      (receivedFrom (Address.filled 8 1) receiver.history).reverse =
        (framesTo (Address.filled 8 2) sender.history).map Prod.fst ∧
      (receiver.history.any fun
        | .verdict source _ .stale => source == Address.filled 8 1
        | _ => false) = true :=
  ⟨requester_reachable _, shareReceiver_reachable _ _, by decide +kernel,
    by decide +kernel⟩

end Sero
