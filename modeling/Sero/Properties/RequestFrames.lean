import Sero.Properties.SubscriptionFrames

/-!
# Where requests and replies come from

A device sends a request frame only for a request it has issued, and a reply frame only for
an execution.  It executes only what it was asked to, and a reply reaches the callback of
the request that was given its id.  Each of these is read off the past of the event.
-/

namespace Sero

open Library

variable {n : Nat} {cfg : Config n} {env : Env cfg}

/-- The bytes an argument stands for.  Of a null pointer only the length is known. -/
def Payload.Denotes : Payload → Bytes → Prop
  | bytes data, body => body = data
  | null length, body => body.length = length

/-! ## Reading a frame -/

/-- What a receiver reads in a frame, if it is long enough to be one. -/
def Reads (frame : Bytes) (keeps : MessageHeader → Bytes → Prop) : Prop :=
  minMessageSize ≤ frame.length →
    keeps (MessageHeader.deserialize frame) (payloadOf (MessageHeader.deserialize frame) frame)

theorem Reads.checked {frame : Bytes} {keeps : MessageHeader → Bytes → Prop}
    (reads : Reads frame keeps) {hdr : MessageHeader} (checked : checkFrame cfg frame = .ok hdr) :
    keeps hdr (payloadOf hdr frame) := by
  have frameChecked := checkFrame_ok_iff.mp checked
  have header := frameChecked.header
  subst header
  apply reads
  have size := frameChecked.size
  simp only [MessageHeader.expectedSize] at size
  simp only [minMessageSize]
  omega

/-- A built message reads as what it was built from; an oversized one is no frame. -/
theorem reads_builtFrame {keeps : MessageHeader → Bytes → Prop} (rt : Runtime cfg)
    {hdr : MessageHeader} {payload : Option Bytes} {payloadLength : Nat} (auth : Bool)
    (peer : Address n)
    (kept : ∀ body tag, payloadLength ≤ cfg.maxPayloadSize → body.length = payloadLength →
      (∀ bytes, payload = some bytes → payloadLength ≤ bytes.length →
        body = bytes.take payloadLength) →
      keeps hdr (payloadOf hdr (messageFrame hdr body tag))) :
    Reads (rt.builtFrame hdr payload payloadLength auth peer) keeps := by
  intro long
  by_cases oversized : cfg.maxPayloadSize < payloadLength
  · have empty : rt.builtFrame hdr payload payloadLength auth peer = [] := by
      simp [Runtime.builtFrame, Runtime.buildMessage, oversized]
    rw [empty] at long
    cases long
  · have fits := Nat.not_lt.mp oversized
    obtain ⟨body, tag, frame, length, copied, -⟩ :=
      buildMessage_frame rt hdr payload payloadLength auth peer fits
    rw [frame, deserialize_messageFrame]
    exact kept body tag fits length copied

/-- A frame that asks for this request. -/
def CarriesRequest (requestId : UInt32) (serviceId methodId : UInt16) (payload : Payload)
    (frame : Bytes) : Prop :=
  Reads frame fun hdr body =>
    hdr.messageType = MessageType.request.toByte ∧ hdr.requestId = requestId ∧
      hdr.serviceId = serviceId ∧ hdr.methodEventId = methodId ∧ payload.Denotes body

/-- A frame that answers this request. -/
def CarriesReply (requestId : UInt32) (rc : ReturnCode) (response frame : Bytes) : Prop :=
  Reads frame fun hdr body =>
    (hdr.messageType = MessageType.response.toByte ∨
      hdr.messageType = MessageType.error.toByte) ∧
    hdr.requestId = requestId ∧ hdr.returnCode = rc.toByte ∧ body = response

/-- A frame that neither asks nor answers. -/
def OneWay (frame : Bytes) : Prop :=
  Reads frame fun hdr _ =>
    hdr.messageType = MessageType.requestNoReturn.toByte ∨
      hdr.messageType = MessageType.notification.toByte

theorem oneWay_messageFrame {hdr : MessageHeader} (body tag : Bytes)
    (type : hdr.messageType = MessageType.requestNoReturn.toByte ∨
      hdr.messageType = MessageType.notification.toByte) :
    OneWay (messageFrame hdr body tag) := by
  intro _
  rwa [deserialize_messageFrame]

theorem oneWay_builtFrame (rt : Runtime cfg) {hdr : MessageHeader} (payload : Option Bytes)
    (payloadLength : Nat) (auth : Bool) (peer : Address n)
    (type : hdr.messageType = MessageType.requestNoReturn.toByte ∨
      hdr.messageType = MessageType.notification.toByte) :
    OneWay (rt.builtFrame hdr payload payloadLength auth peer) := by
  apply reads_builtFrame
  intros
  exact type

theorem carriesRequest_builtFrame (rt sender : Runtime cfg) (serviceId methodId : UInt16)
    (payload : Payload) (requestId : UInt32) (auth : Bool) (sequenceCounter : UInt8)
    (peer : Address n) :
    CarriesRequest requestId serviceId methodId payload (rt.builtFrame
      { World.makeRequestHeader sender serviceId methodId payload.length requestId auth with
        sequenceCounter }
      payload.data payload.length auth peer) := by
  apply reads_builtFrame
  intro body tag fits length copied
  refine ⟨rfl, rfl, rfl, rfl, ?_⟩
  rw [payloadOf_messageFrame]
  · cases payload with
    | null => exact length
    | bytes data =>
        rw [copied data rfl (Nat.le_refl _)]
        exact List.take_length
  · rw [length]
    exact UInt32.toNat_ofNat_of_lt
      (Nat.lt_of_le_of_lt (fits.trans cfg.maxPayloadSize_le) (by decide))

theorem carriesReply_builtFrame (rt : Runtime cfg) (hdr : MessageHeader) (rc : ReturnCode)
    (responseLength : Nat) (auth : Bool) (sequenceCounter : UInt8) (peer : Address n) :
    CarriesReply hdr.requestId rc (World.responseOf rt rc responseLength) (rt.builtFrame
      { World.makeReplyHeader hdr rc responseLength auth with sequenceCounter }
      (if rc = .eOk then some rt.responseBuffer.bytes else none)
      (if rc = .eOk then responseLength else 0) auth peer) := by
  generalize stamped : ({ World.makeReplyHeader hdr rc responseLength auth with
    sequenceCounter } : MessageHeader) = reply
  have type : reply.messageType =
      if rc = .eOk then MessageType.response.toByte else MessageType.error.toByte := by
    rw [← stamped]
    rfl
  have requestId : reply.requestId = hdr.requestId := by
    rw [← stamped]
    rfl
  have returnCode : reply.returnCode = rc.toByte := by
    rw [← stamped]
    rfl
  have payloadLength : reply.payloadLength =
      if rc = .eOk then UInt32.ofNat responseLength else 0 := by
    rw [← stamped]
    rfl
  apply reads_builtFrame
  intro body tag fits length copied
  by_cases isOk : rc = .eOk
  · rw [if_pos isOk] at type payloadLength fits length
    have declared : reply.payloadLength.toNat = body.length := by
      rw [payloadLength, length]
      exact UInt32.toNat_ofNat_of_lt (Nat.lt_of_le_of_lt (fits.trans cfg.maxPayloadSize_le)
        (by decide))
    refine ⟨.inl type, requestId, returnCode, ?_⟩
    rw [payloadOf_messageFrame declared, World.responseOf, if_pos isOk]
    have taken := copied rt.responseBuffer.bytes (if_pos isOk)
    rw [if_pos isOk, rt.responseBuffer.length_eq] at taken
    exact taken fits
  · rw [if_neg isOk] at type payloadLength length
    have empty : body = [] := List.eq_nil_of_length_eq_zero length
    have declared : reply.payloadLength.toNat = body.length := by
      rw [payloadLength, empty]
      rfl
    refine ⟨.inr type, requestId, returnCode, ?_⟩
    rw [payloadOf_messageFrame declared, World.responseOf, if_neg isOk, empty]

/-! ## What is known when an event is observed -/

/-- What the past of an event says about it.  Discovery's frames are left out: they are
accounted for by themselves. -/
def Event.Explained : Event cfg → History cfg → Prop
  | .sent (.request handle) dest frame _, past =>
      ∃ requestId serviceId methodId payload hasCallback,
        .issued handle requestId dest serviceId methodId payload hasCallback ∈ past ∧
        CarriesRequest requestId serviceId methodId payload frame
  | .sent .reply dest frame _, past =>
      ∃ requestId serviceId methodId payload rc response,
        .executed dest requestId serviceId methodId payload rc response ∈ past ∧
        CarriesReply requestId rc response frame
  | .sent .fireAndForget _ frame _, _ => OneWay frame
  | .sent .notification _ frame _, _ => OneWay frame
  | .executed source requestId serviceId methodId payload rc response, past =>
      (∃ data hdr, .dispatched source data ∈ past ∧ checkFrame cfg data = .ok hdr ∧
        MessageType.ofByte hdr.messageType = some .request ∧ hdr.requestId = requestId ∧
        hdr.serviceId = serviceId ∧ hdr.methodEventId = methodId ∧
        payloadOf hdr data = payload) ∧
      (rc ≠ .eOk → response = [])
  | .callback (.request handle .reply rc payload), past =>
      ∃ source data hdr target serviceId methodId requested,
        .dispatched source data ∈ past ∧ checkFrame cfg data = .ok hdr ∧
        (MessageType.ofByte hdr.messageType = some .response ∨
          MessageType.ofByte hdr.messageType = some .error) ∧
        rc = ⟨hdr.returnCode⟩ ∧ payload = payloadOf hdr data ∧
        .issued handle hdr.requestId target serviceId methodId requested true ∈ past
  | _, _ => True

/-- The steps whose events have something to explain. -/
def StepKind.explains : StepKind → Bool
  | reply | submit | transmit | finish => true
  | _ => false

theorem explained_of_kind {event : Event cfg} (other : event.kind.explains = false)
    (past : History cfg) : event.Explained past := by
  cases event with
  | sent kind => cases kind <;> trivial
  | callback callback => cases callback <;> trivial
  | executed => cases other
  | _ => trivial

theorem World.finish_requestTracker (slot : Fin cfg.maxPendingRequests) (cause : Cause)
    (rc : ReturnCode) (payload : Bytes) (w : World cfg) :
    (RequestTracker.finish trackerLens (invokeRequest cause id) slot rc payload
      w).rt.requestTracker = w.rt.requestTracker.release slot := by
  rw [RequestTracker.finish]
  cases ((trackerLens.get w).entries slot).callback <;> rfl

/-- A pending entry has the id and callback of a request that was issued. -/
def PendingIssued (tracker : RequestTracker cfg Nat) (history : History cfg) : Prop :=
  ∀ slot, (tracker.entries slot).active = true →
    ∃ handle target serviceId methodId payload hasCallback,
      .issued handle (tracker.entries slot).requestId target serviceId methodId payload
        hasCallback ∈ history ∧
      (tracker.entries slot).callback = if hasCallback then some handle else none

structure RequestsExplained (w : World cfg) : Prop where
  explained : ∀ event past, (event :: past) <:+ w.history → event.Explained past
  discovery : ∀ sent ∈ w.traffic, OneWay sent.2
  pending : PendingIssued w.rt.requestTracker w.history

namespace RequestsExplained

theorem initial (clientId : UInt16) : RequestsExplained (World.initial cfg clientId) where
  explained := by
    intro event past occurs
    simp [World.initial] at occurs
  discovery := by
    intro sent member
    cases member
  pending := by
    intro slot active
    cases active

variable {before : World cfg}

theorem explained_reply (tracked : RequestsExplained before) {source : Address n} {data : Bytes}
    {hdr : MessageHeader} (accepted : .dispatched source data ∈ before.history)
    (checked : checkFrame cfg data = .ok hdr)
    (isRequest : MessageType.ofByte hdr.messageType = some .request) (rc : ReturnCode)
    (responseLength : Nat) {event : Event cfg} {past : History cfg}
    (notQuiet : event.kind ≠ .background)
    (occurs : (event :: past) <:+
      (before.sendReply env source hdr (payloadOf hdr data) rc responseLength).history) :
    event.Explained past := by
  obtain ⟨after, ok, equal, -, history⟩ :=
    World.sendReply_spec env source hdr (payloadOf hdr data) rc responseLength before
  rw [equal] at occurs
  have counted : Observes .background after (World.countRefusal ok after) :=
    (World.countRefusal_core ok after).history
  have observed := counted.earlier occurs notQuiet notQuiet
  rw [history] at observed
  rcases List.suffix_cons_iff.mp observed with sent | observed
  · cases sent
    exact ⟨_, _, _, _, rc, _, .head _,
      carriesReply_builtFrame before.rt hdr rc responseLength _ _ _⟩
  · rcases List.suffix_cons_iff.mp observed with executed | earlier
    · cases executed
      constructor
      · exact ⟨data, hdr, accepted, checked, isRequest, rfl, rfl, rfl, rfl⟩
      · intro failed
        rw [World.responseOf, if_neg failed]
    · exact tracked.explained event past earlier

theorem explained_finish (tracked : RequestsExplained before)
    {slot : Fin cfg.maxPendingRequests} {cause : Cause} {rc : ReturnCode} {payload : Bytes}
    (active : (before.rt.requestTracker.entries slot).active = true)
    (reason : Finishes before slot cause rc payload) {event : Event cfg} {past : History cfg}
    (occurs : (event :: past) <:+ (RequestTracker.finish World.trackerLens
      (World.invokeRequest cause id) slot rc payload before).history) :
    event.Explained past := by
  rw [RequestTracker.finish, World.trackerLens_get] at occurs
  cases held : (before.rt.requestTracker.entries slot).callback with
  | none =>
      rw [held] at occurs
      exact tracked.explained event past occurs
  | some handle =>
      rw [held] at occurs
      rcases List.suffix_cons_iff.mp occurs with called | earlier
      · cases called
        cases reason with
        | timeout | sendFailed => trivial
        | @reply source data hdr accepted _ type requestId =>
            obtain ⟨owner, target, serviceId, methodId, requested, hasCallback, issued, callback⟩ :=
              tracked.pending slot active
            rw [held] at callback
            cases hasCallback with
            | false => cases callback
            | true =>
                cases callback
                rw [requestId] at issued
                exact ⟨source, data, hdr, target, serviceId, methodId, requested,
                  List.mem_of_mem_head? accepted.current, accepted.checked, type, rfl, rfl,
                  issued⟩
      · exact tracked.explained event past earlier

theorem explained_step {kind : StepKind} {after : World cfg} (tracked : RequestsExplained before)
    (step : Atomic env kind before after) (event : Event cfg) (past : History cfg)
    (occurs : (event :: past) <:+ after.history) : event.Explained past := by
  cases relevant : event.kind.explains with
  | false => exact explained_of_kind relevant past
  | true =>
      have notQuiet : event.kind ≠ .background := by
        intro quiet
        rw [quiet] at relevant
        cases relevant
      by_cases own : event.kind = kind
      · rw [own] at relevant
        cases step with
        | reply accepted checked _ isRequest rc =>
            exact tracked.explained_reply accepted checked isRequest rc _ notQuiet occurs
        | finish active reason => exact tracked.explained_finish active reason occurs
        | submit target serviceId methodId payload =>
            rcases World.submit_occurs occurs with
              earlier | ⟨requestId, -, ⟨rfl, -⟩ | ⟨rt, auth, ok, rfl, rfl⟩⟩
            · exact tracked.explained event past earlier
            · trivial
            · exact ⟨_, _, _, _, _, .head _, carriesRequest_builtFrame rt before.rt _ _ _ _ _ _ _⟩
        | transmit dest payload payloadLength auth _ type =>
            rcases List.suffix_cons_iff.mp occurs with sent | earlier
            · cases sent
              rcases type with ⟨rfl, type⟩ | ⟨rfl, type⟩
              · exact oneWay_builtFrame _ payload payloadLength auth dest (.inl type)
              · exact oneWay_builtFrame _ payload payloadLength auth dest (.inr type)
            · exact tracked.explained event past earlier
        | _ => cases relevant
      · exact tracked.explained event past (step.observes.earlier occurs own notQuiet)

/-- Discovery sends requests without return only. -/
theorem discovery_step {kind : StepKind} {after : World cfg} (tracked : RequestsExplained before)
    (step : Atomic env kind before after) : ∀ sent ∈ after.traffic, OneWay sent.2 := by
  have kept : after.traffic = before.traffic → ∀ sent ∈ after.traffic, OneWay sent.2 := by
    intro same
    rw [same]
    exact tracked.discovery
  have added : ∀ dest frame, OneWay frame → after.traffic = (dest, frame) :: before.traffic →
      ∀ sent ∈ after.traffic, OneWay sent.2 := by
    intro dest frame oneWay grown sent member
    rw [grown] at member
    rcases List.mem_cons.mp member with rfl | earlier
    · exact oneWay
    · exact tracked.discovery sent earlier
  cases step with
  | background step =>
      cases step with
      | increment counter header => exact kept (World.increment_traffic counter header before)
      | storeDtcs | fillResponse | unsubscribeRequest | startCycle | evictSubscribers =>
          exact kept rfl
      | sdBroadcast message =>
          by_cases room : maxMsgSize cfg <
              (message.encode before.rt.sd.clientId).length + crcSize
          · apply kept
            rw [World.sendSdBroadcast, if_pos room]
          · exact added _ _ (oneWay_messageFrame _ _ (.inl rfl))
              (sendSdBroadcast_traffic (Nat.not_lt.mp room))
      | sdUnicast dest message =>
          by_cases room : maxMsgSize cfg <
              (message.encode before.rt.sd.clientId).length + crcSize
          · apply kept
            rw [World.sendSdUnicast, if_pos room]
          · exact added _ _ (oneWay_messageFrame _ _ (.inl rfl))
              (sendSdUnicast_traffic dest (Nat.not_lt.mp room))
      | subscribeRequest source hdr request nowMs =>
          refine added _ _ ?_ World.handleSubscribeRequest_traffic
          rw [World.ackFrame_eq]
          exact oneWay_messageFrame _ _ (.inl rfl)
  | sdWrite => exact kept rfl
  | markRenewals nowMs => exact kept (World.traffic_emit rfl _)
  | validate source data => exact kept (World.validate_traffic source data before)
  | reply => exact kept (World.sendReply_traffic ..)
  | finish => exact kept (World.finish_traffic ..)
  | submit => exact kept (World.submit_traffic ..)
  | transmit dest payload payloadLength auth _ type =>
      apply kept
      rcases type with ⟨rfl, -⟩ | ⟨rfl, -⟩ <;> rfl
  | perform isLocal => exact kept (World.apiCall_traffic id isLocal before)
  | enterHandler | callback | returned | resetPeer => exact kept rfl

/-- Issuing a request fills its entry; no other step adds one. -/
theorem pending_step {kind : StepKind} {after : World cfg} (tracked : RequestsExplained before)
    (step : Atomic env kind before after) :
    PendingIssued after.rt.requestTracker after.history := by
  have table := step.frame.requestTracker
  obtain ⟨events, history, -⟩ := step.observes
  have kept : PendingIssued before.rt.requestTracker after.history := by
    intro slot active
    obtain ⟨handle, target, serviceId, methodId, payload, hasCallback, issued, callback⟩ :=
      tracked.pending slot active
    rw [history]
    exact ⟨handle, target, serviceId, methodId, payload, hasCallback,
      List.mem_append_right events issued, callback⟩
  cases step with
  | finish =>
      rw [World.finish_requestTracker]
      intro slot active
      have same := (RequestTracker.release_active active).2
      rw [same] at active ⊢
      exact kept slot active
  | @submit handle target serviceId methodId payload hasCallback timeoutMs nowMs =>
      rcases @World.submit_spec _ _ env handle target serviceId methodId payload hasCallback
          timeoutMs nowMs before with
        ⟨-, none⟩ | ⟨requestId, tracker, ok, allocated, -, filled, -, rt, auth, observed⟩
      · rw [none] at kept ⊢
        exact kept
      · rw [filled]
        obtain ⟨-, free, entry, -, entryId, -, -, entryCallback, -, rfl⟩ :=
          RequestTracker.allocate_spec allocated
        intro slot active
        dsimp only at active ⊢
        by_cases new : slot = free
        · subst new
          rw [Function.update_self, entryId, entryCallback, observed]
          exact ⟨handle, target, serviceId, methodId, payload, hasCallback,
            .tail _ (.head _), rfl⟩
        · rw [Function.update_of_ne new] at active ⊢
          exact kept slot active
  | _ =>
      rw [table (by simp)]
      exact kept

theorem step {kind : StepKind} {after : World cfg} (tracked : RequestsExplained before)
    (step : Atomic env kind before after) : RequestsExplained after where
  explained := tracked.explained_step step
  discovery := tracked.discovery_step step
  pending := tracked.pending_step step

end RequestsExplained

theorem World.Reachable.requestsExplained {w : World cfg} (reachable : World.Reachable env w) :
    RequestsExplained w :=
  reachable.invariant RequestsExplained.initial fun _ _ _ tracked step => tracked.step step

end Sero
