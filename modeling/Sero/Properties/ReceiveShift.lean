import Sero.Properties.CallShift

/-!
# Receiving on a shifted clock

The same datagram passes the same checks on both clocks and is handled alike.  The built-in
service shows the clock in the stamps of trouble codes; other handlers answer the same, and
their replies are the same where the answer has been written whole.
-/

namespace Sero

open Library ServiceDiscovery

variable {n : Nat} {cfg : Config n} {offset : UInt32}

/-! ## Answers -/

theorem dtcReply_length (dtcs : List Dtc) : (dtcReply dtcs).length = 2 + 16 * dtcs.length := by
  have records : (dtcs.map DiagnosticsService.dtcRecord).flatten.length = 16 * dtcs.length := by
    induction dtcs with
    | nil => rfl
    | cons dtc rest ih =>
        have record : (DiagnosticsService.dtcRecord dtc).length = 16 := rfl
        rw [List.map_cons, List.flatten_cons, List.length_append, ih, record, List.length_cons,
          Nat.mul_succ, Nat.add_comm]
  rw [dtcReply, List.length_append, writeU16_length, records]

theorem dtcReply_length_shift (dtcs : List Dtc) :
    (dtcReply (dtcs.map (Dtc.shift offset))).length = (dtcReply dtcs).length := by
  rw [dtcReply_length, dtcReply_length, List.length_map]

/-- What a request is answered with on both clocks. -/
inductive Answer.Later (offset : UInt32) (serviceId methodId : UInt16) :
    Answer → Answer → Prop where
  | same (answer : Answer) : Answer.Later offset serviceId methodId answer answer
  | dtcs (code : ReturnCode) (service : serviceId = diagServiceId)
      (method : methodId = 0x0001) (dtcs : List Dtc) :
      Answer.Later offset serviceId methodId
        { code, responseLength := (dtcReply dtcs).length, writes := [(0, dtcReply dtcs)] }
        { code
          responseLength := (dtcReply dtcs).length
          writes := [(0, dtcReply (dtcs.map (Dtc.shift offset)))] }

/-- The built-in service reports what it has written. -/
theorem DiagResult.Later.answer {serviceId methodId : UInt16} {result later : DiagResult cfg}
    (alike : result.Later offset methodId later)
    (reported : result.written.length = result.responseLength)
    (service : serviceId = diagServiceId) :
    Answer.Later offset serviceId methodId
      { code := result.code
        responseLength := result.responseLength
        writes := [(0, result.written)] }
      { code := later.code
        responseLength := later.responseLength
        writes := [(0, later.written)] } := by
  have written := alike.written
  rw [alike.code, alike.responseLength, ← reported]
  revert written
  generalize result.written = before
  generalize later.written = after
  intro written
  cases written with
  | same => exact .same _
  | dtcs method dtcs => exact .dtcs result.code service method dtcs

/-- The handler reports a byte it has not written, and the reply is built around it. -/
def Answer.Short (cfg : Config n) (answer : Answer) : Prop :=
  answer.code = .eOk ∧ answer.responseLength ≤ cfg.maxPayloadSize ∧
    ∃ index < answer.responseLength, ¬answer.writes.Covers index

/-- Replies to the same request, built around related answers. -/
theorem builtFrame_answer {rt later : Runtime cfg}
    (keys : later.authenticator = rt.authenticator) {hdr : MessageHeader}
    {answer laterAnswer : Answer}
    (alike : Answer.Later offset hdr.serviceId hdr.methodEventId answer laterAnswer)
    (isOk : answer.code = .eOk) (whole : ¬answer.Short cfg)
    (buffer laterBuffer : Buffer cfg.maxPayloadSize) (auth : Bool) (peer : Address n) :
    FrameLater cfg offset
      (rt.builtFrame hdr (some (buffer.writeAll answer.writes).bytes) answer.responseLength
        auth peer)
      (later.builtFrame hdr (some (laterBuffer.writeAll laterAnswer.writes).bytes)
        laterAnswer.responseLength auth peer) := by
  by_cases fits : answer.responseLength ≤ cfg.maxPayloadSize
  · have length := (buffer.writeAll answer.writes).length_eq
    have laterLength := (laterBuffer.writeAll laterAnswer.writes).length_eq
    rw [Runtime.builtFrame_some _ _ _ _ fits (fits.trans_eq length.symm)]
    cases alike with
    | same answer =>
        have covered : ∀ index < answer.responseLength, answer.writes.Covers index := by
          intro index below
          by_contra uncovered
          exact whole ⟨isOk, fits, index, below, uncovered⟩
        have taken := (buffer.take_writeAll_eq_iff laterBuffer answer.writes fits).mpr
          fun index below => .inl (covered index below)
        rw [Runtime.builtFrame_some _ _ _ _ fits (fits.trans_eq laterLength.symm), taken,
          Runtime.frameAround_congr keys]
        exact .same _
    | dtcs code service method dtcs =>
        have laterWritten := @dtcReply_length_shift offset dtcs
        rw [Runtime.builtFrame_some _ _ _ _ fits (fits.trans_eq laterLength.symm),
          Runtime.frameAround_congr keys]
        dsimp only at fits ⊢
        rw [Buffer.take_writeAll_start buffer fits, ← laterWritten,
          Buffer.take_writeAll_start laterBuffer (laterWritten.trans_le fits)]
        exact .dtcs rt service method dtcs auth peer
  · have long := Nat.not_le.mp fits
    have same : laterAnswer.responseLength = answer.responseLength := by
      cases alike <;> rfl
    rw [Runtime.builtFrame_oversized _ _ _ _ _ long,
      Runtime.builtFrame_oversized _ _ _ _ _ (same ▸ long)]
    exact .same _

namespace World.Later

section Validation

variable {w later : World cfg} (shifted : World.Later offset w later)
include shifted

theorem sequenceVerdict (source : Address n) (data : Bytes) (sequenceCounter : UInt8) :
    ReturnsLater offset (w.sequenceVerdict source data sequenceCounter)
      (later.sequenceVerdict source data sequenceCounter) := by
  have judged : World.Later offset
      { w with rt := { w.rt with
        e2e := (w.rt.e2e.validateSequence source sequenceCounter).2 } }
      { later with rt := { later.rt with
        e2e := (w.rt.e2e.validateSequence source sequenceCounter).2 } } :=
    { shifted with rt := { shifted.rt with e2e := rfl } }
  rw [World.sequenceVerdict, World.sequenceVerdict, shifted.rt.e2e]
  exact ⟨rfl, judged.emitSame (.verdict source data _)⟩

theorem checkSequence (source : Address n) (data : Bytes) (hdr : MessageHeader) :
    ReturnsLater offset (w.checkSequence source data hdr)
      (later.checkSequence source data hdr) := by
  rw [World.checkSequence, World.checkSequence]
  split
  · exact ⟨rfl, shifted⟩
  · obtain ⟨result, first, second, left, right, judged⟩ :=
      (shifted.sequenceVerdict source data hdr.sequenceCounter).elim
    rw [left, right]
    cases result with
    | duplicate => exact ⟨rfl, judged.increment .duplicateMessages _⟩
    | stale => exact ⟨rfl, judged.increment .staleMessages _⟩
    | accept | firstSeen => exact ⟨rfl, judged⟩
    | tableFull => exact ⟨rfl, judged.increment .droppedMessages _⟩

theorem checkAuth (source : Address n) (data : Bytes) (hdr : MessageHeader) :
    later.checkAuth source data hdr = w.checkAuth source data hdr := by
  rw [World.checkAuth, World.checkAuth, shifted.rt.authenticator, shifted.rt.dispatcher]

theorem validate (source : Address n) (data : Bytes) :
    ReturnsLater offset (w.validate source data) (later.validate source data) := by
  have received := shifted.emitSame (.received source data)
  rw [World.validate, World.validate]
  cases checkFrame cfg data with
  | error failure => exact ⟨rfl, received.increment failure.1 failure.2⟩
  | ok hdr =>
      obtain ⟨proceed, first, second, left, right, sequenced⟩ :=
        (received.checkSequence source data hdr).elim
      dsimp only
      rw [left, right]
      cases proceed with
      | false => exact ⟨rfl, sequenced⟩
      | true =>
          dsimp only
          rw [sequenced.checkAuth]
          split
          · exact ⟨rfl, sequenced.emitSame (.dispatched source data)⟩
          · exact ⟨rfl, sequenced.increment .authFailures _⟩

end Validation

/-! ## Requests -/

section Handlers

variable {env laterEnv : Env cfg} (replays : Env.Replays offset env laterEnv)
variable {w later : World cfg} (shifted : World.Later offset w later)
include replays shifted

theorem isReady : later.isReady laterEnv = w.isReady env := by
  funext context
  cases context with
  | application context => exact replays.isReady shifted.history context
  | diagnostics => exact congrArg DiagnosticsService.wired shifted.rt.diagService

/-- A handler answers the same, but for the stamps of trouble codes. -/
theorem callHandler {serviceId : UInt16} {entry : ServiceEntry}
    (found : w.rt.dispatcher.find serviceId = some entry) (methodId : UInt16)
    (payload : Bytes) (capacity : Option Nat) :
    let outcome := w.callHandler env entry methodId payload capacity
    let laterOutcome := later.callHandler laterEnv entry methodId payload capacity
    Answer.Later offset serviceId methodId
        { code := outcome.1.code
          responseLength := outcome.1.responseLength
          writes := outcome.1.writes }
        { code := laterOutcome.1.code
          responseLength := laterOutcome.1.responseLength
          writes := laterOutcome.1.writes } ∧
      World.Later offset outcome.2 laterOutcome.2 := by
  have keys : Event.Later offset
      (.onRequest entry w.rt.authenticator methodId payload capacity)
      (.onRequest entry later.rt.authenticator methodId payload capacity) := by
    rw [shifted.rt.authenticator]
    exact .same _
  have entered := shifted.emit keys
  simp only [World.callHandler]
  cases context : entry.context with
  | application context =>
      simp only [replays.onRequest entered.history, replays.handlersNoCalls, Script.run]
      exact ⟨.same _, entered⟩
  | diagnostics =>
      let isReady := (w.emit (.onRequest entry w.rt.authenticator methodId payload
        capacity)).isReady env
      have answered := DiagnosticsService.onRequest_shift offset w.rt.dtcStore
        w.rt.diagService w.rt.diag w.rt.dispatcher isReady w.rt.uptimeMs methodId payload
        (capacity.getD 0)
      have reported := DiagnosticsService.onRequest_written_length w.rt.diagService w.rt.diag
        w.rt.dispatcher isReady w.rt.uptimeMs methodId payload (capacity.getD 0) w.rt.dtcStore
      have service : serviceId = diagServiceId := by
        rw [← MethodDispatcher.find_serviceId found]
        exact shifted.builtIn entry (List.mem_of_find?_eq_some found) context
      have replayed : later.rt.diagService.onRequest later.rt.diag later.rt.dispatcher
          ((later.emit (.onRequest entry later.rt.authenticator methodId payload
            capacity)).isReady laterEnv) later.rt.uptimeMs methodId payload (capacity.getD 0)
          later.rt.dtcStore =
          w.rt.diagService.onRequest w.rt.diag w.rt.dispatcher isReady w.rt.uptimeMs methodId
            payload (capacity.getD 0) (w.rt.dtcStore.shift offset) := by
        rw [entered.isReady replays, shifted.rt.diagService, shifted.rt.diag,
          shifted.rt.dispatcher, shifted.rt.uptimeMs, shifted.rt.dtcStore]
      rw [← replayed] at answered
      exact ⟨answered.answer reported service, entered.setDtcStore answered.dtcStore⟩

theorem answer (serviceId methodId : UInt16) (payload : Bytes) :
    let outcome := w.answer env serviceId methodId payload
    let laterOutcome := later.answer laterEnv serviceId methodId payload
    Answer.Later offset serviceId methodId outcome.1 laterOutcome.1 ∧
      World.Later offset outcome.2 laterOutcome.2 := by
  rw [World.answer, World.answer, shifted.rt.dispatcher]
  cases found : w.rt.dispatcher.find serviceId with
  | none => exact ⟨.same _, shifted⟩
  | some entry =>
      simp only [shifted.isReady replays]
      split
      · exact shifted.callHandler replays found methodId payload (some cfg.maxPayloadSize)
      · exact ⟨.same _, shifted⟩

theorem sendReply (source : Address n) (hdr : MessageHeader) (payload : Bytes)
    (rc : ReturnCode) (responseLength : Nat)
    (frames : rc = .eOk → ∀ auth sequenceCounter,
      let reply :=
        { makeReplyHeader hdr rc responseLength auth with sequenceCounter }
      FrameLater cfg offset
        (w.rt.builtFrame reply (some w.rt.responseBuffer.bytes) responseLength auth source)
        (later.rt.builtFrame reply (some later.rt.responseBuffer.bytes) responseLength auth
          source)) :
    World.Later offset (w.sendReply env source hdr payload rc responseLength)
      (later.sendReply laterEnv source hdr payload rc responseLength) := by
  have executed := shifted.emit (.executed source hdr.requestId hdr.serviceId
    hdr.methodEventId payload rc (responseOf w.rt rc responseLength)
    (responseOf later.rt rc responseLength))
  rw [World.sendReply, World.sendReply]
  dsimp only [World.emit_rt]
  rw [shifted.shouldAuthOutgoing]
  by_cases isOk : rc = .eOk
  · simp only [if_pos isOk]
    obtain ⟨ok, first, second, left, right, sent⟩ :=
      (executed.transmit replays .reply source _ _ (frames isOk _)).elim
    rw [left, right]
    exact sent.countRefusal ok
  · simp only [if_neg isOk]
    have empty : ¬(Payload.null 0).Missing cfg := by
      rintro ⟨_, positive, _⟩
      exact Nat.lt_irrefl 0 positive
    obtain ⟨ok, first, second, left, right, sent⟩ :=
      (executed.transmitPayload replays .reply source _ empty _).elim
    dsimp only [Payload.data, Payload.length] at left right
    rw [left, right]
    exact sent.countRefusal ok

/-- The reply shows what the answer shows. -/
theorem handleRequest (source : Address n) (hdr : MessageHeader) (payload : Bytes)
    (whole : ¬(w.answer env hdr.serviceId hdr.methodEventId payload).1.Short cfg) :
    World.Later offset (w.handleRequest env source hdr payload)
      (later.handleRequest laterEnv source hdr payload) := by
  obtain ⟨alike, answered⟩ := shifted.answer replays hdr.serviceId hdr.methodEventId payload
  rw [World.handleRequest, World.handleRequest, dispatch_eq_answer, dispatch_eq_answer]
  revert alike answered whole
  generalize w.answer env hdr.serviceId hdr.methodEventId payload = outcome
  generalize later.answer laterEnv hdr.serviceId hdr.methodEventId payload = laterOutcome
  intro whole alike answered
  obtain ⟨answer, first⟩ := outcome
  obtain ⟨laterAnswer, second⟩ := laterOutcome
  have written : World.Later offset
      { first with rt := { first.rt with
        responseBuffer := first.rt.responseBuffer.writeAll answer.writes } }
      { second with rt := { second.rt with
        responseBuffer := second.rt.responseBuffer.writeAll laterAnswer.writes } } :=
    { answered with rt := { answered.rt with } }
  have same : laterAnswer.code = answer.code ∧
      laterAnswer.responseLength = answer.responseLength := by
    cases alike <;> exact ⟨rfl, rfl⟩
  dsimp only at alike whole ⊢
  rw [same.1, same.2]
  apply written.sendReply replays
  intro isOk auth sequenceCounter
  have frames := @builtFrame_answer _ _ offset _ _ written.rt.authenticator
    { makeReplyHeader hdr answer.code answer.responseLength auth with sequenceCounter } _ _
    alike isOk whole first.rt.responseBuffer second.rt.responseBuffer auth source
  rw [same.2] at frames
  exact frames

theorem handleFireAndForget (hdr : MessageHeader) (payload : Bytes) :
    World.Later offset (w.handleFireAndForget env hdr payload)
      (later.handleFireAndForget laterEnv hdr payload) := by
  rw [World.handleFireAndForget, World.handleFireAndForget, shifted.rt.dispatcher]
  cases found : w.rt.dispatcher.find hdr.serviceId with
  | none => exact shifted.increment .droppedMessages none
  | some entry =>
      dsimp only
      rw [shifted.isReady replays]
      split
      · exact (shifted.callHandler replays found hdr.methodEventId payload none).2
      · exact shifted

theorem handleNotification (hdr : MessageHeader) (payload : Bytes) :
    World.Later offset (w.handleNotification env hdr payload)
      (later.handleNotification laterEnv hdr payload) := by
  have handlers : later.findEventHandler hdr.serviceId hdr.methodEventId =
      w.findEventHandler hdr.serviceId hdr.methodEventId := by
    rw [findEventHandler, findEventHandler, shifted.rt.eventHandlers]
  rw [World.handleNotification, World.handleNotification, handlers]
  cases w.findEventHandler hdr.serviceId hdr.methodEventId with
  | none => exact shifted
  | some entry => exact shifted.callback replays _

/-! ## Discovery -/

theorem callServiceFound (serviceId : UInt16) (provider : Address n) :
    World.Later offset (callServiceFound sdLens (sdHooks env) serviceId provider w)
      (callServiceFound sdLens (sdHooks laterEnv) serviceId provider later) := by
  rw [ServiceDiscovery.callServiceFound, ServiceDiscovery.callServiceFound, sdLens_get,
    sdLens_get, shifted.rt.sd.callbacks]
  split
  · exact shifted.callback replays (.serviceFound serviceId provider)
  · exact shifted

theorem callServiceLost (serviceId : UInt16) :
    World.Later offset (callServiceLost sdLens (sdHooks env) serviceId w)
      (callServiceLost sdLens (sdHooks laterEnv) serviceId later) := by
  rw [ServiceDiscovery.callServiceLost, ServiceDiscovery.callServiceLost, sdLens_get,
    sdLens_get, shifted.rt.sd.callbacks]
  split
  · exact shifted.callback replays (.serviceLost serviceId)
  · exact shifted

omit replays shifted in
/-- A callback that makes no calls leaves the runtime alone. -/
theorem callServiceLost_rt (noCalls : ∀ history, env.react history = .done)
    (serviceId : UInt16) (w : World cfg) :
    (ServiceDiscovery.callServiceLost sdLens (sdHooks env) serviceId w).rt = w.rt := by
  rw [ServiceDiscovery.callServiceLost]
  split
  · change (World.callback env (.serviceLost serviceId) w).rt = w.rt
    rw [World.callback, World.react, noCalls]
    rfl
  · rfl

theorem sdHandleOffer (offer : SdPayload.Offer n) (nowMs : UInt32) :
    World.Later offset
      (ServiceDiscovery.handleOffer sdLens (sdHooks env) offer.serviceId offer.majorVersion
        offer.ttlSeconds offer.sessionId offer.providerAddr nowMs w)
      (ServiceDiscovery.handleOffer sdLens (sdHooks laterEnv) offer.serviceId
        offer.majorVersion offer.ttlSeconds offer.sessionId offer.providerAddr
        (nowMs + offset) later) := by
  have recorded := shifted.setSd (shifted.rt.sd.recordOffer offer.serviceId
    offer.ttlSeconds offer.sessionId offer.providerAddr nowMs)
  have marked := shifted.rt.sd.recordFound offer.serviceId offer.ttlSeconds offer.sessionId
    offer.providerAddr nowMs
  have consumers := shifted.rt.sd.findConsumer offer.serviceId
  simp only [ServiceDiscovery.handleOffer, sdLens_get, sdLens_modify]
  split
  · exact shifted
  · revert consumers
    generalize w.rt.sd.findConsumer offer.serviceId = known
    generalize later.rt.sd.findConsumer offer.serviceId = laterKnown
    intro consumers
    cases consumers with
    | none => exact shifted
    | some entries =>
        obtain ⟨ttlExpiryMs, rfl, _⟩ := entries
        dsimp only
        split
        · exact shifted
        · split
          · -- The entry is marked as found with the lease recorded before the callback.
            have kept := @callServiceLost_rt _ _ _ fun history => (replays.noCalls history).1
            have laterKept := @callServiceLost_rt _ _ _ fun history => (replays.noCalls history).2
            have lost := recorded.callServiceLost replays offer.serviceId
            have found := lost.setSd marked
            rw [kept, laterKept] at found ⊢
            have called := found.callServiceFound replays offer.serviceId offer.providerAddr
            exact called.setSd (called.rt.sd.flagResubscribe offer.serviceId nowMs)
          · split
            · have found := recorded.setSd marked
              have flagged := found.setSd (found.rt.sd.flagResubscribe offer.serviceId nowMs)
              exact flagged.callServiceFound replays offer.serviceId offer.providerAddr
            · split
              · have flagged := recorded.setSd
                  (recorded.rt.sd.flagResubscribe offer.serviceId nowMs)
                exact flagged.callServiceFound replays offer.serviceId offer.providerAddr
              · exact recorded

theorem handleOffer (offer : SdPayload.Offer n) (nowMs : UInt32) :
    World.Later offset (w.handleOffer env offer nowMs)
      (later.handleOffer laterEnv offer (nowMs + offset)) := by
  rw [World.handleOffer, World.handleOffer, shifted.rt.sd.detectReboot]
  split
  · exact (shifted.resetPeer offer.providerAddr).sdHandleOffer replays offer nowMs
  · exact shifted.sdHandleOffer replays offer nowMs

theorem handleFind (source : Address n) (serviceId : UInt16) :
    World.Later offset (w.handleFind env source serviceId)
      (later.handleFind laterEnv source serviceId) := by
  have reset := shifted.resetPeer source
  refine reset.foldl ?_ (reset.rt.sd.handleFind serviceId)
  intro first second message laterMessage worlds alike
  exact worlds.sendSdUnicast replays source alike

omit replays shifted in
/-- The acknowledgement does not depend on what the buffer held. -/
theorem handleSubscribeRequest_eq (source : Address n) (hdr : MessageHeader)
    (request : SdPayload.Subscribe) (nowMs : UInt32) (w : World cfg) :
    w.handleSubscribeRequest env source hdr request nowMs =
      let subscribed := w.rt.eventManager.subscribe request.serviceId request.eventId
        hdr.clientId source request.ttlSeconds nowMs
      let grantedTtl :=
        if subscribed.1 = .eOk then
          if request.ttlSeconds > 0 then request.ttlSeconds else cfg.subscriptionTtlSeconds
        else 0
      let frame := messageFrame (ackHeader w.rt subscribed.1)
        (SdPayload.serializeSubscribe request.serviceId request.eventId grantedTtl) []
      let ok := env.sendOk w.history source frame
      World.countRefusal ok (World.emit (.sent .sd source frame ok)
        { w with rt := { w.rt with
          eventManager := subscribed.2
          txBuffer := (ackFrame w.rt subscribed.1 request.serviceId request.eventId
            grantedTtl).1
          sdSeq := w.rt.sdSeq + 1 } }) := by
  rw [World.handleSubscribeRequest]
  dsimp only
  rw [ackFrame_eq]

theorem handleSubscribeRequest (source : Address n) (hdr : MessageHeader)
    (request : SdPayload.Subscribe) (nowMs : UInt32) :
    World.Later offset (w.handleSubscribeRequest env source hdr request nowMs)
      (later.handleSubscribeRequest laterEnv source hdr request (nowMs + offset)) := by
  have header : ∀ result, ackHeader later.rt result = ackHeader w.rt result := by
    intro result
    rw [ackHeader, ackHeader, shifted.rt.clientId, shifted.rt.sdSeq]
  rw [handleSubscribeRequest_eq, handleSubscribeRequest_eq, shifted.rt.eventManager,
    EventManager.subscribe_shift]
  dsimp only [Prod.map_fst, Prod.map_snd, id_eq]
  rw [header, shifted.rt.sdSeq, replays.sendOk shifted.history source (.same _)]
  have subscribed := @setEventManager _ _ _ _ _ shifted (w.rt.eventManager.subscribe
    request.serviceId request.eventId hdr.clientId source request.ttlSeconds nowMs).2 _ rfl
  exact (subscribed.stamped _ _ (.same _)).countRefusal _

theorem handleSubscribeAck (serviceId eventId : UInt16) (result : ReturnCode)
    (grantedTtl : UInt16) :
    World.Later offset
      (ServiceDiscovery.handleSubscribeAck sdLens (sdHooks env) serviceId eventId result
        grantedTtl w)
      (ServiceDiscovery.handleSubscribeAck sdLens (sdHooks laterEnv) serviceId eventId result
        grantedTtl later) := by
  have recorded := shifted.setSd
    (shifted.rt.sd.recordAck serviceId eventId result grantedTtl)
  rw [ServiceDiscovery.handleSubscribeAck, ServiceDiscovery.handleSubscribeAck, sdLens_modify,
    sdLens_modify, sdLens_get, sdLens_get, recorded.rt.sd.callbacks]
  split
  · exact recorded.callback replays (.subscriptionAck serviceId eventId result grantedTtl)
  · exact recorded

theorem handleSdMessage (source : Address n) (hdr : MessageHeader) (payload : Bytes)
    (nowMs : UInt32) :
    World.Later offset (w.handleSdMessage env source hdr payload nowMs)
      (later.handleSdMessage laterEnv source hdr payload (nowMs + offset)) := by
  rw [World.handleSdMessage, World.handleSdMessage]
  cases SdMethod.ofId hdr.methodEventId with
  | none => exact shifted
  | some method =>
      cases method with
      | offerService =>
          cases SdPayload.deserializeOffer payload with
          | none => exact shifted
          | some offer => exact shifted.handleOffer replays offer nowMs
      | findService =>
          cases SdPayload.deserializeFind payload with
          | none => exact shifted
          | some serviceId => exact shifted.handleFind replays source serviceId
      | subscribeEvent =>
          cases SdPayload.deserializeSubscribe payload with
          | none => exact shifted
          | some request =>
              exact shifted.handleSubscribeRequest replays source hdr request nowMs
      | subscribeAck =>
          cases SdPayload.deserializeSubscribe payload with
          | none => exact shifted
          | some ack => exact shifted.handleSubscribeAck replays _ _ _ _
      | unsubscribe =>
          cases SdPayload.deserializeSubscribe payload with
          | none => exact shifted
          | some request =>
              have left := EventManager.unsubscribe_shift offset w.rt.eventManager
                request.serviceId request.eventId hdr.clientId
              rw [← shifted.rt.eventManager] at left
              exact shifted.setEventManager left

end Handlers

end World.Later

end Sero
