import Sero.Properties.RpcAgreement
import Sero.Properties.TableOrigins

/-!
# Where frames come from

Every frame a device puts on the network has a reason in what the device had observed when it
sent the frame, and in the tables it had then: a call of its application, a datagram it
answers, or both.  What a frame tells is stated as whoever receives it reads it.
-/

namespace Sero

open Library ServiceDiscovery

variable {n : Nat} {cfg : Config n} {env : Env cfg}

/-- A frame that is this discovery message. -/
def Tells (message : SdMessage n) (frame : Bytes) : Prop :=
  Reads frame fun hdr body =>
    hdr.messageType = MessageType.requestNoReturn.toByte ∧ hdr.serviceId = sdServiceId ∧
      hdr.methodEventId = message.method.toId ∧ body = message.payload

/-- A frame that answers a subscription with this result and this lease. -/
def Grants (result : ReturnCode) (granted : SdPayload.Subscribe) (frame : Bytes) : Prop :=
  Reads frame fun hdr body =>
    hdr.messageType = MessageType.requestNoReturn.toByte ∧ hdr.serviceId = sdServiceId ∧
      hdr.methodEventId = SdMethod.subscribeAck.toId ∧ hdr.returnCode = result.toByte ∧
      body = SdPayload.serializeSubscribe granted.serviceId granted.eventId granted.ttlSeconds

/-- A frame that makes this call without waiting for an answer. -/
def CarriesCall (serviceId methodId : UInt16) (payload : Payload) (frame : Bytes) : Prop :=
  Reads frame fun hdr body =>
    hdr.messageType = MessageType.requestNoReturn.toByte ∧ hdr.serviceId = serviceId ∧
      hdr.methodEventId = methodId ∧ payload.Denotes body

/-- A frame that is about this method. -/
def Echoes (serviceId methodId : UInt16) (frame : Bytes) : Prop :=
  Reads frame fun hdr _ => hdr.serviceId = serviceId ∧ hdr.methodEventId = methodId

/-- A frame that tells of this event. -/
def CarriesEvent (serviceId eventId : UInt16) (payload : Payload) (frame : Bytes) : Prop :=
  Reads frame fun hdr body =>
    hdr.messageType = MessageType.notification.toByte ∧ hdr.serviceId = serviceId ∧
      hdr.methodEventId = eventId ∧ payload.Denotes body

/-- The length a discovery message declares is the length of its payload. -/
theorem SdMessage.Fits.declared {message : SdMessage n} {clientId : UInt16}
    (room : message.Fits cfg clientId) (sequenceCounter : UInt8) :
    (message.header clientId sequenceCounter).payloadLength.toNat = message.payload.length := by
  have small := cfg.maxPayloadSize_le
  have size := message.encode_length clientId
  rw [SdMessage.header, UInt32.toNat_ofNat']
  apply Nat.mod_eq_of_lt
  simp only [SdMessage.Fits, maxMsgSize, headerSize, hmacSize, crcSize] at room size
  omega

theorem tells_frame {message : SdMessage n} {clientId : UInt16} (room : message.Fits cfg clientId)
    (sequenceCounter : UInt8) : Tells message (message.frame clientId sequenceCounter) := by
  intro _
  rw [SdMessage.frame, deserialize_messageFrame, payloadOf_messageFrame (room.declared _)]
  exact ⟨rfl, rfl, rfl, rfl⟩

theorem grants_ackFrame {rt : Runtime cfg} {result : ReturnCode}
    {serviceId eventId ttlSeconds : UInt16} :
    Grants result ⟨serviceId, eventId, ttlSeconds⟩
      ((World.ackFrame rt result serviceId eventId ttlSeconds).1.bytes.take
        (World.ackFrame rt result serviceId eventId ttlSeconds).2) := by
  intro _
  rw [World.ackFrame_eq, deserialize_messageFrame, payloadOf_serializeSubscribe rfl]
  exact ⟨rfl, rfl, rfl, rfl, rfl⟩

/-- A built payload is what the argument stands for. -/
theorem denotes_body {hdr : MessageHeader} {payload : Payload} {body tag : Bytes}
    (declared : hdr.payloadLength = UInt32.ofNat payload.length)
    (fits : payload.length ≤ cfg.maxPayloadSize) (length : body.length = payload.length)
    (copied : ∀ bytes, payload.data = some bytes → payload.length ≤ bytes.length →
      body = bytes.take payload.length) :
    payload.Denotes (payloadOf hdr (messageFrame hdr body tag)) := by
  rw [payloadOf_messageFrame]
  · cases payload with
    | null => exact length
    | bytes data =>
        rw [copied data rfl (Nat.le_refl _)]
        exact List.take_length
  · rw [length, declared]
    exact UInt32.toNat_ofNat_of_lt (Nat.lt_of_le_of_lt (fits.trans cfg.maxPayloadSize_le)
      (by decide))

/-! ## Reasons for frames -/

/-- The application has told the device that it is at this address, or has told it nothing. -/
def LocatedAt (history : History cfg) (addr : Address n) : Prop :=
  addr = Address.zero n ∨ .returned (.setLocalAddress addr) .unit ∈ history

/-- A device at this address has searched for the service, or for all there are. -/
def SearchedBy (history : History cfg) (asker : Address n) (serviceId : UInt16) : Prop :=
  ∃ data wanted, .dispatched asker data ∈ history ∧
    heard cfg asker data = some (.find asker wanted) ∧ (wanted = 0xFFFF ∨ wanted = serviceId)

/-- When this much had been observed, the call was being made: what follows are its frames and
what is counted of them, and then its return. -/
def Calling (whole past : History cfg) (call : ApiCall cfg) (result : ApiResult) : Prop :=
  ∃ during, (.returned call result :: (during ++ past)) <:+ whole ∧
    ∀ event ∈ during, event.kind = .transmit ∨ event.kind = .background

/-- Why a device that has observed so much and has these tables sends a discovery frame to an
address, or to everyone. -/
inductive SdOrigin (sd : ServiceDiscovery cfg) (past : History cfg) :
    Option (Address n) → Bytes → Prop where
  | offer {dest : Option (Address n)} {entry : ProviderEntry} {addr : Address n} {frame : Bytes}
      (listed : entry ∈ sd.providers) (onOffer : entry.state = .offered)
      (offered : OfferedBy past entry) (located : LocatedAt past addr)
      (asked : ∀ asker ∈ dest, SearchedBy past asker entry.serviceId)
      (tells : Tells (ProviderEntry.offerMessage entry addr) frame) : SdOrigin sd past dest frame
  | find {entry : ConsumerEntry n} {frame : Bytes} (listed : entry ∈ sd.consumers)
      (searching : entry.state = .searching) (sought : SoughtBy past entry)
      (tells : Tells (.find entry.serviceId : SdMessage n) frame) : SdOrigin sd past none frame
  | subscribe {tracker : SubTracker} {provider : Address n} {frame : Bytes}
      (listed : tracker ∈ sd.subTrackers) (stays : tracker.needsUnsubscribe = false)
      (wanted : WantedBy past tracker) (announced : Announced past tracker.serviceId provider)
      (tells : Tells (.subscribeEvent tracker.serviceId tracker.eventId tracker.requestedTtl :
        SdMessage n) frame) : SdOrigin sd past (some provider) frame
  | unsubscribe {tracker : SubTracker} {provider : Address n} {frame : Bytes}
      (listed : tracker ∈ sd.subTrackers) (left : LeftBy past tracker.serviceId tracker.eventId)
      (announced : Announced past tracker.serviceId provider)
      (tells : Tells (.unsubscribe tracker.serviceId tracker.eventId : SdMessage n) frame) :
      SdOrigin sd past (some provider) frame
  | ack {subscriber : Address n} {data : Bytes} {hdr : MessageHeader}
      {request : SdPayload.Subscribe} {result : ReturnCode} {granted : UInt16} {frame : Bytes}
      (dispatched : .dispatched subscriber data ∈ past)
      (asked : heard cfg subscriber data = some (.subscribe subscriber hdr request))
      (registered : result = .eOk →
        .returned (.registerEvent request.serviceId request.eventId) (.bool true) ∈ past)
      (grants : Grants result ⟨request.serviceId, request.eventId, granted⟩ frame) :
      SdOrigin sd past (some subscriber) frame

/-- Why a device that has observed so much and has these tables sends a frame to an address, or
to everyone.  A call is observed as a whole when it returns. -/
inductive Origin (sd : ServiceDiscovery cfg) (whole past : History cfg) :
    Option (Address n) → Bytes → Prop where
  | discovery {dest : Option (Address n)} {frame : Bytes}
      (origin : SdOrigin sd past dest frame) : Origin sd whole past dest frame
  | request {handle : Nat} {requestId : UInt32} {dest : Address n} {serviceId methodId : UInt16}
      {payload : Payload} {hasCallback : Bool} {frame : Bytes}
      (issued : .issued handle requestId dest serviceId methodId payload hasCallback ∈ past)
      (carries : CarriesRequest requestId serviceId methodId payload frame) :
      Origin sd whole past (some dest) frame
  | reply {requestId : UInt32} {dest : Address n} {serviceId methodId : UInt16}
      {payload response : Bytes} {rc : ReturnCode} {frame : Bytes}
      (executed : .executed dest requestId serviceId methodId payload rc response ∈ past)
      (notSd : serviceId ≠ sdServiceId) (carries : CarriesReply requestId rc response frame)
      (echoes : Echoes serviceId methodId frame) : Origin sd whole past (some dest) frame
  | call {serviceId methodId : UInt16} {payload : Payload} {ok : Bool} {provider : Address n}
      {frame : Bytes}
      (calling : Calling whole past (.fireAndForget serviceId methodId payload) (.bool ok))
      (announced : Announced past serviceId provider)
      (carries : CarriesCall serviceId methodId payload frame) :
      Origin sd whole past (some provider) frame
  | event {serviceId eventId : UInt16} {payload : Payload} {subscriber : Address n}
      {frame : Bytes}
      (calling : Calling whole past (.notifyEvent serviceId eventId payload) (.bool true))
      (registered : .returned (.registerEvent serviceId eventId) (.bool true) ∈ past)
      (granted : GrantedTo past serviceId eventId subscriber)
      (carries : CarriesEvent serviceId eventId payload frame) :
      Origin sd whole past (some subscriber) frame

theorem Calling.returned {whole past : History cfg} {call : ApiCall cfg} {result : ApiResult}
    (calling : Calling whole past call result) : .returned call result ∈ whole := by
  obtain ⟨during, returns, -⟩ := calling
  exact returns.subset (.head _)

section Later

variable {past whole longer : History cfg} (grown : past <:+ longer)

include grown

theorem LocatedAt.later {addr : Address n} (located : LocatedAt past addr) :
    LocatedAt longer addr :=
  located.imp id (grown.subset ·)

theorem SearchedBy.later {asker : Address n} {serviceId : UInt16}
    (searched : SearchedBy past asker serviceId) : SearchedBy longer asker serviceId := by
  obtain ⟨data, wanted, dispatched, hears⟩ := searched
  exact ⟨data, wanted, grown.subset dispatched, hears⟩

theorem SdOrigin.later {sd : ServiceDiscovery cfg} {dest : Option (Address n)} {frame : Bytes}
    (origin : SdOrigin sd past dest frame) : SdOrigin sd longer dest frame := by
  cases origin with
  | offer listed onOffer offered located asked tells =>
      exact .offer listed onOffer (offered.later grown) (located.later grown)
        (fun asker member => (asked asker member).later grown) tells
  | find listed searching sought tells =>
      exact .find listed searching (sought.later grown) tells
  | subscribe listed stays wanted announced tells =>
      exact .subscribe listed stays (wanted.later grown) (announced.later grown) tells
  | unsubscribe listed left announced tells =>
      exact .unsubscribe listed (left.later grown) (announced.later grown) tells
  | ack dispatched asked registered grants =>
      exact .ack (grown.subset dispatched) asked (fun isOk => grown.subset (registered isOk))
        grants

omit grown in
theorem Calling.later (grown : whole <:+ longer) {call : ApiCall cfg} {result : ApiResult}
    (calling : Calling whole past call result) : Calling longer past call result := by
  obtain ⟨during, returns, kinds⟩ := calling
  exact ⟨during, returns.trans grown, kinds⟩

omit grown in
/-- What is observed after a frame leaves its reason as it is. -/
theorem Origin.later (grown : whole <:+ longer) {sd : ServiceDiscovery cfg}
    {dest : Option (Address n)} {frame : Bytes} (origin : Origin sd whole past dest frame) :
    Origin sd longer past dest frame := by
  cases origin with
  | discovery origin => exact .discovery origin
  | request issued carries => exact .request issued carries
  | reply executed notSd carries echoes => exact .reply executed notSd carries echoes
  | call calling announced carries => exact .call (calling.later grown) announced carries
  | event calling registered granted carries =>
      exact .event (calling.later grown) registered granted carries

end Later

/-! ## Discovery's frames -/

section Sends

/-- What is sent on the way from one world to another, each frame for this reason. -/
def Sends (reason : Option (Address n) × Bytes → Prop) (before after : World cfg) : Prop :=
  ∃ frames, after.traffic = frames ++ before.traffic ∧ ∀ sent ∈ frames, reason sent

variable {reason : Option (Address n) × Bytes → Prop} {before after : World cfg}

theorem Sends.nothing (same : after.traffic = before.traffic) : Sends reason before after :=
  ⟨[], same, fun _ none => absurd none List.not_mem_nil⟩

theorem Sends.one {sent : Option (Address n) × Bytes}
    (added : after.traffic = sent :: before.traffic) (why : reason sent) :
    Sends reason before after := by
  refine ⟨[sent], added, fun other member => ?_⟩
  rw [List.mem_singleton.mp member]
  exact why

theorem sends_sdBroadcast (message : SdMessage n) (w : World cfg) :
    Sends (fun sent => sent.1 = none ∧ Tells message sent.2) w
      (w.sendSdBroadcast env message) := by
  by_cases room : message.Fits cfg w.rt.sd.clientId
  · exact .one (sendSdBroadcast_traffic room) ⟨rfl, tells_frame room _⟩
  · apply Sends.nothing
    rw [World.sendSdBroadcast, if_pos (Nat.not_le.mp room)]

theorem sends_sdUnicast (dest : Address n) (message : SdMessage n) (w : World cfg) :
    Sends (fun sent => sent.1 = some dest ∧ Tells message sent.2) w
      (w.sendSdUnicast env dest message) := by
  by_cases room : message.Fits cfg w.rt.sd.clientId
  · exact .one (sendSdUnicast_traffic dest room) ⟨rfl, tells_frame room _⟩
  · apply Sends.nothing
    rw [World.sendSdUnicast, if_pos (Nat.not_le.mp room)]

/-- A frame a loop has sent was sent in one of its turns. -/
theorem sends_foldl {α : Type} {body : World cfg → α → World cfg}
    {why : α → Option (Address n) × Bytes → Prop}
    (each : ∀ w item, Sends (why item) w (body w item)) (items : List α) (w : World cfg) :
    Sends (fun sent => ∃ item ∈ items, why item sent) w (items.foldl body w) := by
  induction items generalizing w with
  | nil => exact .nothing rfl
  | cons item rest ih =>
      obtain ⟨first, turn, firstWhy⟩ := each w item
      obtain ⟨frames, others, why⟩ := ih (body w item)
      refine ⟨frames ++ first, by rw [List.foldl_cons, others, turn, List.append_assoc], ?_⟩
      intro sent member
      rcases List.mem_append.mp member with later | now
      · obtain ⟨other, listed, because⟩ := why sent later
        exact ⟨other, .tail _ listed, because⟩
      · exact ⟨item, .head _, firstWhy sent now⟩

theorem Sends.weaken {other : Option (Address n) × Bytes → Prop}
    (sends : Sends reason before after) (weaker : ∀ sent, reason sent → other sent) :
    Sends other before after := by
  obtain ⟨frames, traffic, why⟩ := sends
  exact ⟨frames, traffic, fun sent member => weaker sent (why sent member)⟩

end Sends

/-- A service in state `FOUND` has been announced at its address. -/
theorem Sourced.announced {rt : Runtime cfg} {history : History cfg} (sourced : Sourced rt history)
    {serviceId : UInt16} {provider : Address n}
    (known : rt.sd.getProviderAddress serviceId = some provider) :
    Announced history serviceId provider := by
  rw [getProviderAddress] at known
  cases found : rt.sd.findConsumer serviceId with
  | none =>
      rw [found] at known
      cases known
  | some entry =>
      rw [found] at known
      have member : entry ∈ rt.sd.consumers := List.mem_of_find?_eq_some found
      have key : ConsumerEntry.serviceId entry = serviceId := Table.lookup_key found
      subst key
      dsimp only at known
      split at known
      · next isFound =>
          cases known
          exact (sourced.consumers entry member).announced isFound
      · cases known

/-- What is sent is sent for a reason the device had before. -/
abbrev Justified (before after : World cfg) : Prop :=
  Sends (fun sent => SdOrigin before.rt.sd before.history sent.1 sent.2) before after

section Deeds

variable {before after : World cfg}

/-- Offers are broadcast for the services that are offered. -/
theorem broadcastOffers_justified (sourced : Sourced before.rt before.history)
    (located : LocatedAt before.history before.rt.sd.localAddr) (nowMs : UInt32) :
    Justified before (before.broadcastOffers env nowMs) := by
  have sends : Sends (fun sent => ∃ message ∈ (before.rt.sd.processOffers nowMs).1,
      sent.1 = none ∧ Tells message sent.2) before (before.broadcastOffers env nowMs) :=
    sends_foldl (fun w message => sends_sdBroadcast message w) _ _
  refine sends.weaken ?_
  rintro ⟨dest, frame⟩ ⟨message, listed, rfl, tells⟩
  obtain ⟨entry, due, rfl⟩ := List.mem_map.mp listed
  obtain ⟨known, due⟩ := List.mem_filter.mp due
  rw [ProviderEntry.shouldSend, Bool.and_eq_true, decide_eq_true_eq] at due
  refine .offer known due.1 (sourced.providers entry known due.1) located ?_ tells
  intro asker none
  cases none

/-- A search is answered for the services that are offered. -/
theorem answerFind_justified (sourced : Sourced before.rt before.history)
    (located : LocatedAt before.history before.rt.sd.localAddr) {source : Address n}
    {data : Bytes} {serviceId : UInt16} (dispatched : .dispatched source data ∈ before.history)
    (finds : heard cfg source data = some (.find source serviceId)) :
    Justified before ((before.rt.sd.handleFind serviceId).foldl
      (fun w message => w.sendSdUnicast env source message) before) := by
  refine (sends_foldl (fun w message => sends_sdUnicast source message w) _ _).weaken ?_
  rintro ⟨dest, frame⟩ ⟨message, listed, rfl, tells⟩
  obtain ⟨entry, wanted, rfl⟩ := List.mem_map.mp listed
  obtain ⟨known, wanted⟩ := List.mem_filter.mp wanted
  simp only [Bool.and_eq_true, Bool.or_eq_true, decide_eq_true_eq, beq_iff_eq] at wanted
  refine .offer known wanted.1 (sourced.providers entry known wanted.1) located ?_ tells
  intro asker asks
  cases asks
  exact ⟨data, serviceId, dispatched, finds, wanted.2.imp id Eq.symm⟩

/-- Subscriptions are renewed and given up where an offer has told that the service is. -/
theorem renewSubscriptions_justified (sourced : Sourced before.rt before.history)
    (nowMs : UInt32) : Justified before (before.renewSubscriptions env nowMs) := by
  have marked : (before.markRenewals nowMs).traffic = before.traffic := by
    rw [World.markRenewals, World.traffic_emit rfl]
    rfl
  have sends : Sends (fun sent => ∃ send ∈ (before.rt.sd.processSubscriptionRenewals nowMs).1,
      sent.1 = some send.1 ∧ Tells send.2 sent.2) before
      (before.renewSubscriptions env nowMs) := by
    have sent : Sends _ (before.markRenewals nowMs) (before.renewSubscriptions env nowMs) :=
      sends_foldl (fun w send => sends_sdUnicast send.1 send.2 w) _ _
    rw [Sends, marked] at sent
    exact sent
  refine sends.weaken ?_
  rintro ⟨dest, frame⟩ ⟨send, listed, rfl, tells⟩
  obtain ⟨tracker, known, -, provider, message⟩ := mem_processSubscriptionRenewals listed
  have announced := sourced.announced provider
  have wanted := sourced.trackers tracker known
  rcases renewTracker_message message with ⟨leaves, isMessage⟩ | ⟨stays, isMessage⟩
  · rw [isMessage] at tells
    exact .unsubscribe known (wanted.left leaves) announced tells
  · rw [isMessage] at tells
    exact .subscribe known stays wanted announced tells

/-- A subscription is granted for an event the application has registered. -/
theorem subscribeRequest_justified (sourced : Sourced before.rt before.history)
    {source : Address n} {data : Bytes} {hdr : MessageHeader} {request : SdPayload.Subscribe}
    (dispatched : .dispatched source data ∈ before.history)
    (subscribes : heard cfg source data = some (.subscribe source hdr request))
    (nowMs : UInt32) :
    Justified before (before.handleSubscribeRequest env source hdr request nowMs) := by
  refine .one World.handleSubscribeRequest_traffic ?_
  refine .ack dispatched subscribes ?_ grants_ackFrame
  intro isOk
  rcases before.rt.eventManager.subscribe_cases request.serviceId request.eventId hdr.clientId
      source request.ttlSeconds nowMs with ⟨refused, -⟩ | ⟨slot, -, found, -⟩
  · rw [refused] at isOk
    cases isOk
  · have known := sourced.events slot (EventManager.findEvent_mem found)
    have holding := List.find?_some found
    simp only [EventManager.holds, Bool.and_eq_true, beq_iff_eq] at holding
    rw [← holding.1.2, ← holding.2]
    exact known.registered

theorem Deed.justified {kind : StepKind} (deed : Deed env kind before after)
    (sourced : Sourced before.rt before.history)
    (located : LocatedAt before.history before.rt.sd.localAddr) : Justified before after := by
  cases deed with
  | drop => exact .nothing (World.increment_traffic _ _ before)
  | validate source data => exact .nothing (World.validate_traffic source data before)
  | enterHandler | callback | returned | resetPeer => exact .nothing (World.traffic_emit rfl _)
  | reply => exact .nothing (World.sendReply_traffic ..)
  | finish => exact .nothing (World.finish_traffic ..)
  | submit => exact .nothing (World.submit_traffic ..)
  | fireAndForget | notifyEvent =>
      exact .nothing (World.perform_steps (fun _ => .refl) _ before).plainSteps.traffic
  | perform isLocal =>
      exact .nothing ((World.traffic_emit rfl _).trans (World.apiCall_traffic id isLocal before))
  | answerFind dispatched finds => exact answerFind_justified sourced located dispatched finds
  | subscribeRequest dispatched subscribes nowMs =>
      exact subscribeRequest_justified sourced dispatched subscribes nowMs
  | broadcastOffers nowMs => exact broadcastOffers_justified sourced located nowMs
  | renewSubscriptions nowMs => exact renewSubscriptions_justified sourced nowMs
  | sendFind listed searching =>
      refine (sends_sdBroadcast _ before).weaken ?_
      rintro ⟨dest, frame⟩ ⟨rfl, tells⟩
      exact .find listed searching (sourced.consumers _ listed) tells
  | _ => exact .nothing rfl

end Deeds

/-- A call sets the address, or leaves it alone. -/
theorem World.apiCall_localAddr {call : ApiCall cfg} (isLocal : call.isLocal = true)
    (w : World cfg) :
    (∃ addr, call = .setLocalAddress addr ∧
      (w.apiCall env id call).2.rt.sd.localAddr = addr) ∨
    (w.apiCall env id call).2.rt.sd.localAddr = w.rt.sd.localAddr := by
  have offered : ∀ serviceId major minor ttlSeconds nowMs,
      (w.rt.sd.offer serviceId major minor ttlSeconds nowMs).2.localAddr = w.rt.sd.localAddr := by
    intros
    rw [ServiceDiscovery.offer]
    split <;> rfl
  cases call with
  | request | fireAndForget | notifyEvent => cases isLocal
  | setLocalAddress addr => exact .inl ⟨addr, rfl, rfl⟩
  | offerService serviceId ttlSeconds nowMs =>
      right
      obtain ⟨sd, written, offer⟩ := w.offerService_rt serviceId ttlSeconds nowMs
      change (w.offerService serviceId ttlSeconds nowMs).2.rt.sd.localAddr = _
      rw [written]
      rcases offer with rfl | ⟨major, minor, rfl⟩
      · rfl
      · exact offered ..
  | enableDiagnostics nowMs authRequired =>
      right
      obtain ⟨_, _, sd, _, written, offer⟩ := w.enableDiagnostics_rt nowMs authRequired
      change (w.enableDiagnostics nowMs authRequired).2.rt.sd.localAddr = _
      rw [written]
      rcases offer with rfl | ⟨major, minor, rfl⟩
      · rfl
      · exact offered ..
  | findService serviceId majorVersion nowMs =>
      right
      change (w.rt.sd.find serviceId majorVersion nowMs).2.localAddr = _
      rw [ServiceDiscovery.find]
      split <;> rfl
  | subscribeEvent serviceId eventId context ttlSeconds nowMs =>
      right
      simp only [World.apiCall, World.subscribeEvent, World.registerEventHandler]
      cases Table.upsert (World.handlesEvent serviceId eventId)
          (fun _ => { serviceId, eventId, context }) { serviceId, eventId, context }
          (cfg.maxKnownServices * cfg.maxEvents) w.rt.eventHandlers with
      | none => rfl
      | some handlers =>
          dsimp only
          rw [ServiceDiscovery.subscribeEvent]
          split <;> rfl
  | reportDtc code severity nowMs =>
      exact .inr (congrArg ServiceDiscovery.localAddr (w.reportDtc_sd code severity nowMs))
  | _ => exact .inr rfl

theorem Deed.located {kind : StepKind} {before after : World cfg}
    (deed : Deed env kind before after)
    (located : LocatedAt before.history before.rt.sd.localAddr) :
    LocatedAt after.history after.rt.sd.localAddr := by
  have kept := located.later deed.suffix
  cases writes : kind.writes with
  | false => rwa [(deed.tables writes).sd]
  | true =>
      cases deed with
      | @perform call isLocal =>
          rcases @World.apiCall_localAddr _ _ env call isLocal before with
            ⟨addr, rfl, set⟩ | same
          · exact .inr (.head _)
          · rw [← same] at kept
            exact kept
      | subscribeRequest =>
          rwa [(World.handleSubscribeRequest_core ..).sd]
      | broadcastOffers nowMs =>
          rw [World.broadcastOffers_sd]
          exact kept
      | renewSubscriptions nowMs =>
          rw [World.renewSubscriptions_sd]
          exact kept
      | drop | storeDtcs | fillResponse | validate | enterHandler | reply | finish | callback
      | submit | returned | fireAndForget | notifyEvent | resetPeer | answerFind | startCycle
      | sendFind => cases writes
      | _ => exact kept

section Calls

variable {w : World cfg} {event : Event cfg} {past : History cfg}

/-- An occurrence of sending that follows a transmission was there before, or is the frame. -/
theorem transmit_occurs {kind : SendKind} {dest : Address n} {hdr : MessageHeader}
    {payload : Option Bytes} {payloadLength : Nat} {auth ok : Bool}
    (occurs : (event :: past) <:+ (World.countRefusal ok
      (w.transmit env kind dest hdr payload payloadLength auth).2).history)
    (transmits : event.kind = .transmit) :
    (event :: past) <:+ w.history ∨ ∃ sequenceCounter ok, event = .sent kind dest
      (w.rt.builtFrame { hdr with sequenceCounter } payload payloadLength auth dest) ok := by
  have notQuiet : event.kind ≠ .background := by
    rw [transmits]
    decide
  have sent := (World.countRefusal_core ok _).history.earlier occurs notQuiet notQuiet
  rcases List.suffix_cons_iff.mp sent with same | old
  · exact .inr ⟨_, _, (List.cons.inj same).1⟩
  · exact .inl old

theorem fireAndForget_occurs {serviceId methodId : UInt16} {payload : Payload}
    (occurs : (event :: past) <:+ (w.fireAndForget env serviceId methodId payload).2.history)
    (transmits : event.kind = .transmit) :
    (event :: past) <:+ w.history ∨
      ∃ provider frame ok, event = .sent .fireAndForget provider frame ok ∧
        w.rt.sd.getProviderAddress serviceId = some provider ∧
        CarriesCall serviceId methodId payload frame := by
  rw [World.fireAndForget] at occurs
  cases known : w.rt.sd.getProviderAddress serviceId with
  | none =>
      rw [known] at occurs
      exact .inl occurs
  | some provider =>
      rw [known] at occurs
      rcases transmit_occurs occurs transmits with old | ⟨sequenceCounter, ok, rfl⟩
      · exact .inl old
      · refine .inr ⟨provider, _, ok, rfl, rfl, reads_builtFrame _ _ _ ?_⟩
        intro body tag fits length copied
        exact ⟨rfl, rfl, rfl, denotes_body rfl fits length copied⟩

/-- The frame of an event goes to each address in turn. -/
theorem notifyEach_occurs {serviceId eventId : UInt16} {payload : Payload}
    {dests : List (Address n)}
    (occurs : (event :: past) <:+
      (dests.foldl (World.notifyOne env serviceId eventId payload) w).history)
    (transmits : event.kind = .transmit) :
    (event :: past) <:+ w.history ∨
      ∃ dest ∈ dests, ∃ frame ok, event = .sent .notification dest frame ok ∧
        CarriesEvent serviceId eventId payload frame := by
  induction dests generalizing w with
  | nil => exact .inl occurs
  | cons dest rest ih =>
      rcases ih occurs with earlier | ⟨later, listed, sent⟩
      · rcases transmit_occurs earlier transmits with old | ⟨sequenceCounter, ok, rfl⟩
        · exact .inl old
        · refine .inr ⟨dest, .head _, _, ok, rfl, reads_builtFrame _ _ _ ?_⟩
          intro body tag fits length copied
          exact ⟨rfl, rfl, rfl, denotes_body rfl fits length copied⟩
      · exact .inr ⟨later, .tail _ listed, sent⟩

theorem notifyEvent_occurs {serviceId eventId : UInt16} {payload : Payload}
    (occurs : (event :: past) <:+ (w.notifyEvent env serviceId eventId payload).2.history)
    (transmits : event.kind = .transmit) :
    (event :: past) <:+ w.history ∨ (w.notifyEvent env serviceId eventId payload).1 = true ∧
      ∃ dest ∈ w.rt.eventManager.notify serviceId eventId, ∃ frame ok,
        event = .sent .notification dest frame ok ∧
        CarriesEvent serviceId eventId payload frame := by
  rw [World.notifyEvent] at occurs ⊢
  split
  · next subscribed =>
      rw [if_pos subscribed] at occurs
      exact (notifyEach_occurs occurs transmits).imp id fun sent => ⟨rfl, sent⟩
  · next nobody =>
      rw [if_neg nobody] at occurs
      exact .inl occurs

/-- A call that sends is being made when it sends. -/
theorem calling_of_occurs {after : World cfg} (observes : Observes .transmit w after)
    {call : ApiCall cfg} {result : ApiResult}
    (occurs : (event :: past) <:+ (after.emit (.returned call result)).history)
    (transmits : event.kind = .transmit) :
    (event :: past) <:+ w.history ∨ (event :: past) <:+ after.history ∧ w.history <:+ past ∧
      Calling (after.emit (.returned call result)).history past call result := by
  rcases List.suffix_cons_iff.mp occurs with same | within
  · obtain ⟨rfl, -⟩ := List.cons.inj same
    cases call <;> cases transmits
  · obtain ⟨events, history, kinds⟩ := observes
    rw [history] at within
    rcases Runs.suffix_append_cases within with old | ⟨during, between, rfl, rfl⟩
    · exact .inl old
    · refine .inr ⟨history ▸ within, List.suffix_append _ _, during ++ [event], ?_, ?_⟩
      · rw [World.emit_history, history]
        simp
      · intro other member
        refine kinds other ?_
        simp only [List.mem_append, List.mem_cons] at member ⊢
        tauto

end Calls

/-- Who is told of an event has been granted it. -/
theorem Sourced.notified {rt : Runtime cfg} {history : History cfg} (sourced : Sourced rt history)
    {serviceId eventId : UInt16} {dest : Address n}
    (listed : dest ∈ rt.eventManager.notify serviceId eventId) :
    .returned (.registerEvent serviceId eventId) (.bool true) ∈ history ∧
      GrantedTo history serviceId eventId dest := by
  rw [EventManager.notify] at listed
  cases found : rt.eventManager.findEvent serviceId eventId with
  | none =>
      rw [found] at listed
      cases listed
  | some slot =>
      rw [found] at listed
      obtain ⟨subscriber, member, rfl⟩ := List.mem_map.mp listed
      have published := sourced.events slot (EventManager.findEvent_mem found)
      have holding := List.find?_some found
      simp only [EventManager.holds, Bool.and_eq_true, beq_iff_eq] at holding
      obtain ⟨⟨-, rfl⟩, rfl⟩ := holding
      exact ⟨published.registered, published.granted subscriber member⟩

/-! ## Every frame -/

theorem Event.outgoing_kind {event : Event cfg} {sent : Option (Address n) × Bytes}
    (outgoing : event.outgoing = some sent) :
    event.sdFrame = some sent ∨ event.kind = .reply ∨ event.kind = .submit ∨
      event.kind = .transmit := by
  cases event with
  | sent kind => cases kind <;> simp_all [Event.outgoing, Event.sdFrame, Event.kind]
  | broadcast => exact .inl outgoing
  | _ => cases outgoing

/-- What a deed sends itself. -/
theorem Deed.origin_of_own {before after : World cfg} {kind : StepKind} {event : Event cfg}
    {past : History cfg} {sent : Option (Address n) × Bytes}
    (sourced : Sourced before.rt before.history) (deed : Deed env kind before after)
    (own : event.kind = kind) (sends : kind = .reply ∨ kind = .submit ∨ kind = .transmit)
    (occurs : (event :: past) <:+ after.history) (outgoing : event.outgoing = some sent) :
    (event :: past) <:+ before.history ∨
      before.history <:+ past ∧ Origin before.rt.sd after.history past sent.1 sent.2 := by
  cases deed with
  | reply accepted checked notSd isRequest rc fits =>
      obtain ⟨answered, ok, equal, -, history⟩ := World.sendReply_spec env _ _ _ rc _ before
      rw [equal] at occurs
      have notQuiet : event.kind ≠ .background := by
        rw [own]
        decide
      have observed := (World.countRefusal_core ok answered).history.earlier occurs notQuiet
        notQuiet
      rw [history] at observed
      rcases List.suffix_cons_iff.mp observed with same | observed
      · obtain ⟨rfl, rfl⟩ := List.cons.inj same
        cases outgoing
        refine .inr ⟨List.suffix_cons _ _, .reply (.head _) notSd
          (carriesReply_builtFrame before.rt _ rc _ _ _ _) (reads_builtFrame _ _ _ ?_)⟩
        intros
        exact ⟨rfl, rfl⟩
      · rcases List.suffix_cons_iff.mp observed with same | old
        · obtain ⟨rfl, -⟩ := List.cons.inj same
          cases outgoing
        · exact .inl old
  | submit target serviceId methodId payload =>
      rcases World.submit_occurs occurs with
        old | ⟨requestId, -, ⟨rfl, -⟩ | ⟨rt, auth, ok, rfl, rfl⟩⟩
      · exact .inl old
      · cases outgoing
      · cases outgoing
        exact .inr ⟨List.suffix_cons _ _, .request (.head _)
          (carriesRequest_builtFrame rt before.rt _ _ _ _ _ _ _)⟩
  | fireAndForget serviceId methodId payload =>
      have steps := @World.fireAndForget_steps _ _ env serviceId methodId payload before
      rcases calling_of_occurs steps.observes occurs own with old | ⟨during, grown, calling⟩
      · exact .inl old
      · rcases fireAndForget_occurs during own with
          old | ⟨provider, frame, ok, rfl, known, carries⟩
        · exact .inl old
        · cases outgoing
          exact .inr ⟨grown, .call calling ((sourced.announced known).later grown) carries⟩
  | notifyEvent serviceId eventId payload =>
      have steps := @World.notifyEvent_steps _ _ env serviceId eventId payload before
      rcases calling_of_occurs steps.observes occurs own with old | ⟨during, grown, calling⟩
      · exact .inl old
      · rcases notifyEvent_occurs during own with
          old | ⟨success, dest, listed, frame, ok, rfl, carries⟩
        · exact .inl old
        · cases outgoing
          obtain ⟨registered, granted⟩ := sourced.notified listed
          have notified : Calling (before.perform env id (.notifyEvent serviceId eventId
              payload)).history past (.notifyEvent serviceId eventId payload)
              (.bool (before.notifyEvent env serviceId eventId payload).1) := calling
          rw [success] at notified
          exact .inr ⟨grown, .event notified (grown.subset registered) (granted.later grown)
            carries⟩
  | _ => simp at sends

/-- A frame is an earlier one, or is sent for a reason the device has now. -/
theorem Deed.origin {before after : World cfg} {kind : StepKind} {event : Event cfg}
    {past : History cfg} {sent : Option (Address n) × Bytes}
    (sourced : Sourced before.rt before.history)
    (located : LocatedAt before.history before.rt.sd.localAddr)
    (deed : Deed env kind before after) (occurs : (event :: past) <:+ after.history)
    (outgoing : event.outgoing = some sent) :
    (event :: past) <:+ before.history ∨
      before.history <:+ past ∧ Origin before.rt.sd after.history past sent.1 sent.2 := by
  obtain ⟨events, history, kinds⟩ := deed.observes
  rcases Event.outgoing_kind outgoing with isSd | sends
  · obtain ⟨frames, traffic, why⟩ := deed.justified sourced located
    have sentNow : events.filterMap Event.sdFrame = frames := by
      have whole : after.traffic = events.filterMap Event.sdFrame ++ before.traffic := by
        rw [World.traffic, history, List.filterMap_append]
        rfl
      exact List.append_cancel_right (whole.symm.trans traffic)
    rw [history] at occurs
    rcases Runs.suffix_append_cases occurs with old | ⟨during, between, rfl, rfl⟩
    · exact .inl old
    · have grown : before.history <:+ between ++ before.history := List.suffix_append _ _
      have member : sent ∈ frames := by
        rw [← sentNow]
        exact List.mem_filterMap.mpr ⟨event, by simp, isSd⟩
      exact .inr ⟨grown, .discovery ((why sent member).later grown)⟩
  · by_cases own : event.kind = kind
    · rw [own] at sends
      exact deed.origin_of_own sourced own sends occurs outgoing
    · refine .inl (deed.earlier occurs own ?_ ?_)
      · rintro quiet
        simp [quiet] at sends
      · rintro returned
        simp [returned] at sends

/-- A frame of the run was sent in one step, for a reason the device had when it took the step. -/
def SentForReason (env : Env cfg) (clientId : UInt16) (w : World cfg) (event : Event cfg)
    (past : History cfg) (dest : Option (Address n)) (frame : Bytes) : Prop :=
  ∃ sender after kind, Deeds env (World.initial cfg clientId) sender ∧
    Deed env kind sender after ∧ Deeds env after w ∧
    sender.history <:+ past ∧ (event :: past) <:+ after.history ∧
    Origin sender.rt.sd w.history past dest frame

theorem Deeds.located {clientId : UInt16} {w : World cfg}
    (run : Deeds env (World.initial cfg clientId) w) : LocatedAt w.history w.rt.sd.localAddr := by
  refine @Runs.invariant _ _ (fun w => LocatedAt w.history w.rt.sd.localAddr) ?_ _ _ run
    (.inl rfl)
  rintro before after located ⟨kind, deed⟩
  exact deed.located located

theorem Deeds.frames_origin {clientId : UInt16} {w : World cfg}
    (run : Deeds env (World.initial cfg clientId) w) {event : Event cfg} {past : History cfg}
    {dest : Option (Address n)} {frame : Bytes} (sent : (event :: past) <:+ w.history)
    (outgoing : event.outgoing = some (dest, frame)) :
    SentForReason env clientId w event past dest frame := by
  induction run with
  | refl => exact absurd sent.length_le (by simp [World.initial])
  | @tail before after run step ih =>
      obtain ⟨kind, deed⟩ := step
      rcases deed.origin (Deeds.sourced run) (Deeds.located run) sent outgoing with
        earlier | ⟨grown, origin⟩
      · obtain ⟨sender, sends, own, reached, step, rest, fresh, occurs, origin⟩ := ih earlier
        exact ⟨sender, sends, own, reached, step, rest.tail ⟨kind, deed⟩, fresh, occurs,
          origin.later deed.suffix⟩
      · exact ⟨before, after, kind, run, deed, .refl, grown, sent, origin⟩

/-- Throughout a run, a frame is sent for a reason in the run before it: an offer for a service
that was registered, a reply for a handler that ran, an event for a subscriber that was granted
it. -/
theorem World.frames_have_origin {clientId : UInt16} {w : World cfg}
    (run : Deeds env (World.initial cfg clientId) w) {event : Event cfg} {past : History cfg}
    {dest : Option (Address n)} {frame : Bytes} (sent : (event :: past) <:+ w.history)
    (outgoing : event.outgoing = some (dest, frame)) :
    SentForReason env clientId w event past dest frame :=
  Deeds.frames_origin run sent outgoing

/-- The provider's answer has its reason. -/
theorem World.frames_have_origin_word : ∃ clientId event past frame,
    SentForReason (Devices.wordDevices.env Devices.wordProvider) clientId
      (Devices.wordNetwork Devices.wordProvider) event past (some Devices.wordClient) frame := by
  have answered : ((Devices.wordNetwork Devices.wordProvider).history.filterMap
      Event.outgoing).head?.map (·.1) = some (some Devices.wordClient) := by
    decide +kernel
  obtain ⟨⟨dest, frame⟩, newest, rfl⟩ := Option.map_eq_some_iff.mp answered
  obtain ⟨event, occurs, outgoing⟩ := List.mem_filterMap.mp (List.mem_of_mem_head? newest)
  obtain ⟨past, sent⟩ := Runs.exists_suffix occurs
  obtain ⟨clientId, run⟩ := (Devices.wordNetwork_reachable.device Devices.wordProvider).deeds
  exact ⟨clientId, event, past, frame, frames_have_origin run sent outgoing⟩

end Sero
