import Sero.Properties.AdvertisedServices
import Sero.Properties.DiscoveryFrames
import Sero.Runtime.DiscoverySteps

/-!
# What a provider says about a service

Once a service is offered, and until the application writes its offer again, every
discovery frame of the provider that offers the service to anyone offers it with the
same version, lifetime and session.
-/

namespace Sero

open Library ServiceDiscovery

variable {n : Nat} {cfg : Config n}

/-! ## The offer in a frame -/

/-- The offer a datagram carries for a receiver with this configuration. -/
def offerIn (receiver : Config n) (data : Bytes) : Option (SdPayload.Offer n) :=
  match heard receiver (Address.zero n) data with
  | some (.offer offer) => some offer
  | _ => none

theorem SdRequest.decode_eq_offer {source : Address n} {hdr : MessageHeader} {payload : Bytes}
    {offer : SdPayload.Offer n} :
    SdRequest.decode source hdr payload = some (.offer offer) ↔
      SdMethod.ofId hdr.methodEventId = some .offerService ∧
        SdPayload.deserializeOffer payload = some offer := by
  rw [SdRequest.decode]
  cases SdMethod.ofId hdr.methodEventId with
  | none => simp
  | some method => cases method <;> simp

theorem heard_eq_offer {receiver : Config n} {source : Address n} {data : Bytes}
    {offer : SdPayload.Offer n} :
    heard receiver source data = some (.offer offer) ↔
      ∃ hdr, checkFrame receiver data = .ok hdr ∧ hdr.serviceId = sdServiceId ∧
        SdMethod.ofId hdr.methodEventId = some .offerService ∧
        SdPayload.deserializeOffer (payloadOf hdr data) = some offer := by
  rw [heard]
  cases checkFrame receiver data with
  | error => simp
  | ok hdr =>
      simp only [Except.ok.injEq, exists_eq_left']
      split
      · next sd => simp [SdRequest.decode_eq_offer, sd]
      · next notSd => simp [notSd]

/-- Who sent it makes no difference. -/
theorem heard_eq_offer_iff {receiver : Config n} {source : Address n} {data : Bytes}
    {offer : SdPayload.Offer n} :
    heard receiver source data = some (.offer offer) ↔ offerIn receiver data = some offer := by
  rw [heard_eq_offer, ← @heard_eq_offer _ receiver (Address.zero n), offerIn]
  split
  · next carried => simp [carried]
  · next none =>
      simp only [reduceCtorEq, iff_false]
      exact none offer

/-- The message that carries an offer. -/
def SdPayload.Offer.message (offer : SdPayload.Offer n) : SdMessage n :=
  .offer offer.serviceId offer.majorVersion offer.minorVersion offer.ttlSeconds
    offer.sessionId offer.providerAddr

/-- A frame of a message carries an offer exactly when that is what the message is, the
sender has a client id of its own and the receiver has room for offers. -/
theorem offerIn_frame {receiver : Config n} {clientId : UInt16} {sequenceCounter : UInt8}
    {message : SdMessage n} {offer : SdPayload.Offer n}
    (room : message.Fits cfg clientId) :
    offerIn receiver (message.frame clientId sequenceCounter) = some offer ↔
      message = offer.message ∧ clientId ≠ 0 ∧ 8 + n ≤ receiver.maxPayloadSize := by
  have small := cfg.maxPayloadSize_le
  have sizes := message.encode_length clientId
  have declared : (message.header clientId sequenceCounter).payloadLength.toNat =
      message.payload.length := by
    rw [SdMessage.header, UInt32.toNat_ofNat']
    apply Nat.mod_eq_of_lt
    simp only [SdMessage.Fits, maxMsgSize, headerSize, hmacSize, crcSize] at room sizes
    omega
  have payload := @payloadOf_messageFrame _ message.payload [] declared
  have method : SdMethod.ofId (message.header clientId sequenceCounter).methodEventId =
      some message.method := SdMethod.ofId_toId message.method
  rw [← @heard_eq_offer_iff _ receiver (Address.zero n), heard_eq_offer]
  constructor
  · rintro ⟨hdr, checked, -, isOffer, decoded⟩
    have checks := checkFrame_ok_iff.mp checked
    have header : hdr = message.header clientId sequenceCounter :=
      checks.header.trans (deserialize_messageFrame _ _ _)
    subst header
    rw [method] at isOffer
    rw [SdMessage.frame, payload] at decoded
    cases message with
    | offer serviceId major minor ttl session addr =>
        have whole : SdPayload.deserializeOffer _ = some offer := decoded
        rw [SdMessage.payload, SdPayload.deserializeOffer_serializeOffer] at whole
        cases whole
        refine ⟨rfl, ?_, ?_⟩
        · have own := checks.clientId
          rw [MessageHeader.validateClientId] at own
          change (clientId != 0) = true at own
          simpa using own
        · have fits := checks.payloadLength
          rw [declared] at fits
          refine Nat.le_trans (Nat.le_of_eq ?_) fits
          simp only [SdMessage.payload, SdPayload.serializeOffer, List.length_append,
            writeU16_length, List.length_cons, List.length_nil, addr.property]
    | find | subscribeEvent | unsubscribe => cases isOffer
  · rintro ⟨rfl, own, roomy⟩
    have valid : ValidHeader receiver (offer.message.header clientId sequenceCounter)
        offer.message.payload :=
      sdHeader_valid rfl rfl offer.message.method.isMethodId_toId own rfl
        (offer.message.payload_length_le.trans roomy)
    have unsigned : (offer.message.header clientId sequenceCounter).hasAuth = false :=
      (by decide : ((0 : UInt8) &&& flagAuth != 0) = false)
    refine ⟨offer.message.header clientId sequenceCounter,
      checkFrame_ok_iff.mpr (frameChecked_messageFrame valid (by simp [unsigned])), rfl, method, ?_⟩
    rw [SdMessage.frame, payload]
    exact SdPayload.deserializeOffer_serializeOffer _ _ _ _ _ _

/-- Acknowledgements carry none. -/
theorem offerIn_ackFrame (receiver : Config n) (rt : Runtime cfg) (result : ReturnCode)
    (serviceId eventId grantedTtl : UInt16) :
    offerIn receiver ((World.ackFrame rt result serviceId eventId grantedTtl).1.bytes.take
      (World.ackFrame rt result serviceId eventId grantedTtl).2) = none := by
  rw [World.ackFrame_eq, Option.eq_none_iff_forall_not_mem]
  intro offer carried
  obtain ⟨hdr, checked, -, isOffer, -⟩ := heard_eq_offer.mp
    ((@heard_eq_offer_iff _ receiver (Address.zero n) _ _).mpr carried)
  have header : hdr = World.ackHeader rt result :=
    (checkFrame_ok_iff.mp checked).header.trans (deserialize_messageFrame _ _ _)
  subst header
  have method : SdMethod.ofId (World.ackHeader rt result).methodEventId = some .subscribeAck :=
    SdMethod.ofId_toId .subscribeAck
  rw [method] at isOffer
  cases isOffer

/-! ## The provider -/

/-- Has the application written the offer of a service? -/
def reoffers (serviceId : UInt16) (events : History cfg) : Bool :=
  events.any fun
    | .returned (.offerService offered _ _) _ => offered == serviceId
    | .returned (.stopOffer withdrawn) _ => withdrawn == serviceId
    | .returned (.enableDiagnostics ..) _ => diagServiceId == serviceId
    | _ => false

theorem reoffers_append (serviceId : UInt16) (newer older : History cfg) :
    reoffers serviceId (newer ++ older) =
      (reoffers serviceId newer || reoffers serviceId older) :=
  List.any_append

/-- A device that offers a service as this entry says. -/
structure Offering (clientId : UInt16) (entry : ProviderEntry) (w : World cfg) : Prop where
  distinct : w.rt.sd.DistinctProviders
  offers : w.rt.sd.findProvider entry.serviceId = some entry
  clientId : w.rt.sd.clientId = clientId

theorem Offering.of_same {clientId : UInt16} {entry : ProviderEntry} {before after : World cfg}
    (offering : Offering clientId entry before)
    (providers : after.rt.sd.providers = before.rt.sd.providers)
    (own : after.rt.sd.clientId = before.rt.sd.clientId) : Offering clientId entry after where
  distinct := by
    rw [DistinctProviders, providers]
    exact offering.distinct
  offers := by
    rw [findProvider, providers]
    exact offering.offers
  clientId := own.trans offering.clientId

/-- If a frame offers the service to the receiver, it offers what the entry says. -/
def Announces (cfg receiver : Config n) (clientId : UInt16) (entry : ProviderEntry)
    (frame : Bytes) : Prop :=
  ∀ offer, offerIn receiver frame = some offer → offer.serviceId = entry.serviceId →
    ∃ addr sequenceCounter, (ProviderEntry.offerMessage entry addr).Fits cfg clientId ∧
      frame = (ProviderEntry.offerMessage entry addr).frame clientId sequenceCounter

/-- Unless the application writes the offer, the device goes on offering as the entry
says, and says nothing else about the service. -/
def KeepsOffering (receiver : Config n) (clientId : UInt16) (entry : ProviderEntry)
    (before after : World cfg) : Prop :=
  ∃ events, after.history = events ++ before.history ∧
    (reoffers entry.serviceId events = false → Offering clientId entry before →
      Offering clientId entry after ∧
        ∀ sent ∈ events.filterMap Event.sdFrame, Announces cfg receiver clientId entry sent.2)

namespace KeepsOffering

variable {receiver : Config n} {clientId : UInt16} {entry : ProviderEntry}
variable {first second third : World cfg}

theorem trans (left : KeepsOffering receiver clientId entry first second)
    (right : KeepsOffering receiver clientId entry second third) :
    KeepsOffering receiver clientId entry first third := by
  obtain ⟨older, olderEq, leftKeeps⟩ := left
  obtain ⟨newer, newerEq, rightKeeps⟩ := right
  refine ⟨newer ++ older, by rw [newerEq, olderEq, List.append_assoc], ?_⟩
  intro kept offering
  rw [reoffers_append, Bool.or_eq_false_iff] at kept
  obtain ⟨middle, olderFrames⟩ := leftKeeps kept.2 offering
  obtain ⟨last, newerFrames⟩ := rightKeeps kept.1 middle
  refine ⟨last, ?_⟩
  rw [List.filterMap_append]
  intro sent member
  rcases List.mem_append.mp member with inNewer | inOlder
  · exact newerFrames sent inNewer
  · exact olderFrames sent inOlder

/-- A step that leaves the offers alone and sends these frames. -/
theorem of_traffic {events : History cfg} (history : second.history = events ++ first.history)
    (sd : second.rt.sd.providers = first.rt.sd.providers ∧
      second.rt.sd.clientId = first.rt.sd.clientId)
    {frames : List (Option (Address n) × Bytes)}
    (traffic : second.traffic = frames ++ first.traffic)
    (announce : Offering clientId entry first →
      ∀ sent ∈ frames, Announces cfg receiver clientId entry sent.2) :
    KeepsOffering receiver clientId entry first second := by
  have same : events.filterMap Event.sdFrame = frames :=
    List.append_cancel_right ((World.traffic_append history).symm.trans traffic)
  refine ⟨events, history, ?_⟩
  intro _ offering
  rw [same]
  exact ⟨offering.of_same sd.1 sd.2, announce offering⟩

/-- A step that sends no discovery frame. -/
theorem of_silent {events : History cfg} (history : second.history = events ++ first.history)
    (sd : second.rt.sd.providers = first.rt.sd.providers ∧
      second.rt.sd.clientId = first.rt.sd.clientId)
    (traffic : second.traffic = first.traffic) :
    KeepsOffering receiver clientId entry first second := by
  apply of_traffic history sd (traffic.trans (List.nil_append _).symm)
  simp

end KeepsOffering

variable {env : Env cfg} {clientId : UInt16} {entry : ProviderEntry}

theorem Offering.offer {w : World cfg} (offering : Offering clientId entry w)
    {serviceId : UInt16} (other : serviceId ≠ entry.serviceId) (major minor : UInt8)
    (ttlSeconds : UInt16) (nowMs : UInt32) {after : World cfg}
    (written : after.rt.sd = (w.rt.sd.offer serviceId major minor ttlSeconds nowMs).2) :
    Offering clientId entry after := by
  constructor
  · rw [written]
    exact offering.distinct.offer
  · rw [written]
    cases accepted : (w.rt.sd.offer serviceId major minor ttlSeconds nowMs).1 with
    | false =>
        rw [offer_refused accepted]
        exact offering.offers
    | true =>
        rw [findProvider_offer accepted, if_neg (Ne.symm other)]
        exact offering.offers
  · rw [written, offer_clientId]
    exact offering.clientId

/-- A call that does not write the offer. -/
theorem Offering.apiCall {w : World cfg} (offering : Offering clientId entry w)
    {call : ApiCall cfg} (isLocal : call.isLocal = true)
    (other : reoffers entry.serviceId [.returned call (w.apiCall env id call).1] = false) :
    Offering clientId entry (w.apiCall env id call).2 := by
  cases writes : call.writesRegistry with
  | false =>
      have same : SameRegistry w (w.apiCall env id call).2 :=
        World.apiCall_registry id isLocal writes w
      exact offering.of_same same.providers (World.apiCall_sdClientId id isLocal w)
  | true =>
      cases call with
      | registerService | unregisterService => exact offering.of_same rfl rfl
      | offerService serviceId ttl now =>
          have different : serviceId ≠ entry.serviceId := by
            simpa [reoffers] using other
          obtain ⟨sd, written, rfl | ⟨major, minor, rfl⟩⟩ := w.offerService_rt serviceId ttl now
          · exact offering.of_same (congrArg (fun w : World cfg => w.rt.sd.providers) written)
              (congrArg (fun w : World cfg => w.rt.sd.clientId) written)
          · exact offering.offer different major minor ttl now
              (congrArg (fun w : World cfg => w.rt.sd) written)
      | stopOffer serviceId =>
          have different : serviceId ≠ entry.serviceId := by
            simpa [reoffers] using other
          constructor
          · exact offering.distinct.stopOffer serviceId
          · have looked := w.rt.sd.findProvider_stopOffer serviceId entry.serviceId
            rw [if_neg (Ne.symm different)] at looked
            exact looked.trans offering.offers
          · exact offering.clientId
      | enableDiagnostics now auth =>
          have different : diagServiceId ≠ entry.serviceId := by
            simpa [reoffers] using other
          obtain ⟨_, _, _, _, written, rfl | ⟨major, minor, rfl⟩⟩ :=
            w.enableDiagnostics_rt now auth
          · have same : (w.enableDiagnostics now auth).2.rt.sd = w.rt.sd := by rw [written]
            exact offering.of_same (congrArg ServiceDiscovery.providers same)
              (congrArg ServiceDiscovery.clientId same)
          · exact offering.offer different major minor cfg.offerTtlSeconds now
              (congrArg (fun w : World cfg => w.rt.sd) written)
      | _ => cases writes

theorem PlainStep.keepsOffering (receiver : Config n) {before after : World cfg}
    (step : PlainStep env before after) : KeepsOffering receiver clientId entry before after := by
  obtain ⟨events, history⟩ := (PlainSteps.steps (.single step)).suffix
  have traffic := step.traffic
  have silent : after.rt.sd = before.rt.sd →
      KeepsOffering receiver clientId entry before after := by
    intro same
    exact .of_silent history.symm ⟨by rw [same], by rw [same]⟩ traffic
  cases step with
  | count counter header => exact silent (World.increment_core counter header before).sd
  | storeDtcs | fillResponse => exact silent rfl
  | @own kind _ _ isPlain step =>
      have same := step.frame.sd
      cases step with
      | background | sdWrite | markRenewals => cases isPlain
      | @perform call isLocal =>
          obtain ⟨quiet, called, -⟩ :=
            (@World.apiCall_same _ _ env id call isLocal before).history
          have performed : (before.perform env id call).history =
              .returned call (before.apiCall env id call).1 :: quiet ++ before.history :=
            congrArg (List.cons _) called
          have frames := List.append_cancel_right ((World.traffic_append performed).symm.trans
            (traffic.trans (List.nil_append _).symm))
          refine ⟨_, performed, ?_⟩
          intro other offering
          rw [frames]
          refine ⟨?_, by simp⟩
          have notWritten : reoffers entry.serviceId
              [.returned call (before.apiCall env id call).1] = false := by
            rw [← List.singleton_append, reoffers_append, Bool.or_eq_false_iff] at other
            exact other.1
          exact (offering.apiCall isLocal notWritten).of_same rfl rfl
      | _ => exact silent (same (by simp))

/-! ## What it sends -/

theorem Offering.unique {w : World cfg} (offering : Offering clientId entry w)
    {other : ProviderEntry} (member : other ∈ w.rt.sd.providers)
    (same : other.serviceId = entry.serviceId) : other = entry := by
  have found := offering.distinct.lookup_of_mem member
  have known : Table.lookup ProviderEntry.serviceId other.serviceId w.rt.sd.providers =
      some entry := same ▸ offering.offers
  exact Option.some.inj (found.symm.trans known)

/-- A message that offers the service only as the entry says. -/
def SpeaksFor (entry : ProviderEntry) (message : SdMessage n) : Prop :=
  ∀ offer : SdPayload.Offer n, message = offer.message → offer.serviceId = entry.serviceId →
    ∃ addr, message = ProviderEntry.offerMessage entry addr

theorem Offering.speaksFor {w : World cfg} (offering : Offering clientId entry w)
    {other : ProviderEntry} (member : other ∈ w.rt.sd.providers) (addr : Address n) :
    SpeaksFor entry (ProviderEntry.offerMessage other addr) := by
  intro offer isOffer same
  have id : other.serviceId = offer.serviceId := (SdMessage.offer.inj isOffer).1
  exact ⟨addr, by rw [offering.unique member (id.trans same)]⟩

theorem SpeaksFor.announces {message : SdMessage n} (speaks : SpeaksFor entry message)
    (receiver : Config n) (room : message.Fits cfg clientId) (sequenceCounter : UInt8) :
    Announces cfg receiver clientId entry (message.frame clientId sequenceCounter) := by
  intro offer carried same
  obtain ⟨isOffer, -, -⟩ := (offerIn_frame room).mp carried
  obtain ⟨addr, message⟩ := speaks offer isOffer same
  exact ⟨addr, sequenceCounter, message ▸ room, by rw [message]⟩

theorem KeepsOffering.broadcast (receiver : Config n) {message : SdMessage n} {w : World cfg}
    (speaks : SpeaksFor entry message) :
    KeepsOffering receiver clientId entry w (w.sendSdBroadcast env message) := by
  by_cases room : message.Fits cfg w.rt.sd.clientId
  · have core := @World.sendSdBroadcast_core _ _ env message w
    obtain ⟨events, history, -⟩ := core.history
    have traffic : (w.sendSdBroadcast env message).traffic =
        [(none, message.frame w.rt.sd.clientId w.rt.sdSeq)] ++ w.traffic :=
      sendSdBroadcast_traffic room
    apply KeepsOffering.of_traffic history ⟨by rw [core.sd], by rw [core.sd]⟩ traffic
    intro offering sent member
    cases List.mem_singleton.mp member
    rw [offering.clientId] at room ⊢
    exact speaks.announces receiver room _
  · rw [World.sendSdBroadcast, if_pos (Nat.not_le.mp room)]
    exact .of_silent (List.nil_append _).symm ⟨rfl, rfl⟩ rfl

theorem KeepsOffering.unicast (receiver : Config n) (dest : Address n) {message : SdMessage n}
    {w : World cfg} (speaks : Offering clientId entry w → SpeaksFor entry message) :
    KeepsOffering receiver clientId entry w (w.sendSdUnicast env dest message) := by
  by_cases room : message.Fits cfg w.rt.sd.clientId
  · have core := @World.sendSdUnicast_core _ _ env dest message w
    obtain ⟨events, history, -⟩ := core.history
    have traffic : (w.sendSdUnicast env dest message).traffic =
        [(some dest, message.frame w.rt.sd.clientId w.rt.sdSeq)] ++ w.traffic :=
      sendSdUnicast_traffic dest room
    apply KeepsOffering.of_traffic history ⟨by rw [core.sd], by rw [core.sd]⟩ traffic
    intro offering sent member
    cases List.mem_singleton.mp member
    rw [offering.clientId] at room ⊢
    exact (speaks offering).announces receiver room _
  · rw [World.sendSdUnicast, if_pos (Nat.not_le.mp room)]
    exact .of_silent (List.nil_append _).symm ⟨rfl, rfl⟩ rfl

theorem KeepsOffering.answers (receiver : Config n) (source : Address n) (hdr : MessageHeader)
    (request : SdPayload.Subscribe) (nowMs : UInt32) (w : World cfg) :
    KeepsOffering receiver clientId entry w
      (w.handleSubscribeRequest env source hdr request nowMs) := by
  have core := @World.handleSubscribeRequest_core _ _ env source hdr request nowMs w
  obtain ⟨events, history, -⟩ := core.history
  let result := (w.rt.eventManager.subscribe request.serviceId request.eventId hdr.clientId
    source request.ttlSeconds nowMs).1
  let grantedTtl :=
    if result = .eOk then
      if request.ttlSeconds > 0 then request.ttlSeconds else cfg.subscriptionTtlSeconds
    else 0
  let ack := World.ackFrame w.rt result request.serviceId request.eventId grantedTtl
  have traffic : (w.handleSubscribeRequest env source hdr request nowMs).traffic =
      [(some source, ack.1.bytes.take ack.2)] ++ w.traffic := World.countRefusal_traffic _ _
  apply KeepsOffering.of_traffic history ⟨by rw [core.sd], by rw [core.sd]⟩ traffic
  intro _ sent member
  cases List.mem_singleton.mp member
  have none : offerIn receiver (ack.1.bytes.take ack.2) = none := offerIn_ackFrame ..
  intro offer carried
  cases none.symm.trans carried

variable {nowMs : UInt32} {asked : Option (SdRequest n)}

theorem DiscoveryStep.keepsOffering (receiver : Config n) {before after : World cfg}
    (step : DiscoveryStep env nowMs asked before after) :
    KeepsOffering receiver clientId entry before after := by
  cases step with
  | plain step => exact step.keepsOffering receiver
  | sendFind serviceId =>
      apply KeepsOffering.broadcast
      intro offer isOffer
      cases isOffer
  | @answerFind source serviceId message _ finds offered =>
      apply KeepsOffering.unicast
      intro offering
      obtain ⟨other, member, rfl⟩ := List.mem_map.mp offered
      exact offering.speaksFor (List.mem_filter.mp member).1 _
  | subscribeRequest => exact .answers receiver _ _ _ nowMs before
  | _ => exact .of_silent (List.nil_append _).symm ⟨rfl, rfl⟩ rfl

theorem DiscoverySteps.keepsOffering (receiver : Config n) {before after : World cfg}
    (steps : DiscoverySteps env nowMs asked before after) :
    KeepsOffering receiver clientId entry before after := by
  induction steps with
  | refl => exact .of_silent (List.nil_append _).symm ⟨rfl, rfl⟩ rfl
  | tail _ step ih => exact ih.trans (step.keepsOffering receiver)

theorem KeepsOffering.foldl {receiver : Config n} {α : Type} {body : World cfg → α → World cfg}
    (items : List α)
    (each : ∀ w, ∀ item ∈ items, KeepsOffering receiver clientId entry w (body w item))
    (w : World cfg) : KeepsOffering receiver clientId entry w (items.foldl body w) := by
  induction items generalizing w with
  | nil => exact .of_silent (List.nil_append _).symm ⟨rfl, rfl⟩ rfl
  | cons item rest ih =>
      exact (each w item (.head _)).trans
        (ih (fun w other member => each w other (.tail _ member)) _)

/-- Broadcasting an offer does not change what it says. -/
theorem offerMessage_broadcastAt (nowMs : UInt32) (entry : ProviderEntry) (addr : Address n) :
    ProviderEntry.offerMessage (ProviderEntry.broadcastAt nowMs entry) addr =
      ProviderEntry.offerMessage entry addr := by
  obtain ⟨id, -, major, minor, ttl, session⟩ := ProviderEntry.broadcastAt_same nowMs entry
  rw [ProviderEntry.offerMessage, ProviderEntry.offerMessage, id, major, minor, ttl, session]

theorem SpeaksFor.broadcastAt {message : SdMessage n} (speaks : SpeaksFor entry message)
    (nowMs : UInt32) : SpeaksFor (ProviderEntry.broadcastAt nowMs entry) message := by
  intro offer isOffer same
  rw [(ProviderEntry.broadcastAt_same nowMs entry).1] at same
  obtain ⟨addr, message⟩ := speaks offer isOffer same
  exact ⟨addr, message.trans (offerMessage_broadcastAt nowMs entry addr).symm⟩

theorem Announces.of_broadcastAt {receiver : Config n} {frame : Bytes}
    (announces : Announces cfg receiver clientId (ProviderEntry.broadcastAt nowMs entry) frame) :
    Announces cfg receiver clientId entry frame := by
  intro offer carried same
  rw [← (ProviderEntry.broadcastAt_same nowMs entry).1] at same
  simpa only [offerMessage_broadcastAt] using announces offer carried same

/-- Every offer needs the same room. -/
theorem fits_offerMessage (entry other : ProviderEntry) {addr : Address n}
    (room : (ProviderEntry.offerMessage entry addr).Fits cfg clientId) (otherAddr : Address n) :
    (ProviderEntry.offerMessage other otherAddr).Fits cfg clientId := by
  simp only [SdMessage.Fits, SdMessage.encode_length, ProviderEntry.offerMessage,
    SdMessage.payload, SdPayload.serializeOffer, List.length_append, writeU16_length,
    List.length_cons, List.length_nil, addr.property, otherAddr.property] at room ⊢
  exact room

namespace World

/-- The offers a pass has decided to broadcast, before any is sent. -/
def markOffers (nowMs : UInt32) (w : World cfg) : World cfg :=
  { w with rt := { w.rt with sd := (w.rt.sd.processOffers nowMs).2 } }

theorem markOffers_offering {w : World cfg} (offering : Offering clientId entry w)
    (nowMs : UInt32) :
    Offering clientId (ProviderEntry.broadcastAt nowMs entry) (w.markOffers nowMs) := by
  constructor
  · exact offering.distinct.processOffers nowMs
  · have looked := findProvider_processOffers w.rt.sd nowMs entry.serviceId
    rw [offering.offers] at looked
    rw [(ProviderEntry.broadcastAt_same nowMs entry).1]
    exact looked
  · exact offering.clientId

/-- What is broadcast speaks for the offers there are. -/
theorem broadcastOffers_keepsOffering (receiver : Config n) {w : World cfg}
    (offering : Offering clientId entry w) :
    KeepsOffering receiver clientId (ProviderEntry.broadcastAt nowMs entry)
      (w.markOffers nowMs) (w.broadcastOffers env nowMs) := by
  apply KeepsOffering.foldl
  intro state message member
  apply KeepsOffering.broadcast
  obtain ⟨other, found, rfl⟩ := List.mem_map.mp member
  exact (offering.speaksFor (List.mem_filter.mp found).1 _).broadcastAt nowMs

theorem renewSubscriptions_keepsOffering (receiver : Config n) (w : World cfg) :
    KeepsOffering receiver clientId entry w (w.renewSubscriptions env nowMs) := by
  have marked : KeepsOffering receiver clientId entry w (w.markRenewals nowMs) :=
    .of_silent (List.singleton_append.symm : _ = [.renewals _ _ _] ++ w.history) ⟨rfl, rfl⟩
      (traffic_emit rfl _)
  apply marked.trans
  apply KeepsOffering.foldl
  intro state send member
  apply KeepsOffering.unicast
  intro _ offer isOffer
  obtain ⟨tracker, -, -, -, sends⟩ := mem_processSubscriptionRenewals member
  rcases renewTracker_message sends with ⟨-, message⟩ | ⟨-, message⟩
  · cases isOffer.symm.trans message
  · cases isOffer.symm.trans message

/-- What is broadcast goes out, if there is room for it. -/
theorem broadcasts_traffic (messages : List (SdMessage n)) {message : SdMessage n} (w : World cfg)
    (member : message ∈ messages) (room : message.Fits cfg w.rt.sd.clientId) :
    ∃ frames sequenceCounter,
      (messages.foldl (fun w message => w.sendSdBroadcast env message) w).traffic =
        frames ++ w.traffic ∧
      (none, message.frame w.rt.sd.clientId sequenceCounter) ∈ frames := by
  induction messages generalizing w with
  | nil => cases member
  | cons head rest ih =>
      have same := (@sendSdBroadcast_core _ _ env head w).sd
      have onward : Steps env (w.sendSdBroadcast env head)
          (rest.foldl (fun w message => w.sendSdBroadcast env message)
            (w.sendSdBroadcast env head)) :=
        Runs.foldl (fun _ _ => (Background.sdBroadcast _ _).steps) _ _
      have sends : Steps env w (w.sendSdBroadcast env head) := (Background.sdBroadcast head w).steps
      obtain ⟨first, firstEq⟩ := sends.suffix
      obtain ⟨later, laterEq⟩ := onward.suffix
      have sentFirst := traffic_append firstEq.symm
      have sentLater := traffic_append laterEq.symm
      rcases List.mem_cons.mp member with rfl | inRest
      · have sent : (w.sendSdBroadcast env message).traffic =
            [(none, message.frame w.rt.sd.clientId w.rt.sdSeq)] ++ w.traffic :=
          sendSdBroadcast_traffic room
        refine ⟨later.filterMap Event.sdFrame ++ [_], w.rt.sdSeq, ?_,
          List.mem_append_right _ (.head _)⟩
        rw [List.foldl_cons, sentLater, sent, List.append_assoc]
      · rw [← same] at room
        obtain ⟨frames, sequenceCounter, traffic, sent⟩ := ih _ inRest room
        rw [same] at sent
        refine ⟨frames ++ first.filterMap Event.sdFrame, sequenceCounter, ?_,
          List.mem_append_left _ sent⟩
        rw [List.foldl_cons, traffic, sentFirst, List.append_assoc]

/-- A whole cycle: the entry is broadcast if it is due, and nothing but what it says is
sent about its service. -/
theorem process_offering (receiver : Config n) {w : World cfg}
    (offering : Offering clientId entry w) {inbox : List (Address n × Bytes)}
    {events : History cfg}
    (history : (w.process env inbox nowMs).history = events ++ w.history)
    (kept : reoffers entry.serviceId events = false) :
    Offering clientId (ProviderEntry.broadcastAt nowMs entry) (w.process env inbox nowMs) ∧
      (∀ sent ∈ events.filterMap Event.sdFrame,
        Announces cfg receiver clientId entry sent.2) ∧
      (ProviderEntry.shouldSend entry nowMs = true →
        (∀ addr : Address n, (ProviderEntry.offerMessage entry addr).Fits cfg clientId) →
        ∃ (addr : Address n) (sequenceCounter : UInt8), (none,
          (ProviderEntry.offerMessage entry addr).frame clientId sequenceCounter) ∈
            events.filterMap Event.sdFrame) := by
  let received := (inbox.take cfg.maxReceiveQueueSize).foldl
    (fun w datagram => w.validateAndDispatch env datagram.1 datagram.2 nowMs)
    (w.startCycle nowMs)
  let due := received.timeOut env nowMs
  have front : KeepsOffering receiver clientId entry w due := by
    have started : DiscoverySteps env nowMs none w (w.startCycle nowMs) := .single (.startCycle w)
    have handled : KeepsOffering receiver clientId entry (w.startCycle nowMs) received :=
      .foldl _ (fun state datagram _ =>
        (receive_discoverySteps datagram.1 datagram.2 state).keepsOffering receiver) _
    have timedOut : DiscoverySteps env nowMs none received due := timeOut_discoverySteps received
    exact (started.keepsOffering receiver).trans
      (handled.trans (timedOut.keepsOffering receiver))
  obtain ⟨older, olderEq, frontKeeps⟩ := front
  have rest : DiscoverySteps env nowMs none (due.announce env nowMs)
      (w.process env inbox nowMs) := housekeeping_discoverySteps received
  have back : KeepsOffering receiver clientId (ProviderEntry.broadcastAt nowMs entry)
      (due.broadcastOffers env nowMs) (w.process env inbox nowMs) :=
    (renewSubscriptions_keepsOffering receiver _).trans (rest.keepsOffering receiver)
  obtain ⟨newest, newestEq, backKeeps⟩ := back
  have sends : Steps env due (due.broadcastOffers env nowMs) :=
    (sdWrite_steps (fun _ => .processOffers nowMs) due).trans
      (Runs.foldl (fun _ _ => (Background.sdBroadcast _ _).steps) _ _)
  obtain ⟨sent, sentEq⟩ := sends.suffix
  have split : events = newest ++ (sent ++ older) := by
    apply @List.append_cancel_right _ _ w.history
    rw [← history, newestEq, ← sentEq, olderEq, List.append_assoc, List.append_assoc]
  rw [split, reoffers_append, reoffers_append, Bool.or_eq_false_iff,
    Bool.or_eq_false_iff] at kept
  obtain ⟨quietNewest, quietSent, quietOlder⟩ := kept
  obtain ⟨offeringDue, olderFrames⟩ := frontKeeps quietOlder offering
  have middle := @broadcastOffers_keepsOffering _ _ env _ _ nowMs receiver _ offeringDue
  obtain ⟨again, againEq, middleKeeps⟩ := middle
  have same : again = sent := by
    apply @List.append_cancel_right _ _ due.history
    rw [sentEq]
    exact againEq.symm
  subst same
  have id := (ProviderEntry.broadcastAt_same nowMs entry).1
  rw [id] at middleKeeps backKeeps
  obtain ⟨offeringSent, sentFrames⟩ := middleKeeps quietSent
    (markOffers_offering offeringDue nowMs)
  obtain ⟨offeringAfter, newestFrames⟩ := backKeeps quietNewest offeringSent
  refine ⟨offeringAfter, ?_, ?_⟩
  · rw [split, List.filterMap_append, List.filterMap_append]
    intro frame member
    rcases List.mem_append.mp member with inNewest | inRest
    · exact (newestFrames frame inNewest).of_broadcastAt
    · rcases List.mem_append.mp inRest with inSent | inOlder
      · exact (sentFrames frame inSent).of_broadcastAt
      · exact olderFrames frame inOlder
  · intro isDue room
    let message := ProviderEntry.offerMessage entry due.rt.sd.localAddr
    have listed : message ∈ (due.rt.sd.processOffers nowMs).1 := by
      apply List.mem_map.mpr
      refine ⟨entry, List.mem_filter.mpr ⟨Table.lookup_mem offeringDue.offers, isDue⟩, rfl⟩
    have marked : (due.markOffers nowMs).rt.sd.clientId = clientId := offeringDue.clientId
    have fits : message.Fits cfg (due.markOffers nowMs).rt.sd.clientId := by
      rw [marked]
      exact room _
    obtain ⟨frames, sequenceCounter, traffic, goesOut⟩ :=
      @broadcasts_traffic _ _ env (due.rt.sd.processOffers nowMs).1 message
        (due.markOffers nowMs) listed fits
    have same : again.filterMap Event.sdFrame = frames :=
      List.append_cancel_right ((traffic_append sentEq.symm).symm.trans traffic)
    refine ⟨due.rt.sd.localAddr, sequenceCounter, ?_⟩
    rw [split, List.filterMap_append, List.filterMap_append, same, ← marked]
    exact List.mem_append_right _ (List.mem_append_left _ goesOut)

end World

end Sero
