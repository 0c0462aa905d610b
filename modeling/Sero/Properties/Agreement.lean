import Sero.Properties.CallbackOrigins
import Sero.Properties.OfferFrames

/-!
# Agreement between devices

On a network that loses, delays, repeats and reorders datagrams, but neither alters nor makes
them, what a device is told is what the device it was told by has a reason to tell: a service
is found where it is offered, a subscription is one the application has asked for, a handler is
entered with what a caller has sent, and an event handler with what a publisher has published.
-/

namespace Sero

open Library ServiceDiscovery

variable {n : Nat} {cfg : Config n} {env : Env cfg}

/-! ## What is heard -/

theorem heard_eq_some {receiver : Config n} {source : Address n} {data : Bytes}
    {request : SdRequest n} (hears : heard receiver source data = some request) :
    ∃ hdr, checkFrame receiver data = .ok hdr ∧ hdr.serviceId = sdServiceId ∧
      SdRequest.decode source hdr (payloadOf hdr data) = some request := by
  rw [heard] at hears
  split at hears
  · cases hears
  · next hdr checked =>
      split at hears
      · next sd => exact ⟨hdr, checked, sd, hears⟩
      · cases hears

/-- What a message asks of the device that receives it. -/
def SdMessage.asked (source : Address n) (hdr : MessageHeader) : SdMessage n → SdRequest n
  | .offer serviceId majorVersion minorVersion ttlSeconds sessionId providerAddr =>
      .offer { serviceId, majorVersion, minorVersion, ttlSeconds, sessionId, providerAddr }
  | .find serviceId => .find source serviceId
  | .subscribeEvent serviceId eventId ttlSeconds =>
      .subscribe source hdr { serviceId, eventId, ttlSeconds }
  | .unsubscribe serviceId eventId =>
      .unsubscribe hdr.clientId { serviceId, eventId, ttlSeconds := 0 }

/-- Who hears a message hears what it asks. -/
theorem Tells.heard {receiver : Config n} {source : Address n} {frame : Bytes}
    {message : SdMessage n} {request : SdRequest n} (tells : Tells message frame)
    (hears : Sero.heard receiver source frame = some request) :
    ∃ hdr, request = message.asked source hdr := by
  obtain ⟨hdr, checked, -, decoded⟩ := heard_eq_some hears
  obtain ⟨-, -, method, body⟩ := Reads.checked tells checked
  have known : SdMethod.ofId hdr.methodEventId = some message.method := by
    rw [method]
    exact SdMethod.ofId_toId _
  refine ⟨hdr, ?_⟩
  rw [SdRequest.decode, known, body] at decoded
  cases message with
  | offer serviceId major minor ttl session addr =>
      have whole := SdPayload.deserializeOffer_serializeOffer serviceId major minor ttl session addr
      simp only [SdMessage.method, SdMessage.payload, whole, Option.map_some] at decoded
      exact (Option.some.inj decoded).symm
  | find serviceId =>
      have whole := SdPayload.deserializeFind_serializeFind serviceId
      simp only [SdMessage.method, SdMessage.payload, whole, Option.map_some] at decoded
      exact (Option.some.inj decoded).symm
  | subscribeEvent serviceId eventId ttl =>
      have whole := SdPayload.deserializeSubscribe_serializeSubscribe serviceId eventId ttl
      simp only [SdMessage.method, SdMessage.payload, whole, Option.map_some] at decoded
      exact (Option.some.inj decoded).symm
  | unsubscribe serviceId eventId =>
      have whole := SdPayload.deserializeSubscribe_serializeSubscribe serviceId eventId 0
      simp only [SdMessage.method, SdMessage.payload, whole, Option.map_some] at decoded
      exact (Option.some.inj decoded).symm

/-- Who hears an answer to a subscription hears what it grants. -/
theorem Grants.heard {receiver : Config n} {source : Address n} {frame : Bytes}
    {result : ReturnCode} {granted : SdPayload.Subscribe} {request : SdRequest n}
    (grants : Grants result granted frame)
    (hears : Sero.heard receiver source frame = some request) :
    request = .ack result granted := by
  obtain ⟨hdr, checked, -, decoded⟩ := heard_eq_some hears
  obtain ⟨-, -, method, code, body⟩ := Reads.checked grants checked
  have known : SdMethod.ofId hdr.methodEventId = some .subscribeAck := by
    rw [method]
    exact SdMethod.ofId_toId _
  have whole := SdPayload.deserializeSubscribe_serializeSubscribe granted.serviceId
    granted.eventId granted.ttlSeconds
  rw [SdRequest.decode, known, body] at decoded
  simp only [whole, Option.map_some, code] at decoded
  exact (Option.some.inj decoded).symm

theorem SdMethod.eq_toId {id : UInt16} {method : SdMethod}
    (known : SdMethod.ofId id = some method) : id = method.toId := by
  rw [SdMethod.ofId] at known
  repeat' split at known
  all_goals cases known
  all_goals assumption

/-- A frame with an event id is not heard. -/
theorem not_heard_of_event {receiver : Config n} {source : Address n} {frame : Bytes}
    {hdr : MessageHeader} (checked : checkFrame receiver frame = .ok hdr)
    (type : hdr.messageType = MessageType.notification.toByte) :
    heard receiver source frame = none := by
  rw [Option.eq_none_iff_forall_not_mem]
  intro request hears
  obtain ⟨header, alsoChecked, -, decoded⟩ := heard_eq_some hears
  obtain rfl : hdr = header := Except.ok.inj (checked.symm.trans alsoChecked)
  have consistent := (checkFrame_ok_iff.mp checked).typeId
  rw [MessageHeader.validateTypeIdConsistency, type] at consistent
  rw [SdRequest.decode] at decoded
  cases known : SdMethod.ofId hdr.methodEventId with
  | none =>
      rw [known] at decoded
      cases decoded
  | some method =>
      have isMethod := method.isMethodId_toId
      rw [SdMethod.eq_toId known, typeIdConsistent, MessageType.ofByte_toByte] at consistent
      simp only [isMethodId, beq_iff_eq] at isMethod
      simp only [isEventId, isMethod, bne_self_eq_false] at consistent
      cases consistent

/-! ## What is meant -/

/-- Has the application made a call about the service id that is reserved for discovery? -/
def Event.usesReserved : Event cfg → Bool
  | .issued _ _ _ serviceId _ _ _ => serviceId == sdServiceId
  | .returned (.fireAndForget serviceId _ _) _ => serviceId == sdServiceId
  | _ => false

/-- The application leaves discovery to the runtime. -/
def LeavesDiscovery (history : History cfg) : Prop :=
  ∀ event ∈ history, event.usesReserved = false

/-- The device at this address has asked for the event. -/
def SubscribedBy (history : History cfg) (subscriber : Address n) (serviceId eventId : UInt16) :
    Prop :=
  ∃ data hdr request, .dispatched subscriber data ∈ history ∧
    heard cfg subscriber data = some (.subscribe subscriber hdr request) ∧
    request.serviceId = serviceId ∧ request.eventId = eventId

/-- Why a sender has told the device at this address what it hears. -/
def SdRequest.Meant (sender : History cfg) (receiver : Address n) : SdRequest n → Prop
  | offer told => ∃ entry, OfferedBy sender entry ∧ LocatedAt sender told.providerAddr ∧
      told.message = ProviderEntry.offerMessage entry told.providerAddr
  | find _ serviceId => ∃ majorVersion nowMs,
      .returned (.findService serviceId majorVersion nowMs) (.bool true) ∈ sender
  | subscribe _ _ request => Announced sender request.serviceId receiver ∧ ∃ context nowMs,
      .returned (.subscribeEvent request.serviceId request.eventId context request.ttlSeconds
        nowMs) (.bool true) ∈ sender
  | ack result granted => SubscribedBy sender receiver granted.serviceId granted.eventId ∧
      (result = .eOk →
        .returned (.registerEvent granted.serviceId granted.eventId) (.bool true) ∈ sender)
  | unsubscribe _ request => Announced sender request.serviceId receiver ∧ ∃ result,
      .returned (.unsubscribeEvent request.serviceId request.eventId) result ∈ sender

section Meant

variable {sd : ServiceDiscovery cfg} {sender past : History cfg} {receiver : Config n}
variable {source here : Address n} {dest : Option (Address n)} {frame : Bytes}
variable {request : SdRequest n}

theorem SdOrigin.meant (origin : SdOrigin sd sender dest frame)
    (addressed : ∀ addressee ∈ dest, addressee = here)
    (hears : heard receiver source frame = some request) : request.Meant sender here := by
  cases origin with
  | offer _ _ offered located asked tells =>
      obtain ⟨hdr, rfl⟩ := tells.heard hears
      exact ⟨_, offered, located, rfl⟩
  | find _ _ sought tells =>
      obtain ⟨hdr, rfl⟩ := tells.heard hears
      exact sought.asked
  | subscribe _ _ wanted announced tells =>
      obtain ⟨hdr, rfl⟩ := tells.heard hears
      obtain rfl := addressed _ rfl
      exact ⟨announced, wanted.asked⟩
  | unsubscribe _ left announced tells =>
      obtain ⟨hdr, rfl⟩ := tells.heard hears
      obtain rfl := addressed _ rfl
      obtain ⟨past, called, -⟩ := left
      exact ⟨announced, _, called.subset (.head _)⟩
  | @ack subscriber data hdr asked result granted _ dispatched asks registered grants =>
      obtain rfl := grants.heard hears
      obtain rfl := addressed _ rfl
      exact ⟨⟨data, hdr, asked, dispatched, asks, rfl, rfl⟩, registered⟩

/-- Discovery's frames are about its own service. -/
theorem SdOrigin.serviceId (origin : SdOrigin sd past dest frame) {hdr : MessageHeader}
    (checked : checkFrame receiver frame = .ok hdr) : hdr.serviceId = sdServiceId := by
  cases origin with
  | offer _ _ _ _ _ tells | find _ _ _ tells | subscribe _ _ _ _ tells | unsubscribe _ _ _ tells =>
      exact (Reads.checked tells checked).2.1
  | ack _ _ _ grants => exact (Reads.checked grants checked).2.1

/-- What is heard in a frame is meant, whatever the frame was sent for. -/
theorem Origin.meant (origin : Origin sd sender past dest frame) (grown : past <:+ sender)
    (addressed : ∀ addressee ∈ dest, addressee = here)
    (leaves : LeavesDiscovery sender) (hears : heard receiver source frame = some request) :
    request.Meant sender here := by
  obtain ⟨hdr, checked, sd, -⟩ := heard_eq_some hears
  cases origin with
  | discovery origin => exact (origin.later grown).meant addressed hears
  | request issued carries =>
      obtain ⟨-, -, service, -⟩ := Reads.checked carries checked
      have unused := leaves _ (grown.subset issued)
      simp [Event.usesReserved, ← service, sd] at unused
  | reply executed notSd carries echoes =>
      exact absurd ((Reads.checked echoes checked).1.symm.trans sd) notSd
  | call calling announced carries =>
      obtain ⟨-, service, -⟩ := Reads.checked carries checked
      have unused := leaves _ calling.returned
      simp [Event.usesReserved, ← service, sd] at unused
  | event calling registered granted carries =>
      obtain ⟨type, -⟩ := Reads.checked carries checked
      rw [not_heard_of_event checked type] at hears
      cases hears

end Meant

/-! ## Devices on a network -/

namespace Devices

variable {devices : Devices n} {network : ∀ addr, World (devices.cfg addr)}

/-- The newest frame of one device reaches another, if it is for it. -/
def relay (devices : Devices n) (source dest : Address n) (nowMs : UInt32)
    (network : ∀ addr, World (devices.cfg addr)) : ∀ addr, World (devices.cfg addr) :=
  match (network source).history.findSome? Event.outgoing with
  | some (addressee, frame) =>
      if addressee = none ∨ addressee = some dest then
        devices.advance dest (.deliver source frame nowMs) network
      else network
  | none => network

theorem Reachable.relay (reachable : devices.Reachable network) (source dest : Address n)
    (nowMs : UInt32) : devices.Reachable (devices.relay source dest nowMs network) := by
  rw [Devices.relay]
  split
  · next addressee frame newest =>
      split
      · next addressed =>
          obtain ⟨event, occurs, outgoing⟩ := List.exists_of_findSome?_eq_some newest
          have member : (addressee, frame) ∈ (network source).history.filterMap Event.outgoing :=
            List.mem_filterMap.mpr ⟨event, occurs, outgoing⟩
          rcases addressed with rfl | rfl
          · exact reachable.deliver (.inr member) nowMs
          · exact reachable.deliver (.inl member) nowMs
      · exact reachable
  · exact reachable

theorem advance_of_ne {addr other : Address n} (different : addr ≠ other)
    (move : Move (devices.cfg other)) :
    devices.advance other move network addr = network addr :=
  Function.update_of_ne different _ _

theorem relay_of_ne {addr dest : Address n} (different : addr ≠ dest) (source : Address n)
    (nowMs : UInt32) : devices.relay source dest nowMs network addr = network addr := by
  have either : devices.relay source dest nowMs network = network ∨
      ∃ move, devices.relay source dest nowMs network = devices.advance dest move network := by
    rw [Devices.relay]
    split
    · split
      · exact .inr ⟨_, rfl⟩
      · exact .inl rfl
    · exact .inl rfl
  rcases either with same | ⟨move, advanced⟩
  · rw [same]
  · rw [advanced, advance_of_ne different]

/-! A provider that tells a subscriber of an event. -/

def sharingDevices : Devices 8 where
  cfg _ := embeddedConfig
  env _ := .benign _
  clientId addr := if addr = wordClient then 1 else 2

/-- The provider offers a service with an event, and the client finds it. -/
def offeredNetwork : ∀ addr, World (sharingDevices.cfg addr) :=
  sharingDevices.relay wordProvider wordClient 1
    (sharingDevices.advance wordProvider (.housekeeping 0)
      (sharingDevices.advance wordClient (.api (.findService 0x1000 1 0))
        (sharingDevices.advance wordProvider (.api (.offerService 0x1000 5 0))
          (sharingDevices.advance wordProvider (.api (.registerEvent 0x1000 0x8001))
            (sharingDevices.advance wordProvider (.api (.registerService 0x1000 0 1 0 false))
              (sharingDevices.advance wordProvider (.api (.setLocalAddress wordProvider))
                sharingDevices.initial))))))

/-- The client subscribes, and is told. -/
def sharingNetwork : ∀ addr, World (sharingDevices.cfg addr) :=
  sharingDevices.relay wordProvider wordClient 6
    (sharingDevices.advance wordProvider (.api (.notifyEvent 0x1000 0x8001 (.bytes [9])))
      (sharingDevices.relay wordClient wordProvider 4
        (sharingDevices.advance wordClient (.housekeeping 3)
          (sharingDevices.advance wordClient (.api (.subscribeEvent 0x1000 0x8001 7 10 2))
            offeredNetwork))))

theorem sharingNetwork_reachable : sharingDevices.Reachable sharingNetwork := by
  have offered : sharingDevices.Reachable offeredNetwork :=
    ((((((Reachable.move .refl wordProvider _ rfl).move wordProvider _ rfl).move wordProvider _
      rfl).move wordProvider _ rfl).move wordClient _ rfl).move wordProvider _ rfl).relay _ _ _
  have subscribed : sharingDevices.Reachable _ :=
    ((offered.move wordClient (.api (.subscribeEvent 0x1000 0x8001 7 10 2)) rfl).move wordClient
      (.housekeeping 3) rfl).relay wordClient wordProvider 4
  exact (subscribed.move wordProvider _ rfl).relay _ _ _

theorem sharingNetwork_leaves (addr : Address 8) :
    LeavesDiscovery (sharingNetwork addr).history := by
  by_cases client : addr = wordClient
  · subst client
    have unused : ∀ event ∈ (sharingNetwork wordClient).history, event.usesReserved = false := by
      decide +kernel
    exact unused
  · by_cases provider : addr = wordProvider
    · subst provider
      have unused : ∀ event ∈ (sharingNetwork wordProvider).history,
          event.usesReserved = false := by
        decide +kernel
      exact unused
    · -- no other device has done anything
      have idle : sharingNetwork addr = sharingDevices.initial addr := by
        simp only [sharingNetwork, offeredNetwork, relay_of_ne client, relay_of_ne provider,
          advance_of_ne client, advance_of_ne provider]
      rw [idle]
      intro event never
      cases never

/-- What a device has sent to another, or to everyone, it has sent for a reason it had before. -/
theorem Reachable.sent_origin (reachable : devices.Reachable network) {addr source : Address n}
    {data : Bytes} (sent : (network source).HasSent addr data) :
    ∃ dest sd past, (∀ addressee ∈ dest, addressee = addr) ∧ past <:+ (network source).history ∧
      Origin sd (network source).history past dest data := by
  obtain ⟨clientId, run⟩ := (reachable.device source).deeds
  have sentFor : ∀ dest, (dest, data) ∈ (network source).history.filterMap Event.outgoing →
      ∃ sd past, past <:+ (network source).history ∧
        Origin sd (network source).history past dest data := by
    intro dest sent
    obtain ⟨event, occurs, outgoing⟩ := List.mem_filterMap.mp sent
    obtain ⟨past, suffix⟩ := Runs.exists_suffix occurs
    obtain ⟨sender, -, -, -, -, -, -, -, origin⟩ := Deeds.frames_origin run suffix outgoing
    exact ⟨sender.rt.sd, past, (List.suffix_cons _ _).trans suffix, origin⟩
  rcases sent with unicast | broadcast
  · obtain ⟨sd, past, grown, origin⟩ := sentFor (some addr) unicast
    refine ⟨some addr, sd, past, ?_, grown, origin⟩
    intro addressee same
    exact (Option.some.inj same).symm
  · obtain ⟨sd, past, grown, origin⟩ := sentFor none broadcast
    refine ⟨none, sd, past, ?_, grown, origin⟩
    intro addressee same
    cases same

theorem Reachable.dispatched_origin (reachable : devices.Reachable network)
    {addr source : Address n} {data : Bytes}
    (dispatched : .dispatched source data ∈ (network addr).history) :
    ∃ dest sd past, (∀ addressee ∈ dest, addressee = addr) ∧ past <:+ (network source).history ∧
      Origin sd (network source).history past dest data :=
  reachable.sent_origin (reachable.dispatched_sent dispatched)

/-- What a device had dispatched by then had been sent to it when it had observed no more. -/
theorem Reachable.dispatched_after (reachable : devices.Reachable network)
    {addr source : Address n} {data : Bytes} {past : History (devices.cfg addr)}
    (occurs : past <:+ (network addr).history) (dispatched : .dispatched source data ∈ past) :
    ∃ earlier, devices.Reachable earlier ∧ devices.parties.Run earlier network ∧
      (earlier addr).history <:+ past ∧ (earlier source).HasSent addr data := by
  have never : .dispatched source data ∉ (devices.initial addr).history := List.not_mem_nil
  obtain ⟨earlier, reached, rest, notYet, sent⟩ :=
    Parties.Run.recorded_origin reachable records_dispatched never (occurs.subset dispatched)
  refine ⟨earlier, reached, rest, ?_, sent⟩
  rcases List.suffix_or_suffix_of_suffix (run_suffix rest addr) occurs with grown | shrunk
  · exact grown
  · exact absurd (shrunk.subset dispatched) notYet

theorem Reachable.heard_meant (reachable : devices.Reachable network) {addr source : Address n}
    (leaves : LeavesDiscovery (network source).history) {data : Bytes} {request : SdRequest n}
    (dispatched : .dispatched source data ∈ (network addr).history)
    (hears : heard (devices.cfg addr) source data = some request) :
    request.Meant (network source).history addr := by
  obtain ⟨dest, sd, past, addressed, grown, origin⟩ := reachable.dispatched_origin dispatched
  exact origin.meant grown addressed leaves hears

/-- Who has announced a service offers it, and is where it said. -/
theorem Reachable.announced_offered (reachable : devices.Reachable network)
    (leaves : ∀ addr, LeavesDiscovery (network addr).history) {addr provider : Address n}
    {serviceId : UInt16} (announced : Announced (network addr).history serviceId provider) :
    ∃ source entry, OfferedBy (network source).history entry ∧ entry.serviceId = serviceId ∧
      LocatedAt (network source).history provider := by
  obtain ⟨source, data, offer, dispatched, offers, rfl, rfl⟩ := announced
  obtain ⟨entry, offered, located, told⟩ := reachable.heard_meant (leaves source) dispatched offers
  have service : entry.serviceId = offer.serviceId := (SdMessage.offer.inj told).1.symm
  exact ⟨source, entry, offered, service, located⟩

/-- Who has been granted an event has subscribed to it. -/
theorem Reachable.granted_subscribed (reachable : devices.Reachable network)
    {provider subscriber : Address n} (leaves : LeavesDiscovery (network subscriber).history)
    {serviceId eventId : UInt16}
    (granted : GrantedTo (network provider).history serviceId eventId subscriber) :
    Announced (network subscriber).history serviceId provider ∧ ∃ context ttlSeconds nowMs,
      .returned (.subscribeEvent serviceId eventId context ttlSeconds nowMs) (.bool true) ∈
        (network subscriber).history := by
  obtain ⟨data, hdr, request, _, _, _, dispatched, asks, rfl, rfl, -⟩ := granted
  obtain ⟨announced, context, nowMs, called⟩ := reachable.heard_meant leaves dispatched asks
  exact ⟨announced, context, _, nowMs, called⟩

/-- A device is told by discovery only what its neighbour has a reason to tell it. -/
theorem discovery_agreement (reachable : devices.Reachable network)
    (leaves : ∀ addr, LeavesDiscovery (network addr).history) (addr : Address n) :
    (∀ source data request, .dispatched source data ∈ (network addr).history →
      heard (devices.cfg addr) source data = some request →
      request.Meant (network source).history addr) ∧
    ∀ serviceId provider,
      (network addr).rt.sd.getProviderAddress serviceId = some provider ∨
        .callback (.serviceFound serviceId provider) ∈ (network addr).history →
      ∃ source entry, OfferedBy (network source).history entry ∧ entry.serviceId = serviceId ∧
        LocatedAt (network source).history provider := by
  refine ⟨fun source _ _ dispatched hears =>
    reachable.heard_meant (leaves source) dispatched hears, ?_⟩
  rintro serviceId provider (known | told)
  · obtain ⟨clientId, run⟩ := (reachable.device addr).deeds
    exact reachable.announced_offered leaves ((Deeds.sourced run).announced known)
  · obtain ⟨past, occurs⟩ := Runs.exists_suffix told
    have announced : Announced past serviceId provider :=
      (reachable.device addr).callsCaused.caused _ past occurs
    exact reachable.announced_offered leaves
      (announced.later ((List.suffix_cons _ past).trans occurs))

theorem discovery_agreement_shared : ∃ source entry,
    OfferedBy (sharingNetwork source).history entry ∧ entry.serviceId = 0x1000 ∧
      LocatedAt (sharingNetwork source).history wordProvider :=
  (discovery_agreement sharingNetwork_reachable sharingNetwork_leaves wordClient).2 0x1000
    wordProvider (.inl (by decide +kernel))

/-- An event handler is called for an event that a provider has published with this payload, after
it had registered the event and granted it to the subscriber; it is the handler given last, and
the subscriber had subscribed to the event at this provider before. -/
theorem event_agreement (reachable : devices.Reachable network) {subscriber : Address n}
    (leaves : LeavesDiscovery (network subscriber).history) {context : Nat}
    {serviceId eventId : UInt16} {payload : Bytes} {past : History (devices.cfg subscriber)}
    (called : (.callback (.event context serviceId eventId payload) :: past) <:+
      (network subscriber).history) :
    lastHandler serviceId eventId past = some context ∧
    ∃ provider published before,
      Calling (network provider).history before (.notifyEvent serviceId eventId published)
        (.bool true) ∧
      published.Denotes payload ∧
      .returned (.registerEvent serviceId eventId) (.bool true) ∈ before ∧
      GrantedTo before serviceId eventId subscriber ∧
      Announced past serviceId provider ∧
      ∃ context ttlSeconds nowMs,
        .returned (.subscribeEvent serviceId eventId context ttlSeconds nowMs) (.bool true) ∈
          past := by
  obtain ⟨⟨provider, data, hdr, ⟨dispatched, checked, notSd, body⟩, service, event, isEvent⟩,
    current⟩ := (reachable.device subscriber).callsCaused.caused _ past called
  have occurs := (List.suffix_cons _ past).trans called
  -- what the network was like before the event arrived
  obtain ⟨earlier, reached, rest, known, sent⟩ := reachable.dispatched_after occurs dispatched
  have unused : LeavesDiscovery (earlier subscriber).history :=
    fun event member => leaves event ((known.trans occurs).subset member)
  obtain ⟨dest, sd, before, addressed, grown, origin⟩ := reached.sent_origin sent
  refine ⟨current, provider, ?_⟩
  have notOther : ∀ type : MessageType, type ≠ .notification → hdr.messageType ≠ type.toByte := by
    intro type other same
    rw [same, MessageType.ofByte_toByte] at isEvent
    exact other (Option.some.inj isEvent)
  cases origin with
  | discovery origin => exact absurd (origin.serviceId checked) notSd
  | request issued carries =>
      exact absurd (Reads.checked carries checked).1 (notOther .request (by decide))
  | reply executed otherService carries echoes =>
      rcases (Reads.checked carries checked).1 with type | type
      · exact absurd type (notOther .response (by decide))
      · exact absurd type (notOther .error (by decide))
  | call called announced carries =>
      exact absurd (Reads.checked carries checked).1 (notOther .requestNoReturn (by decide))
  | @event _ _ published addressee _ calling registered granted carries =>
      obtain ⟨-, sameService, sameEvent, denotes⟩ := Reads.checked carries checked
      obtain rfl := addressed addressee rfl
      rw [sameService] at service
      rw [sameEvent] at event
      rw [body] at denotes
      subst service event
      obtain ⟨announced, context, ttlSeconds, nowMs, subscribed⟩ :=
        reached.granted_subscribed unused (granted.later grown)
      exact ⟨published, before, calling.later (run_suffix rest provider), denotes, registered,
        granted, announced.later known, context, ttlSeconds, nowMs, known.subset subscribed⟩

/-- The events a device has been told of, newest first. -/
def eventCallbacks (history : History cfg) : List (Nat × UInt16 × UInt16 × Bytes) :=
  history.filterMap fun
    | .callback (.event context serviceId eventId payload) =>
        some (context, serviceId, eventId, payload)
    | _ => none

theorem mem_eventCallbacks {history : History cfg} {context : Nat} {serviceId eventId : UInt16}
    {payload : Bytes} (told : (context, serviceId, eventId, payload) ∈ eventCallbacks history) :
    .callback (.event context serviceId eventId payload) ∈ history := by
  obtain ⟨event, occurs, selected⟩ := List.mem_filterMap.mp told
  cases event with
  | callback callback =>
      cases callback with
      | event =>
          cases selected
          exact occurs
      | _ => cases selected
  | _ => cases selected

theorem event_agreement_shared : ∃ provider published before,
    Calling (sharingNetwork provider).history before (.notifyEvent 0x1000 0x8001 published)
      (.bool true) ∧
    published.Denotes [9] ∧ GrantedTo before 0x1000 0x8001 wordClient := by
  have told : (7, 0x1000, 0x8001, [9]) ∈ eventCallbacks (sharingNetwork wordClient).history := by
    decide +kernel
  obtain ⟨past, called⟩ := Runs.exists_suffix (mem_eventCallbacks told)
  obtain ⟨-, provider, published, before, calling, denotes, -, granted, -⟩ :=
    event_agreement sharingNetwork_reachable (sharingNetwork_leaves wordClient) called
  exact ⟨provider, published, before, calling, denotes, granted⟩

/-- A request handler is entered for a request that has been issued to this device, or a call
that has been made to it once it had been announced to the caller, with the service, method and
payload the caller gave; it is the one registered for the service. -/
theorem execution_agreement (reachable : devices.Reachable network) {provider : Address n}
    {entry : ServiceEntry} {keys : MessageAuthenticator (devices.cfg provider)}
    {methodId : UInt16} {payload : Bytes} {capacity : Option Nat}
    {past : History (devices.cfg provider)}
    (entered : (.onRequest entry keys methodId payload capacity :: past) <:+
      (network provider).history) :
    registration entry.serviceId past = some entry ∧
    ∃ client sent, sent.Denotes payload ∧
      ((∃ handle requestId hasCallback, capacity = some (devices.cfg provider).maxPayloadSize ∧
        .issued handle requestId provider entry.serviceId methodId sent hasCallback ∈
          (network client).history) ∨
       ∃ ok before, capacity = none ∧
        Calling (network client).history before (.fireAndForget entry.serviceId methodId sent)
          (.bool ok) ∧
        Announced before entry.serviceId provider) := by
  obtain ⟨⟨client, data, hdr, ⟨dispatched, checked, notSd, body⟩, service, method, asks⟩,
    current⟩ := (reachable.device provider).callsCaused.caused _ past entered
  have occurs := ((List.suffix_cons _ past).trans entered).subset dispatched
  obtain ⟨dest, sd, before, addressed, grown, origin⟩ := reachable.dispatched_origin occurs
  refine ⟨current, client, ?_⟩
  have onlyType : ∀ type : MessageType, hdr.messageType = type.toByte →
      MessageType.ofByte hdr.messageType = some type := by
    intro type same
    rw [same, MessageType.ofByte_toByte]
  cases origin with
  | discovery origin => exact absurd (origin.serviceId checked) notSd
  | @request handle requestId addressee _ _ sent hasCallback _ issued carries =>
      obtain ⟨type, -, sameService, sameMethod, denotes⟩ := Reads.checked carries checked
      obtain rfl := addressed addressee rfl
      rw [sameService] at service
      rw [sameMethod] at method
      rw [body] at denotes
      subst service method
      have known := onlyType .request type
      cases asks with
      | request =>
          exact ⟨sent, denotes, .inl ⟨handle, requestId, hasCallback, rfl, grown.subset issued⟩⟩
      | requestNoReturn other => cases known.symm.trans other
  | reply executed otherService carries echoes =>
      have reply : MessageType.ofByte hdr.messageType = some .response ∨
          MessageType.ofByte hdr.messageType = some .error :=
        (Reads.checked carries checked).1.imp (onlyType .response) (onlyType .error)
      cases asks with
      | request other => rcases reply with known | known <;> cases known.symm.trans other
      | requestNoReturn other => rcases reply with known | known <;> cases known.symm.trans other
  | @call _ _ sent ok addressee _ calling announced carries =>
      obtain ⟨type, sameService, sameMethod, denotes⟩ := Reads.checked carries checked
      obtain rfl := addressed addressee rfl
      rw [sameService] at service
      rw [sameMethod] at method
      rw [body] at denotes
      subst service method
      have known := onlyType .requestNoReturn type
      cases asks with
      | request other => cases known.symm.trans other
      | requestNoReturn => exact ⟨sent, denotes, .inr ⟨ok, before, rfl, calling, announced⟩⟩
  | event notified registered granted carries =>
      have known := onlyType .notification (Reads.checked carries checked).1
      cases asks with
      | request other => cases known.symm.trans other
      | requestNoReturn other => cases known.symm.trans other

theorem execution_agreement_word : ∃ client sent, sent.Denotes [5] ∧
    ∃ handle requestId hasCallback,
      .issued handle requestId wordProvider 0x1000 1 sent hasCallback ∈
        (wordNetwork client).history := by
  have entered : (wordService, 1, [5], some 256) ∈
      handlersEntered (wordNetwork wordProvider).history := by
    decide +kernel
  obtain ⟨keys, occurs⟩ := mem_handlersEntered entered
  obtain ⟨past, suffix⟩ := Runs.exists_suffix occurs
  obtain ⟨-, client, sent, denotes, issued | ⟨ok, before, none, -⟩⟩ :=
    execution_agreement wordNetwork_reachable suffix
  · obtain ⟨handle, requestId, hasCallback, -, issued⟩ := issued
    exact ⟨client, sent, denotes, handle, requestId, hasCallback, issued⟩
  · cases none

end Devices

end Sero
