import Sero.Core.MessageHeader
import Sero.Library.Lens
import Sero.Library.Table

/-!
# Service discovery

Provider, consumer and subscription state, and the messages exchanged about it.
Tables are live prefixes of fixed arrays whose entries never move, so a pointer
into one is written as the first entry with its key.  Operations that call the
application (`processFinds`, `processConsumerTtls`, `handleOffer`,
`handleSubscribeAck`) act on a surrounding state in which the callbacks may call
discovery again.
-/

namespace Sero

open Library

variable {n : Nat}

/-- The messages discovery sends, before encoding. -/
inductive SdMessage (n : Nat) where
  | offer (serviceId : UInt16) (majorVersion minorVersion : UInt8)
      (ttlSeconds sessionId : UInt16) (providerAddr : Address n)
  | find (serviceId : UInt16)
  | subscribeEvent (serviceId eventId ttlSeconds : UInt16)
  | unsubscribe (serviceId eventId : UInt16)
  deriving DecidableEq

namespace SdPayload

def serializeOffer (serviceId : UInt16) (majorVersion minorVersion : UInt8)
    (ttlSeconds sessionId : UInt16) (providerAddr : Address n) : Bytes :=
  writeU16 serviceId ++ [majorVersion, minorVersion] ++ writeU16 ttlSeconds ++
    writeU16 sessionId ++ providerAddr.val

structure Offer (n : Nat) where
  serviceId : UInt16
  majorVersion : UInt8
  minorVersion : UInt8
  ttlSeconds : UInt16
  sessionId : UInt16
  providerAddr : Address n
  deriving DecidableEq

def deserializeOffer (data : Bytes) : Option (Offer n) :=
  if enough : 8 + n ≤ data.length then
    some {
      serviceId := readU16 data 0
      majorVersion := byteAt data 2
      minorVersion := byteAt data 3
      ttlSeconds := readU16 data 4
      sessionId := readU16 data 6
      providerAddr := ⟨(data.drop 8).take n, by simp; omega⟩ }
  else none

def serializeFind (serviceId : UInt16) : Bytes :=
  writeU16 serviceId ++ [0, 0]

def deserializeFind (data : Bytes) : Option UInt16 :=
  if data.length < 4 then none else some (readU16 data 0)

def serializeSubscribe (serviceId eventId ttlSeconds : UInt16) : Bytes :=
  writeU16 serviceId ++ writeU16 eventId ++ writeU16 ttlSeconds ++ [0, 0]

structure Subscribe where
  serviceId : UInt16
  eventId : UInt16
  ttlSeconds : UInt16
  deriving DecidableEq

def deserializeSubscribe (data : Bytes) : Option Subscribe :=
  if data.length < 8 then none
  else some {
    serviceId := readU16 data 0
    eventId := readU16 data 2
    ttlSeconds := readU16 data 4 }

end SdPayload

namespace SdMessage

def method : SdMessage n → SdMethod
  | offer .. => .offerService
  | find .. => .findService
  | subscribeEvent .. => .subscribeEvent
  | unsubscribe .. => .unsubscribe

def payload : SdMessage n → Bytes
  | offer serviceId major minor ttl session addr =>
      SdPayload.serializeOffer serviceId major minor ttl session addr
  | find serviceId => SdPayload.serializeFind serviceId
  | subscribeEvent serviceId eventId ttl =>
      SdPayload.serializeSubscribe serviceId eventId ttl
  | unsubscribe serviceId eventId => SdPayload.serializeSubscribe serviceId eventId 0

/-- `build_sd_header` followed by the payload; the sequence counter is set when
the message is sent. -/
def encode (clientId : UInt16) (message : SdMessage n) : Bytes :=
  MessageHeader.serialize {
    messageType := MessageType.requestNoReturn.toByte
    serviceId := sdServiceId
    methodEventId := message.method.toId
    clientId
    payloadLength := UInt32.ofNat message.payload.length } ++ message.payload

end SdMessage

inductive ProviderState where
  | notOffered
  | offered
  deriving DecidableEq, Repr

inductive ConsumerState where
  | notFound
  | searching
  | found
  deriving DecidableEq, Repr

structure ProviderEntry where
  serviceId : UInt16 := 0
  majorVersion : UInt8 := 0
  minorVersion : UInt8 := 0
  ttlSeconds : UInt16 := 0
  sessionId : UInt16 := 0
  state : ProviderState := .notOffered
  lastOfferMs : UInt32 := 0
  active : Bool := false
  needsBroadcast : Bool := false
  deriving DecidableEq, Repr

/-- The address with the same byte throughout. -/
def Address.filled (n : Nat) (byte : UInt8) : Address n :=
  ⟨List.replicate n byte, List.length_replicate⟩

/-- The all-zero address. -/
def Address.zero (n : Nat) : Address n :=
  Address.filled n 0

structure ConsumerEntry (n : Nat) where
  serviceId : UInt16 := 0
  expectedMajor : UInt8 := 0
  state : ConsumerState := .notFound
  providerAddr : Address n := Address.zero n
  ttlExpiryMs : UInt32 := 0
  retryCount : UInt8 := 0
  nextRetryMs : UInt32 := 0
  active : Bool := false
  sessionId : UInt16 := 0
  sessionValid : Bool := false
  deriving DecidableEq

structure SubTracker where
  serviceId : UInt16 := 0
  eventId : UInt16 := 0
  requestedTtl : UInt16 := 0
  grantedTtl : UInt16 := 0
  active : Bool := false
  appRegistered : Bool := false
  needsSend : Bool := false
  needsUnsubscribe : Bool := false
  lastSentMs : UInt32 := 0
  ackRetryCount : UInt8 := 0
  deriving DecidableEq, Repr

/-- Which application callbacks are set. -/
structure SdCallbacks where
  onServiceFound : Bool := false
  onServiceLost : Bool := false
  onSubscriptionAck : Bool := false
  deriving DecidableEq, Repr

structure ServiceDiscovery (cfg : Config n) where
  providers : List ProviderEntry := []
  consumers : List (ConsumerEntry n) := []
  subTrackers : List SubTracker := []
  localAddr : Address n := Address.zero n
  clientId : UInt16 := 0
  callbacks : SdCallbacks := {}

namespace ServiceDiscovery

variable {cfg : Config n}

def findProvider (sd : ServiceDiscovery cfg) (serviceId : UInt16) : Option ProviderEntry :=
  Table.lookup ProviderEntry.serviceId serviceId sd.providers

def findConsumer (sd : ServiceDiscovery cfg) (serviceId : UInt16) :
    Option (ConsumerEntry n) :=
  Table.lookup ConsumerEntry.serviceId serviceId sd.consumers

/-- The key of a subscription. -/
def SubTracker.key (tracker : SubTracker) : UInt16 × UInt16 :=
  (tracker.serviceId, tracker.eventId)

def findSubTracker (sd : ServiceDiscovery cfg) (serviceId eventId : UInt16) :
    Option SubTracker :=
  Table.lookup SubTracker.key (serviceId, eventId) sd.subTrackers

/-- Write through the pointer `find_consumer` returned. -/
def updateConsumer (sd : ServiceDiscovery cfg) (serviceId : UInt16)
    (update : ConsumerEntry n → ConsumerEntry n) : ServiceDiscovery cfg :=
  { sd with
    consumers :=
      Table.updateFirst (fun entry => entry.serviceId == serviceId) update sd.consumers }

/-- Write through `consumers_[index]`. -/
def updateConsumerAt (sd : ServiceDiscovery cfg) (index : Nat)
    (update : ConsumerEntry n → ConsumerEntry n) : ServiceDiscovery cfg :=
  { sd with consumers := sd.consumers.modify index update }

def updateSubTracker (sd : ServiceDiscovery cfg) (serviceId eventId : UInt16)
    (update : SubTracker → SubTracker) : ServiceDiscovery cfg :=
  { sd with
    subTrackers :=
      Table.updateFirst (fun tracker => SubTracker.key tracker == (serviceId, eventId)) update
        sd.subTrackers }

/-! ## The interface and the periodic work -/

/-- A non-zero 16-bit value derived from client id, service id and clock. -/
def generateSessionId (sd : ServiceDiscovery cfg) (serviceId : UInt16) (nowMs : UInt32) :
    UInt16 :=
  let seed := ((sd.clientId.toUInt32 <<< 16) ||| serviceId.toUInt32) ^^^ nowMs
  let id := (seed * 2654435761).toUInt16
  if id = 0 then 1 else id

def offer (sd : ServiceDiscovery cfg) (serviceId : UInt16) (major minor : UInt8)
    (ttlSeconds : UInt16) (nowMs : UInt32) : Bool × ServiceDiscovery cfg :=
  let write := fun _ : ProviderEntry =>
    { serviceId
      majorVersion := major
      minorVersion := minor
      ttlSeconds := if ttlSeconds > 0 then ttlSeconds else cfg.offerTtlSeconds
      sessionId := sd.generateSessionId serviceId nowMs
      state := .offered
      lastOfferMs := nowMs
      active := true
      needsBroadcast := true }
  match Table.upsert (fun entry => entry.serviceId == serviceId) write {}
      cfg.maxServices sd.providers with
  | none => (false, sd)
  | some providers => (true, { sd with providers })

def stopOffer (sd : ServiceDiscovery cfg) (serviceId : UInt16) : ServiceDiscovery cfg :=
  { sd with
    providers := Table.updateFirst (fun entry => entry.serviceId == serviceId)
      (fun entry => { entry with state := .notOffered, active := false }) sd.providers }

/-- What `find` writes to the entry of its service. -/
def ConsumerEntry.search (serviceId : UInt16) (expectedMajor : UInt8) (nowMs : UInt32)
    (entry : ConsumerEntry n) : ConsumerEntry n :=
  { entry with
    serviceId
    expectedMajor
    state := .searching
    retryCount := 0
    nextRetryMs := nowMs
    active := true
    ttlExpiryMs := 0 }

@[simp] theorem ConsumerEntry.search_serviceId (serviceId : UInt16) (expectedMajor : UInt8)
    (nowMs : UInt32) (entry : ConsumerEntry n) :
    (ConsumerEntry.search serviceId expectedMajor nowMs entry).serviceId = serviceId := rfl

def find (sd : ServiceDiscovery cfg) (serviceId : UInt16) (expectedMajor : UInt8)
    (nowMs : UInt32) : Bool × ServiceDiscovery cfg :=
  match Table.upsert (fun entry => entry.serviceId == serviceId)
      (ConsumerEntry.search serviceId expectedMajor nowMs) {} cfg.maxKnownServices
      sd.consumers with
  | none => (false, sd)
  | some consumers => (true, { sd with consumers })

/-- What `subscribe_event` writes to its tracker; `needs_unsubscribe` stays. -/
def SubTracker.subscribe (serviceId eventId ttlSeconds : UInt16) (nowMs : UInt32)
    (tracker : SubTracker) : SubTracker :=
  { tracker with
    serviceId
    eventId
    requestedTtl := ttlSeconds
    grantedTtl := 0
    active := true
    appRegistered := true
    needsSend := true
    lastSentMs := nowMs }

def subscribeEvent (sd : ServiceDiscovery cfg) (serviceId eventId ttlSeconds : UInt16)
    (nowMs : UInt32) : Bool × ServiceDiscovery cfg :=
  match Table.upsert (fun tracker => SubTracker.key tracker == (serviceId, eventId))
      (SubTracker.subscribe serviceId eventId ttlSeconds nowMs) {}
      (cfg.maxKnownServices * cfg.maxEvents) sd.subTrackers with
  | none => (false, sd)
  | some subTrackers => (true, { sd with subTrackers })

def unsubscribeEvent (sd : ServiceDiscovery cfg) (serviceId eventId : UInt16) :
    Bool × ServiceDiscovery cfg :=
  ((sd.findSubTracker serviceId eventId).isSome,
    sd.updateSubTracker serviceId eventId fun tracker =>
      { tracker with appRegistered := false, needsUnsubscribe := true })

/-- The address of a service in state `FOUND`. -/
def getProviderAddress (sd : ServiceDiscovery cfg) (serviceId : UInt16) :
    Option (Address n) :=
  match sd.findConsumer serviceId with
  | none => none
  | some entry => if entry.state = .found then some entry.providerAddr else none

/-- The reboot test of `Runtime`, made before the offer is handled. -/
def detectReboot (sd : ServiceDiscovery cfg) (serviceId sessionId : UInt16) : Bool :=
  match sd.findConsumer serviceId with
  | none => false
  | some entry =>
      entry.sessionValid && decide (entry.state = .found) && entry.sessionId != sessionId

def ProviderEntry.offerMessage (entry : ProviderEntry) (localAddr : Address n) :
    SdMessage n :=
  .offer entry.serviceId entry.majorVersion entry.minorVersion entry.ttlSeconds
    entry.sessionId localAddr

/-- Is an offer due, first or at TTL/2? -/
def ProviderEntry.shouldSend (entry : ProviderEntry) (nowMs : UInt32) : Bool :=
  decide (entry.state = .offered) &&
    (entry.needsBroadcast ||
      timeAfterOrEq nowMs (entry.lastOfferMs + entry.ttlSeconds.toUInt32 * 500))

/-- The offers to broadcast, and the state after broadcasting them. -/
def processOffers (sd : ServiceDiscovery cfg) (nowMs : UInt32) :
    List (SdMessage n) × ServiceDiscovery cfg :=
  ((sd.providers.filter fun entry => ProviderEntry.shouldSend entry nowMs).map
      fun entry => ProviderEntry.offerMessage entry sd.localAddr,
    { sd with
      providers := sd.providers.map fun entry =>
        if ProviderEntry.shouldSend entry nowMs then
          { entry with lastOfferMs := nowMs, needsBroadcast := false }
        else entry })

/-- One turn of the renewal loop: what to send to the provider, and the tracker
afterwards. -/
def renewTracker (cfg : Config n) (nowMs : UInt32) (tracker : SubTracker) :
    Option (SdMessage n) × SubTracker :=
  let subscribe :=
    SdMessage.subscribeEvent tracker.serviceId tracker.eventId tracker.requestedTtl
  if tracker.needsUnsubscribe then
    (some (.unsubscribe tracker.serviceId tracker.eventId),
      { tracker with active := false, needsUnsubscribe := false })
  else if tracker.needsSend then
    (some subscribe, { tracker with needsSend := false, lastSentMs := nowMs })
  else if tracker.grantedTtl > 0 then
    if timeAfterOrEq nowMs (tracker.lastSentMs + tracker.grantedTtl.toUInt32 * 500) then
      (some subscribe, { tracker with lastSentMs := nowMs })
    else (none, tracker)
  else if timeAfterOrEq nowMs
      (tracker.lastSentMs + cfg.subscriptionTtlSeconds.toUInt32 * 1000) then
    if tracker.ackRetryCount < 2 then
      (some subscribe, { tracker with
        lastSentMs := nowMs
        ackRetryCount := tracker.ackRetryCount + 1 })
    else (none, { tracker with active := false })
  else (none, tracker)

/-- The renewal loop's guard: an active tracker of a service that is `FOUND` is
renewed with that service's provider. -/
def renew (sd : ServiceDiscovery cfg) (nowMs : UInt32) (tracker : SubTracker) :
    Option (Address n × SdMessage n) × SubTracker :=
  match tracker.active, sd.getProviderAddress tracker.serviceId with
  | true, some provider =>
      let (message, after) := renewTracker cfg nowMs tracker
      (message.map fun message => (provider, message), after)
  | _, _ => (none, tracker)

/-- The messages to send, in tracker order, and the state afterwards. -/
def processSubscriptionRenewals (sd : ServiceDiscovery cfg) (nowMs : UInt32) :
    List (Address n × SdMessage n) × ServiceDiscovery cfg :=
  (sd.subTrackers.filterMap fun tracker => (sd.renew nowMs tracker).1,
    { sd with subTrackers := sd.subTrackers.map fun tracker => (sd.renew nowMs tracker).2 })

/-- The offers answering an `SD_FIND_SERVICE`; `0xFFFF` asks for every service. -/
def handleFind (sd : ServiceDiscovery cfg) (requestedServiceId : UInt16) :
    List (SdMessage n) :=
  (sd.providers.filter fun entry =>
      decide (entry.state = .offered) &&
        (requestedServiceId == 0xFFFF || entry.serviceId == requestedServiceId)).map
    fun entry => ProviderEntry.offerMessage entry sd.localAddr

def SubTracker.resubscribe (nowMs : UInt32) (tracker : SubTracker) : SubTracker :=
  { tracker with
    active := true
    ackRetryCount := 0
    needsSend := true
    grantedTtl := 0
    lastSentMs := nowMs }

/-- Flag every subscription the application wants of a service for re-sending. -/
def flagResubscribe (sd : ServiceDiscovery cfg) (serviceId : UInt16) (nowMs : UInt32) :
    ServiceDiscovery cfg :=
  { sd with
    subTrackers := sd.subTrackers.map fun tracker =>
      if tracker.appRegistered && tracker.serviceId == serviceId then
        SubTracker.resubscribe nowMs tracker
      else tracker }

/-- `compute_jitter`, as the integer the caller adds. -/
def computeJitter (sd : ServiceDiscovery cfg) (serviceId : UInt16) (retry : UInt8) : Int :=
  let seed := (sd.clientId.toUInt32 <<< 16) |||
    (serviceId.toUInt32 ^^^ (retry.toUInt32 * 0x9E3779B9))
  let seed := seed * 1103515245 + 12345
  (seed % (2 * cfg.sdFindJitterMs + 1)).toInt32.toInt - cfg.sdFindJitterMs.toInt32.toInt

/-- The backoff delay after `retry` sends. -/
def findDelay (cfg : Config n) (retry : UInt8) : UInt32 :=
  (List.range retry.toNat).foldl
    (fun delay _ => delay * cfg.sdFindBackoffMultiplier.toUInt32) cfg.sdFindInitialDelayMs

def nextRetry (sd : ServiceDiscovery cfg) (serviceId : UInt16) (retry : UInt8)
    (nowMs : UInt32) : UInt32 :=
  let next : Int := nowMs.toNat + (findDelay cfg retry).toNat +
    sd.computeJitter serviceId retry
  if 0 < next then UInt32.ofInt next else nowMs

/-- What an accepted offer records before any callback runs. -/
def recordOffer (sd : ServiceDiscovery cfg) (serviceId ttlSeconds sessionId : UInt16)
    (providerAddr : Address n) (nowMs : UInt32) : ServiceDiscovery cfg :=
  sd.updateConsumer serviceId fun entry =>
    { entry with
      providerAddr
      ttlExpiryMs := nowMs + ttlSeconds.toUInt32 * 1000
      sessionId
      sessionValid := true }

def markFound (sd : ServiceDiscovery cfg) (serviceId : UInt16) : ServiceDiscovery cfg :=
  sd.updateConsumer serviceId fun entry => { entry with state := .found }

/-- The last retry went unanswered. -/
def giveUpFind (sd : ServiceDiscovery cfg) (index : Nat) (retryCount : UInt8) :
    ServiceDiscovery cfg :=
  sd.updateConsumerAt index fun entry => { entry with retryCount, state := .notFound }

def scheduleRetry (sd : ServiceDiscovery cfg) (index : Nat) (retryCount : UInt8)
    (nowMs : UInt32) : ServiceDiscovery cfg :=
  sd.updateConsumerAt index fun entry =>
    { entry with
      retryCount
      nextRetryMs := sd.nextRetry entry.serviceId retryCount nowMs }

/-- The lease of a found service ran out. -/
def expireConsumer (sd : ServiceDiscovery cfg) (index : Nat) : ServiceDiscovery cfg :=
  sd.updateConsumerAt index fun entry =>
    { entry with state := .notFound, sessionValid := false }

/-- §6.1: a rejected subscription becomes inactive. -/
def recordAck (sd : ServiceDiscovery cfg) (serviceId eventId : UInt16)
    (result : ReturnCode) (grantedTtl : UInt16) : ServiceDiscovery cfg :=
  sd.updateSubTracker serviceId eventId fun tracker =>
    if tracker.active then
      if result = .eOk then { tracker with grantedTtl }
      else { tracker with active := false }
    else tracker

/-! ## What the writes do -/

theorem offer_tables (sd : ServiceDiscovery cfg) (serviceId : UInt16) (major minor : UInt8)
    (ttlSeconds : UInt16) (nowMs : UInt32) :
    (sd.offer serviceId major minor ttlSeconds nowMs).2.consumers = sd.consumers ∧
      (sd.offer serviceId major minor ttlSeconds nowMs).2.subTrackers = sd.subTrackers := by
  simp only [offer]
  split <;> exact ⟨rfl, rfl⟩

theorem find_subTrackers (sd : ServiceDiscovery cfg) (serviceId : UInt16)
    (expectedMajor : UInt8) (nowMs : UInt32) :
    (sd.find serviceId expectedMajor nowMs).2.subTrackers = sd.subTrackers := by
  rw [find]
  split <;> rfl

theorem subscribeEvent_consumers (sd : ServiceDiscovery cfg)
    (serviceId eventId ttlSeconds : UInt16) (nowMs : UInt32) :
    (sd.subscribeEvent serviceId eventId ttlSeconds nowMs).2.consumers = sd.consumers := by
  rw [subscribeEvent]
  split <;> rfl

theorem offer_clientId (sd : ServiceDiscovery cfg) (serviceId : UInt16) (major minor : UInt8)
    (ttlSeconds : UInt16) (nowMs : UInt32) :
    (sd.offer serviceId major minor ttlSeconds nowMs).2.clientId = sd.clientId := by
  simp only [offer]
  split <;> rfl

theorem find_clientId (sd : ServiceDiscovery cfg) (serviceId : UInt16)
    (expectedMajor : UInt8) (nowMs : UInt32) :
    (sd.find serviceId expectedMajor nowMs).2.clientId = sd.clientId := by
  rw [find]
  split <;> rfl

theorem subscribeEvent_clientId (sd : ServiceDiscovery cfg)
    (serviceId eventId ttlSeconds : UInt16) (nowMs : UInt32) :
    (sd.subscribeEvent serviceId eventId ttlSeconds nowMs).2.clientId = sd.clientId := by
  rw [subscribeEvent]
  split <;> rfl

/-- The turns of the renewal loop, with what each sends and leaves behind. -/
inductive RenewalTurn (cfg : Config n) (nowMs : UInt32) (tracker : SubTracker) :
    Option (SdMessage n) × SubTracker → Prop where
  | unsubscribe (wanted : tracker.needsUnsubscribe = true) :
      RenewalTurn cfg nowMs tracker (some (.unsubscribe tracker.serviceId tracker.eventId),
        { tracker with active := false, needsUnsubscribe := false })
  | first (kept : tracker.needsUnsubscribe = false) (due : tracker.needsSend = true) :
      RenewalTurn cfg nowMs tracker
        (some (.subscribeEvent tracker.serviceId tracker.eventId tracker.requestedTtl),
          { tracker with needsSend := false, lastSentMs := nowMs })
  | renewal (kept : tracker.needsUnsubscribe = false) (sent : tracker.needsSend = false)
      (granted : tracker.grantedTtl > 0)
      (due : timeAfterOrEq nowMs (tracker.lastSentMs + tracker.grantedTtl.toUInt32 * 500)) :
      RenewalTurn cfg nowMs tracker
        (some (.subscribeEvent tracker.serviceId tracker.eventId tracker.requestedTtl),
          { tracker with lastSentMs := nowMs })
  | lives (kept : tracker.needsUnsubscribe = false) (sent : tracker.needsSend = false)
      (granted : tracker.grantedTtl > 0)
      (early : ¬timeAfterOrEq nowMs
        (tracker.lastSentMs + tracker.grantedTtl.toUInt32 * 500)) :
      RenewalTurn cfg nowMs tracker (none, tracker)
  | retry (kept : tracker.needsUnsubscribe = false) (sent : tracker.needsSend = false)
      (unanswered : ¬tracker.grantedTtl > 0)
      (due : timeAfterOrEq nowMs
        (tracker.lastSentMs + cfg.subscriptionTtlSeconds.toUInt32 * 1000)) :
      RenewalTurn cfg nowMs tracker
        (some (.subscribeEvent tracker.serviceId tracker.eventId tracker.requestedTtl),
          { tracker with lastSentMs := nowMs, ackRetryCount := tracker.ackRetryCount + 1 })
  | giveUp (kept : tracker.needsUnsubscribe = false) (sent : tracker.needsSend = false)
      (unanswered : ¬tracker.grantedTtl > 0)
      (due : timeAfterOrEq nowMs
        (tracker.lastSentMs + cfg.subscriptionTtlSeconds.toUInt32 * 1000)) :
      RenewalTurn cfg nowMs tracker (none, { tracker with active := false })
  | waits (kept : tracker.needsUnsubscribe = false) (sent : tracker.needsSend = false)
      (unanswered : ¬tracker.grantedTtl > 0)
      (early : ¬timeAfterOrEq nowMs
        (tracker.lastSentMs + cfg.subscriptionTtlSeconds.toUInt32 * 1000)) :
      RenewalTurn cfg nowMs tracker (none, tracker)

theorem renewTracker_turn (nowMs : UInt32) (tracker : SubTracker) :
    RenewalTurn cfg nowMs tracker (renewTracker cfg nowMs tracker) := by
  rw [renewTracker]
  split
  · next wanted => exact .unsubscribe wanted
  · next kept =>
      have kept := Bool.eq_false_iff.mpr kept
      split
      · next due => exact .first kept due
      · next sent =>
          have sent := Bool.eq_false_iff.mpr sent
          split
          · next granted =>
              split
              · next due => exact .renewal kept sent granted due
              · next early => exact .lives kept sent granted early
          · next unanswered =>
              split
              · next due =>
                  split
                  · exact .retry kept sent unanswered due
                  · exact .giveUp kept sent unanswered due
              · next early => exact .waits kept sent unanswered early

/-- What a turn of the renewal loop can send. -/
theorem renewTracker_message {nowMs : UInt32} {tracker : SubTracker} {message : SdMessage n}
    (sends : (renewTracker cfg nowMs tracker).1 = some message) :
    tracker.needsUnsubscribe = true ∧
        message = .unsubscribe tracker.serviceId tracker.eventId ∨
      tracker.needsUnsubscribe = false ∧
        message = .subscribeEvent tracker.serviceId tracker.eventId tracker.requestedTtl := by
  have turn := @renewTracker_turn _ cfg nowMs tracker
  cases result : renewTracker cfg nowMs tracker with
  | mk sent after =>
      rw [result] at turn sends
      cases turn with
      | unsubscribe wanted =>
          cases sends
          exact .inl ⟨wanted, rfl⟩
      | first kept | renewal kept | retry kept =>
          cases sends
          exact .inr ⟨kept, rfl⟩
      | lives | giveUp | waits => cases sends

theorem mem_processSubscriptionRenewals {sd : ServiceDiscovery cfg} {nowMs : UInt32}
    {dest : Address n} {message : SdMessage n}
    (sends : (dest, message) ∈ (sd.processSubscriptionRenewals nowMs).1) :
    ∃ tracker ∈ sd.subTrackers, tracker.active = true ∧
      sd.getProviderAddress tracker.serviceId = some dest ∧
      (renewTracker cfg nowMs tracker).1 = some message := by
  obtain ⟨tracker, member, renewed⟩ := List.mem_filterMap.mp sends
  rw [renew] at renewed
  split at renewed
  · next provider active found =>
      obtain ⟨sent, isSent, pair⟩ := Option.map_eq_some_iff.mp renewed
      cases pair
      exact ⟨tracker, member, active, found, isSent⟩
  · cases renewed

/-- No service is tracked twice. -/
def DistinctConsumers (sd : ServiceDiscovery cfg) : Prop :=
  Table.Distinct ConsumerEntry.serviceId sd.consumers

theorem findConsumer_updateConsumer (sd : ServiceDiscovery cfg) {serviceId : UInt16}
    {update : ConsumerEntry n → ConsumerEntry n}
    (keeps : ∀ entry, (update entry).serviceId = entry.serviceId) (wanted : UInt16) :
    (sd.updateConsumer serviceId update).findConsumer wanted =
      if wanted = serviceId then (sd.findConsumer wanted).map update
      else sd.findConsumer wanted :=
  Table.lookup_updateFirst ConsumerEntry.serviceId
    (fun entry here => (keeps entry).trans here) wanted sd.consumers

/-- `find` on a service that is tracked already. -/
theorem findConsumer_find {sd : ServiceDiscovery cfg} {serviceId : UInt16}
    {entry : ConsumerEntry n} (tracked : sd.findConsumer serviceId = some entry)
    (expectedMajor : UInt8) (nowMs : UInt32) :
    (sd.find serviceId expectedMajor nowMs).2.findConsumer serviceId =
      some (ConsumerEntry.search serviceId expectedMajor nowMs entry) := by
  have present : (Table.lookup ConsumerEntry.serviceId serviceId sd.consumers).isSome =
      true := Option.isSome_of_eq_some tracked
  rw [find]
  cases written : Table.upsert (fun entry => entry.serviceId == serviceId)
      (ConsumerEntry.search serviceId expectedMajor nowMs) {} cfg.maxKnownServices
      sd.consumers with
  | none =>
      rw [Table.upsert_of_present present] at written
      cases written
  | some consumers =>
      have looked := Table.lookup_upsert
        (ConsumerEntry.search_serviceId serviceId expectedMajor nowMs) written serviceId
      have before : Table.lookup ConsumerEntry.serviceId serviceId sd.consumers = some entry :=
        tracked
      rw [if_pos rfl, before] at looked
      exact looked

theorem findConsumer_find_of_ne (sd : ServiceDiscovery cfg) {serviceId wanted : UInt16}
    (other : wanted ≠ serviceId) (expectedMajor : UInt8) (nowMs : UInt32) :
    (sd.find serviceId expectedMajor nowMs).2.findConsumer wanted =
      sd.findConsumer wanted := by
  rw [find]
  cases written : Table.upsert (fun entry => entry.serviceId == serviceId)
      (ConsumerEntry.search serviceId expectedMajor nowMs) {} cfg.maxKnownServices
      sd.consumers with
  | none => rfl
  | some consumers =>
      have looked := Table.lookup_upsert
        (ConsumerEntry.search_serviceId serviceId expectedMajor nowMs) written wanted
      rw [if_neg other] at looked
      exact looked

theorem DistinctConsumers.find {sd : ServiceDiscovery cfg} (distinct : sd.DistinctConsumers)
    (serviceId : UInt16) (expectedMajor : UInt8) (nowMs : UInt32) :
    (sd.find serviceId expectedMajor nowMs).2.DistinctConsumers := by
  rw [ServiceDiscovery.find]
  cases written : Table.upsert (fun entry => entry.serviceId == serviceId)
      (ConsumerEntry.search serviceId expectedMajor nowMs) {} cfg.maxKnownServices
      sd.consumers with
  | none => exact distinct
  | some consumers =>
      have kept := Table.Distinct.upsert distinct
        (ConsumerEntry.search_serviceId serviceId expectedMajor nowMs) written
      exact kept

theorem DistinctConsumers.updateConsumer {sd : ServiceDiscovery cfg}
    (distinct : sd.DistinctConsumers) (serviceId : UInt16)
    {update : ConsumerEntry n → ConsumerEntry n}
    (keeps : ∀ entry, (update entry).serviceId = entry.serviceId) :
    (sd.updateConsumer serviceId update).DistinctConsumers :=
  Table.Distinct.updateFirst distinct _ _ fun entry _ => keeps entry

theorem DistinctConsumers.updateConsumerAt {sd : ServiceDiscovery cfg}
    (distinct : sd.DistinctConsumers) (index : Nat)
    {update : ConsumerEntry n → ConsumerEntry n}
    (keeps : ∀ entry, (update entry).serviceId = entry.serviceId) :
    (sd.updateConsumerAt index update).DistinctConsumers :=
  Table.Distinct.modify distinct keeps index

/-- No service is offered twice. -/
def DistinctProviders (sd : ServiceDiscovery cfg) : Prop :=
  Table.Distinct ProviderEntry.serviceId sd.providers

/-- What `offer` writes. -/
def offeredEntry (sd : ServiceDiscovery cfg) (serviceId : UInt16) (major minor : UInt8)
    (ttlSeconds : UInt16) (nowMs : UInt32) : ProviderEntry where
  serviceId
  majorVersion := major
  minorVersion := minor
  ttlSeconds := if ttlSeconds > 0 then ttlSeconds else cfg.offerTtlSeconds
  sessionId := sd.generateSessionId serviceId nowMs
  state := .offered
  lastOfferMs := nowMs
  active := true
  needsBroadcast := true

section Offer

variable {sd : ServiceDiscovery cfg} {serviceId : UInt16} {major minor : UInt8}
variable {ttlSeconds : UInt16} {nowMs : UInt32}

theorem offer_refused (refused : (sd.offer serviceId major minor ttlSeconds nowMs).1 = false) :
    (sd.offer serviceId major minor ttlSeconds nowMs).2 = sd := by
  simp only [offer] at *
  split at refused
  · rfl
  · cases refused

theorem findProvider_offer
    (accepted : (sd.offer serviceId major minor ttlSeconds nowMs).1 = true) (wanted : UInt16) :
    (sd.offer serviceId major minor ttlSeconds nowMs).2.findProvider wanted =
      if wanted = serviceId then
        some (sd.offeredEntry serviceId major minor ttlSeconds nowMs)
      else sd.findProvider wanted := by
  simp only [offer] at *
  split at accepted
  · cases accepted
  · next providers written =>
      have files : ∀ entry : ProviderEntry, ProviderEntry.serviceId ((fun _ =>
          sd.offeredEntry serviceId major minor ttlSeconds nowMs) entry) = serviceId :=
        fun _ => rfl
      exact Table.lookup_upsert files written wanted

theorem DistinctProviders.offer (distinct : sd.DistinctProviders) :
    (sd.offer serviceId major minor ttlSeconds nowMs).2.DistinctProviders := by
  simp only [ServiceDiscovery.offer]
  split
  · exact distinct
  · next providers written =>
      have files : ∀ entry : ProviderEntry, ProviderEntry.serviceId ((fun _ =>
          sd.offeredEntry serviceId major minor ttlSeconds nowMs) entry) = serviceId :=
        fun _ => rfl
      exact Table.Distinct.upsert distinct files written

end Offer

def ProviderEntry.withdraw (entry : ProviderEntry) : ProviderEntry :=
  { entry with state := .notOffered, active := false }

theorem findProvider_stopOffer (sd : ServiceDiscovery cfg) (serviceId wanted : UInt16) :
    (sd.stopOffer serviceId).findProvider wanted =
      if wanted = serviceId then
        (sd.findProvider wanted).map ProviderEntry.withdraw
      else sd.findProvider wanted := by
  have keeps : ∀ entry : ProviderEntry, entry.serviceId = serviceId →
      (ProviderEntry.withdraw entry).serviceId = serviceId := fun _ here => here
  exact Table.lookup_updateFirst ProviderEntry.serviceId keeps wanted sd.providers

theorem DistinctProviders.stopOffer {sd : ServiceDiscovery cfg}
    (distinct : sd.DistinctProviders) (serviceId : UInt16) :
    (sd.stopOffer serviceId).DistinctProviders :=
  Table.Distinct.updateFirst distinct _ _ fun _ _ => rfl

/-- An offer that has just been broadcast. -/
def ProviderEntry.broadcastAt (nowMs : UInt32) (entry : ProviderEntry) : ProviderEntry :=
  if ProviderEntry.shouldSend entry nowMs then
    { entry with lastOfferMs := nowMs, needsBroadcast := false }
  else entry

theorem ProviderEntry.broadcastAt_same (nowMs : UInt32) (entry : ProviderEntry) :
    (ProviderEntry.broadcastAt nowMs entry).serviceId = entry.serviceId ∧
      (ProviderEntry.broadcastAt nowMs entry).state = entry.state ∧
      (ProviderEntry.broadcastAt nowMs entry).majorVersion = entry.majorVersion ∧
      (ProviderEntry.broadcastAt nowMs entry).minorVersion = entry.minorVersion ∧
      (ProviderEntry.broadcastAt nowMs entry).ttlSeconds = entry.ttlSeconds ∧
      (ProviderEntry.broadcastAt nowMs entry).sessionId = entry.sessionId := by
  rw [ProviderEntry.broadcastAt]
  split <;> exact ⟨rfl, rfl, rfl, rfl, rfl, rfl⟩

theorem findProvider_processOffers (sd : ServiceDiscovery cfg) (nowMs : UInt32)
    (wanted : UInt16) :
    (sd.processOffers nowMs).2.findProvider wanted =
      (sd.findProvider wanted).map (ProviderEntry.broadcastAt nowMs) :=
  Table.lookup_map (fun entry => (ProviderEntry.broadcastAt_same nowMs entry).1) wanted
    sd.providers

theorem DistinctProviders.processOffers {sd : ServiceDiscovery cfg}
    (distinct : sd.DistinctProviders) (nowMs : UInt32) :
    (sd.processOffers nowMs).2.DistinctProviders := by
  have keys : (sd.providers.map (ProviderEntry.broadcastAt nowMs)).map
      ProviderEntry.serviceId = sd.providers.map ProviderEntry.serviceId := by
    rw [List.map_map]
    apply List.map_congr_left
    intro entry _
    exact (ProviderEntry.broadcastAt_same nowMs entry).1
  change (List.map ProviderEntry.serviceId
    (sd.providers.map (ProviderEntry.broadcastAt nowMs))).Nodup
  rw [keys]
  exact distinct

/-- No event is subscribed to twice. -/
def DistinctTrackers (sd : ServiceDiscovery cfg) : Prop :=
  Table.Distinct SubTracker.key sd.subTrackers

section Tracker

variable {sd : ServiceDiscovery cfg} {serviceId eventId ttlSeconds : UInt16} {nowMs : UInt32}

theorem SubTracker.subscribe_key (serviceId eventId ttlSeconds : UInt16) (nowMs : UInt32)
    (tracker : SubTracker) :
    SubTracker.key (SubTracker.subscribe serviceId eventId ttlSeconds nowMs tracker) =
      (serviceId, eventId) := rfl

/-- A subscription that is accepted is the one found afterwards. -/
theorem findSubTracker_subscribeEvent
    (accepted : (sd.subscribeEvent serviceId eventId ttlSeconds nowMs).1 = true)
    (wantedService wantedEvent : UInt16) :
    (sd.subscribeEvent serviceId eventId ttlSeconds nowMs).2.findSubTracker wantedService
        wantedEvent =
      if (wantedService, wantedEvent) = (serviceId, eventId) then
        some (SubTracker.subscribe serviceId eventId ttlSeconds nowMs
          ((sd.findSubTracker serviceId eventId).getD {}))
      else sd.findSubTracker wantedService wantedEvent := by
  rw [subscribeEvent] at accepted ⊢
  split at accepted
  · cases accepted
  · next subTrackers written =>
      exact Table.lookup_upsert
        (SubTracker.subscribe_key serviceId eventId ttlSeconds nowMs) written _

theorem subscribeEvent_refused
    (refused : (sd.subscribeEvent serviceId eventId ttlSeconds nowMs).1 = false) :
    (sd.subscribeEvent serviceId eventId ttlSeconds nowMs).2 = sd := by
  rw [subscribeEvent] at refused ⊢
  split at refused
  · rfl
  · cases refused

theorem DistinctTrackers.subscribeEvent (distinct : sd.DistinctTrackers)
    (serviceId eventId ttlSeconds : UInt16) (nowMs : UInt32) :
    (sd.subscribeEvent serviceId eventId ttlSeconds nowMs).2.DistinctTrackers := by
  rw [ServiceDiscovery.subscribeEvent]
  split
  · exact distinct
  · next subTrackers written =>
      exact Table.Distinct.upsert distinct
        (SubTracker.subscribe_key serviceId eventId ttlSeconds nowMs) written

theorem findSubTracker_updateSubTracker (sd : ServiceDiscovery cfg) (serviceId eventId : UInt16)
    {update : SubTracker → SubTracker}
    (keeps : ∀ tracker, SubTracker.key (update tracker) = SubTracker.key tracker)
    (wantedService wantedEvent : UInt16) :
    (sd.updateSubTracker serviceId eventId update).findSubTracker wantedService wantedEvent =
      if (wantedService, wantedEvent) = (serviceId, eventId) then
        (sd.findSubTracker wantedService wantedEvent).map update
      else sd.findSubTracker wantedService wantedEvent :=
  Table.lookup_updateFirst SubTracker.key (fun tracker here => (keeps tracker).trans here) _ _

theorem DistinctTrackers.updateSubTracker (distinct : sd.DistinctTrackers)
    (serviceId eventId : UInt16) {update : SubTracker → SubTracker}
    (keeps : ∀ tracker, SubTracker.key (update tracker) = SubTracker.key tracker) :
    (sd.updateSubTracker serviceId eventId update).DistinctTrackers :=
  Table.Distinct.updateFirst distinct _ _ fun tracker _ => keeps tracker

/-- Writing every tracker under its key. -/
theorem DistinctTrackers.map (distinct : sd.DistinctTrackers) {after : ServiceDiscovery cfg}
    {update : SubTracker → SubTracker}
    (keeps : ∀ tracker, SubTracker.key (update tracker) = SubTracker.key tracker)
    (written : after.subTrackers = sd.subTrackers.map update) : after.DistinctTrackers := by
  have keys : (sd.subTrackers.map update).map SubTracker.key =
      sd.subTrackers.map SubTracker.key := by
    rw [List.map_map]
    exact List.map_congr_left fun tracker _ => keeps tracker
  rw [DistinctTrackers, written, Table.Distinct, keys]
  exact distinct

/-- What flagging a service does to one of its trackers. -/
def SubTracker.flagged (serviceId : UInt16) (nowMs : UInt32) (tracker : SubTracker) :
    SubTracker :=
  if tracker.appRegistered && tracker.serviceId == serviceId then
    SubTracker.resubscribe nowMs tracker
  else tracker

theorem SubTracker.flagged_key (serviceId : UInt16) (nowMs : UInt32) (tracker : SubTracker) :
    SubTracker.key (SubTracker.flagged serviceId nowMs tracker) = SubTracker.key tracker := by
  rw [SubTracker.flagged]
  split <;> rfl

/-- Giving up a subscription keeps its place in the table. -/
theorem SubTracker.unsubscribe_key (tracker : SubTracker) :
    SubTracker.key { tracker with appRegistered := false, needsUnsubscribe := true } =
      SubTracker.key tracker := rfl

theorem findSubTracker_flagResubscribe (sd : ServiceDiscovery cfg) (serviceId : UInt16)
    (nowMs : UInt32) (wantedService wantedEvent : UInt16) :
    (sd.flagResubscribe serviceId nowMs).findSubTracker wantedService wantedEvent =
      (sd.findSubTracker wantedService wantedEvent).map
        (SubTracker.flagged serviceId nowMs) :=
  Table.lookup_map (SubTracker.flagged_key serviceId nowMs) _ _

theorem renewTracker_key (nowMs : UInt32) (tracker : SubTracker) :
    SubTracker.key (renewTracker cfg nowMs tracker).2 = SubTracker.key tracker := by
  have turn := @renewTracker_turn _ cfg nowMs tracker
  cases result : renewTracker cfg nowMs tracker with
  | mk sent after =>
      rw [result] at turn
      cases turn <;> rfl

theorem renew_key (sd : ServiceDiscovery cfg) (nowMs : UInt32) (tracker : SubTracker) :
    SubTracker.key (sd.renew nowMs tracker).2 = SubTracker.key tracker := by
  rw [renew]
  split
  · exact renewTracker_key nowMs tracker
  · rfl

theorem findSubTracker_processSubscriptionRenewals (sd : ServiceDiscovery cfg) (nowMs : UInt32)
    (wantedService wantedEvent : UInt16) :
    (sd.processSubscriptionRenewals nowMs).2.findSubTracker wantedService wantedEvent =
      (sd.findSubTracker wantedService wantedEvent).map
        fun tracker => (sd.renew nowMs tracker).2 :=
  Table.lookup_map (sd.renew_key nowMs) _ _

/-- What an answer writes to the tracker of its event. -/
def SubTracker.acknowledge (result : ReturnCode) (grantedTtl : UInt16) (tracker : SubTracker) :
    SubTracker :=
  if tracker.active then
    if result = .eOk then { tracker with grantedTtl }
    else { tracker with active := false }
  else tracker

theorem SubTracker.acknowledge_key (result : ReturnCode) (grantedTtl : UInt16)
    (tracker : SubTracker) :
    SubTracker.key (SubTracker.acknowledge result grantedTtl tracker) =
      SubTracker.key tracker := by
  rw [SubTracker.acknowledge]
  repeat' split
  all_goals rfl

theorem findSubTracker_recordAck (sd : ServiceDiscovery cfg) (serviceId eventId : UInt16)
    (result : ReturnCode) (grantedTtl wantedService wantedEvent : UInt16) :
    (sd.recordAck serviceId eventId result grantedTtl).findSubTracker wantedService wantedEvent =
      if (wantedService, wantedEvent) = (serviceId, eventId) then
        (sd.findSubTracker wantedService wantedEvent).map
          (SubTracker.acknowledge result grantedTtl)
      else sd.findSubTracker wantedService wantedEvent :=
  findSubTracker_updateSubTracker sd serviceId eventId
    (SubTracker.acknowledge_key result grantedTtl) _ _

end Tracker

/-! ## Operations that call the application -/

/-- What a discovery operation asks of its surroundings. -/
structure Hooks (n : Nat) (σ : Type) where
  broadcast : SdMessage n → σ → σ
  onPeerExpired : Address n → σ → σ
  onServiceFound : UInt16 → Address n → σ → σ
  onServiceLost : UInt16 → σ → σ
  onSubscriptionAck : UInt16 → UInt16 → ReturnCode → UInt16 → σ → σ

section Callbacks

variable {σ : Type} (lens : Lens σ (ServiceDiscovery cfg)) (hooks : Hooks n σ)

def callServiceLost (serviceId : UInt16) (state : σ) : σ :=
  if (lens.get state).callbacks.onServiceLost then hooks.onServiceLost serviceId state
  else state

def callServiceFound (serviceId : UInt16) (provider : Address n) (state : σ) : σ :=
  if (lens.get state).callbacks.onServiceFound then
    hooks.onServiceFound serviceId provider state
  else state

/-- One turn of the `process_finds` loop. -/
def processFind (nowMs : UInt32) (state : σ) (index : Nat) : σ :=
  match (lens.get state).consumers[index]? with
  | none => state
  | some entry =>
      if entry.state = .searching ∧ timeAfterOrEq nowMs entry.nextRetryMs then
        let state := hooks.broadcast (.find entry.serviceId) state
        let retryCount := entry.retryCount + 1
        if cfg.sdFindRetryCount < retryCount then
          let state := lens.modify (fun sd => sd.giveUpFind index retryCount) state
          callServiceLost lens hooks entry.serviceId state
        else lens.modify (fun sd => sd.scheduleRetry index retryCount nowMs) state
      else state

/-- `consumer_count_` may grow while the loop runs, never beyond the array. -/
def processFinds (nowMs : UInt32) (state : σ) : σ :=
  (List.range cfg.maxKnownServices).foldl (processFind lens hooks nowMs) state

/-- One turn of the `process_consumer_ttls` loop. -/
def processConsumerTtl (nowMs : UInt32) (state : σ) (index : Nat) : σ :=
  match (lens.get state).consumers[index]? with
  | none => state
  | some entry =>
      if entry.state = .found ∧ timeAfter nowMs entry.ttlExpiryMs then
        let state := lens.modify (fun sd => sd.expireConsumer index) state
        let state := hooks.onPeerExpired entry.providerAddr state
        callServiceLost lens hooks entry.serviceId state
      else state

def processConsumerTtls (nowMs : UInt32) (state : σ) : σ :=
  (List.range cfg.maxKnownServices).foldl (processConsumerTtl lens hooks nowMs) state

/-- `handle_offer`.  The entry is written before the callbacks run, and on a
reboot once more between them. -/
def handleOffer (offeredServiceId : UInt16) (majorVersion : UInt8)
    (ttlSeconds sessionId : UInt16) (providerAddr : Address n) (nowMs : UInt32)
    (state : σ) : σ :=
  if ttlSeconds = 0 then state
  else
    match (lens.get state).findConsumer offeredServiceId with
    | none => state
    | some entry =>
        if majorVersion ≠ entry.expectedMajor then state
        else
          let rebootDetected := entry.sessionValid && decide (entry.state = .found) &&
            entry.sessionId != sessionId
          let newProvider := decide (entry.state ≠ .found) ||
            entry.providerAddr != providerAddr
          let state := lens.modify (fun sd =>
            sd.recordOffer offeredServiceId ttlSeconds sessionId providerAddr nowMs) state
          let setFound := lens.modify fun sd => sd.markFound offeredServiceId
          let flag := lens.modify fun sd => sd.flagResubscribe offeredServiceId nowMs
          if rebootDetected then
            let state := callServiceLost lens hooks offeredServiceId state
            let state := setFound state
            let state := callServiceFound lens hooks offeredServiceId providerAddr state
            flag state
          else if entry.state ≠ .found then
            callServiceFound lens hooks offeredServiceId providerAddr (flag (setFound state))
          else if newProvider then
            callServiceFound lens hooks offeredServiceId providerAddr (flag state)
          else state

def handleSubscribeAck (serviceId eventId : UInt16) (result : ReturnCode)
    (grantedTtl : UInt16) (state : σ) : σ :=
  let state := lens.modify (fun sd => sd.recordAck serviceId eventId result grantedTtl) state
  if (lens.get state).callbacks.onSubscriptionAck then
    hooks.onSubscriptionAck serviceId eventId result grantedTtl state
  else state

end Callbacks

section Alike

variable {σ τ : Type} {related : σ → τ → Prop} {left : Lens σ (ServiceDiscovery cfg)}
  {right : Lens τ (ServiceDiscovery cfg)}

/-- The callbacks an arriving message can run keep two states in relation. -/
structure Hooks.Alike (related : σ → τ → Prop) (left : Hooks n σ) (right : Hooks n τ) :
    Prop where
  onServiceFound : ∀ serviceId provider {first second}, related first second →
    related (left.onServiceFound serviceId provider first)
      (right.onServiceFound serviceId provider second)
  onServiceLost : ∀ serviceId {first second}, related first second →
    related (left.onServiceLost serviceId first) (right.onServiceLost serviceId second)
  onSubscriptionAck : ∀ serviceId eventId result grantedTtl {first second},
    related first second →
      related (left.onSubscriptionAck serviceId eventId result grantedTtl first)
        (right.onSubscriptionAck serviceId eventId result grantedTtl second)

variable {leftHooks : Hooks n σ} {rightHooks : Hooks n τ}

theorem callServiceFound_alike (alike : Lens.Alike related left right)
    (hooks : Hooks.Alike related leftHooks rightHooks) (serviceId : UInt16)
    (provider : Address n) {first : σ} {second : τ} (holds : related first second) :
    related (callServiceFound left leftHooks serviceId provider first)
      (callServiceFound right rightHooks serviceId provider second) := by
  rw [callServiceFound, callServiceFound, alike.get holds]
  split
  · exact hooks.onServiceFound serviceId provider holds
  · exact holds

theorem callServiceLost_alike (alike : Lens.Alike related left right)
    (hooks : Hooks.Alike related leftHooks rightHooks) (serviceId : UInt16) {first : σ}
    {second : τ} (holds : related first second) :
    related (callServiceLost left leftHooks serviceId first)
      (callServiceLost right rightHooks serviceId second) := by
  rw [callServiceLost, callServiceLost, alike.get holds]
  split
  · exact hooks.onServiceLost serviceId holds
  · exact holds

theorem handleOffer_alike (alike : Lens.Alike related left right)
    (hooks : Hooks.Alike related leftHooks rightHooks) (offeredServiceId : UInt16)
    (majorVersion : UInt8) (ttlSeconds sessionId : UInt16) (providerAddr : Address n)
    (nowMs : UInt32) {first : σ} {second : τ} (holds : related first second) :
    related (handleOffer left leftHooks offeredServiceId majorVersion ttlSeconds sessionId
        providerAddr nowMs first)
      (handleOffer right rightHooks offeredServiceId majorVersion ttlSeconds sessionId
        providerAddr nowMs second) := by
  simp only [handleOffer, alike.get holds]
  split
  · exact holds
  · cases (right.get second).findConsumer offeredServiceId with
    | none => exact holds
    | some entry =>
        dsimp only
        have recorded := alike.modify holds fun sd =>
          sd.recordOffer offeredServiceId ttlSeconds sessionId providerAddr nowMs
        split
        · exact holds
        · split
          · have lost := callServiceLost_alike alike hooks offeredServiceId recorded
            have found := callServiceFound_alike alike hooks offeredServiceId providerAddr
              (alike.modify lost fun sd => sd.markFound offeredServiceId)
            exact alike.modify found _
          · split
            · exact callServiceFound_alike alike hooks offeredServiceId providerAddr
                (alike.modify (alike.modify recorded _) _)
            · split
              · exact callServiceFound_alike alike hooks offeredServiceId providerAddr
                  (alike.modify recorded _)
              · exact recorded

theorem handleSubscribeAck_alike (alike : Lens.Alike related left right)
    (hooks : Hooks.Alike related leftHooks rightHooks) (serviceId eventId : UInt16)
    (result : ReturnCode) (grantedTtl : UInt16) {first : σ} {second : τ}
    (holds : related first second) :
    related (handleSubscribeAck left leftHooks serviceId eventId result grantedTtl first)
      (handleSubscribeAck right rightHooks serviceId eventId result grantedTtl second) := by
  have recorded := alike.modify holds fun sd =>
    sd.recordAck serviceId eventId result grantedTtl
  simp only [handleSubscribeAck, alike.get recorded]
  split
  · exact hooks.onSubscriptionAck serviceId eventId result grantedTtl recorded
  · exact recorded

end Alike

end ServiceDiscovery

end Sero
