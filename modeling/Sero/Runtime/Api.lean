import Sero.Runtime.Transmit

/-!
# The application interface

Every public operation of `Runtime` except `process`.  An operation that may run
an application callback takes the callback's body as `body`.
-/

namespace Sero

open Library

variable {n : Nat} {cfg : Config n}

namespace World

variable (env : Env cfg)

/-- `is_ready_fn` of a service entry. -/
def isReady (w : World cfg) : ServiceContext → Bool
  | .application context => env.isReady w.history context
  | .diagnostics => w.rt.diagService.wired

/-- Enter a request's callback: it is observed, then its body runs. -/
def invokeRequest (cause : Cause) (body : World cfg → World cfg) (handle : Nat)
    (rc : ReturnCode) (payload : Bytes) (w : World cfg) : World cfg :=
  body (w.emit (.callback (.request handle cause rc payload)))

/-! ## Sending application messages -/

def makeRequestHeader (rt : Runtime cfg) (serviceId methodId : UInt16)
    (payloadLength : Nat) (requestId : UInt32) (auth : Bool) : MessageHeader where
  messageType := MessageType.request.toByte
  flags := if auth then flagAuth else 0
  serviceId
  methodEventId := methodId
  clientId := rt.clientId
  requestId
  payloadLength := UInt32.ofNat payloadLength

/-- `request_impl` up to the transport's answer: allocate an id, build and send. -/
def submit (handle : Nat) (target : Address n) (serviceId methodId : UInt16)
    (payload : Payload) (hasCallback : Bool) (timeoutMs nowMs : UInt32) (w : World cfg) :
    Option (UInt32 × Bool) × World cfg :=
  match w.rt.requestTracker.allocate serviceId methodId timeoutMs nowMs
      (if hasCallback then some handle else none) with
  | none => (none, w)
  | some (requestId, requestTracker) =>
      let w := World.emit
        (.issued handle requestId target serviceId methodId payload hasCallback)
        { w with rt := { w.rt with requestTracker } }
      let auth := w.rt.shouldAuthOutgoing target
      let hdr := makeRequestHeader w.rt serviceId methodId payload.length requestId auth
      let (ok, w) :=
        w.transmit env (.request handle) target hdr payload.data payload.length auth
      (some (requestId, ok), w)

/-- `request_impl`: when the transport refuses the frame the request is completed
on the spot. -/
def requestImpl (body : World cfg → World cfg) (handle : Nat) (target : Address n)
    (serviceId methodId : UInt16) (payload : Payload) (hasCallback : Bool)
    (timeoutMs nowMs : UInt32) (w : World cfg) : Option UInt32 × World cfg :=
  match w.submit env handle target serviceId methodId payload hasCallback timeoutMs
      nowMs with
  | (none, w) => (none, w)
  | (some (requestId, true), w) => (some requestId, w)
  | (some (requestId, false), w) =>
      let w := (RequestTracker.complete trackerLens (invokeRequest .sendFailed body)
        requestId .eNotOk [] w).2
      (none, w.increment .droppedMessages none)

/-- Both overloads of `request`; without a target the provider is looked up. -/
def request (body : World cfg → World cfg) (handle : Nat) (target : Option (Address n))
    (serviceId methodId : UInt16) (payload : Payload) (hasCallback : Bool)
    (timeoutMs nowMs : UInt32) (w : World cfg) : Option UInt32 × World cfg :=
  match target.or (w.rt.sd.getProviderAddress serviceId) with
  | none => (none, w)
  | some provider =>
      w.requestImpl env body handle provider serviceId methodId payload hasCallback
        timeoutMs nowMs

def fireAndForget (serviceId methodId : UInt16) (payload : Payload) (w : World cfg) :
    Bool × World cfg :=
  match w.rt.sd.getProviderAddress serviceId with
  | none => (false, w)
  | some provider =>
      let auth := w.rt.shouldAuthOutgoing provider
      let hdr : MessageHeader := {
        messageType := MessageType.requestNoReturn.toByte
        flags := if auth then flagAuth else 0
        serviceId
        methodEventId := methodId
        clientId := w.rt.clientId
        requestId := requestIdNone
        payloadLength := UInt32.ofNat payload.length }
      let (ok, w) :=
        w.transmit env .fireAndForget provider hdr payload.data payload.length auth
      (ok, w.countRefusal ok)

/-- The body of `notify_event`'s fan-out. -/
def notifyOne (serviceId eventId : UInt16) (payload : Payload) (w : World cfg)
    (dest : Address n) : World cfg :=
  let auth := w.rt.shouldAuthOutgoing dest
  let hdr : MessageHeader := {
    messageType := MessageType.notification.toByte
    flags := if auth then flagAuth else 0
    serviceId
    methodEventId := eventId
    clientId := clientIdProvider
    requestId := requestIdNone
    payloadLength := UInt32.ofNat payload.length }
  let (ok, w) := w.transmit env .notification dest hdr payload.data payload.length auth
  w.countRefusal ok

def notifyEvent (serviceId eventId : UInt16) (payload : Payload) (w : World cfg) :
    Bool × World cfg :=
  if w.rt.eventManager.hasSubscribers serviceId eventId then
    (true, (w.rt.eventManager.notify serviceId eventId).foldl
      (notifyOne env serviceId eventId payload) w)
  else (false, w)

/-! ## Registration -/

def registerService (entry : ServiceEntry) (w : World cfg) : Bool × World cfg :=
  let (ok, dispatcher) := w.rt.dispatcher.registerService entry
  (ok, { w with rt := { w.rt with dispatcher } })

def unregisterService (serviceId : UInt16) (w : World cfg) : Bool × World cfg :=
  let (ok, dispatcher) := w.rt.dispatcher.unregisterService serviceId
  (ok, { w with rt := { w.rt with dispatcher } })

def offerService (serviceId ttlSeconds : UInt16) (nowMs : UInt32) (w : World cfg) :
    Bool × World cfg :=
  match w.rt.dispatcher.find serviceId with
  | none => (false, w)
  | some entry =>
      let (ok, sd) :=
        w.rt.sd.offer serviceId entry.majorVersion entry.minorVersion ttlSeconds nowMs
      (ok, { w with rt := { w.rt with sd } })

def handlesEvent (serviceId eventId : UInt16) (entry : EventHandlerEntry) : Bool :=
  entry.active && entry.serviceId == serviceId && entry.eventId == eventId

def registerEventHandler (serviceId eventId : UInt16) (context : Nat) (w : World cfg) :
    Bool × World cfg :=
  match Table.upsert (handlesEvent serviceId eventId)
      (fun _ => { serviceId, eventId, context }) { serviceId, eventId, context }
      (cfg.maxKnownServices * cfg.maxEvents) w.rt.eventHandlers with
  | none => (false, w)
  | some eventHandlers => (true, { w with rt := { w.rt with eventHandlers } })

def unregisterEventHandler (serviceId eventId : UInt16) (w : World cfg) : World cfg :=
  { w with rt := { w.rt with
    eventHandlers := Table.swapRemove (handlesEvent serviceId eventId) w.rt.eventHandlers } }

def findEventHandler (serviceId eventId : UInt16) (w : World cfg) :
    Option EventHandlerEntry :=
  w.rt.eventHandlers.find? (handlesEvent serviceId eventId)

def subscribeEvent (serviceId eventId : UInt16) (context : Nat) (ttlSeconds : UInt16)
    (nowMs : UInt32) (w : World cfg) : Bool × World cfg :=
  match w.registerEventHandler serviceId eventId context with
  | (false, w) => (false, w)
  | (true, w) =>
      let (ok, sd) := w.rt.sd.subscribeEvent serviceId eventId ttlSeconds nowMs
      (ok, { w with rt := { w.rt with sd } })

def unsubscribeEvent (serviceId eventId : UInt16) (w : World cfg) : Bool × World cfg :=
  let w := w.unregisterEventHandler serviceId eventId
  let (ok, sd) := w.rt.sd.unsubscribeEvent serviceId eventId
  (ok, { w with rt := { w.rt with sd } })

def enableDiagnostics (nowMs : UInt32) (authRequired : Bool) (w : World cfg) :
    Bool × World cfg :=
  if w.rt.diagEnabled then (true, w)
  else
    let w := { w with rt := { w.rt with
      diagService := { wired := true, clientId := w.rt.clientId } } }
    let entry : ServiceEntry := {
      serviceId := diagServiceId
      majorVersion := 1
      minorVersion := 0
      authRequired
      context := .diagnostics }
    match w.registerService entry with
    | (false, w) => (false, w)
    | (true, w) =>
        match w.offerService diagServiceId cfg.offerTtlSeconds nowMs with
        | (false, w) => (false, (w.unregisterService diagServiceId).2)
        | (true, w) => (true, { w with rt := { w.rt with diagEnabled := true } })

def reportDtc (code : UInt16) (severity : DtcSeverity) (nowMs : UInt32) (w : World cfg) :
    Bool × World cfg :=
  if cfg.maxDtcs = 0 then (false, w)
  else
    let (ok, dtcStore) := w.rt.dtcStore.report code severity nowMs
    (ok, World.countRefusal ok { w with rt := { w.rt with dtcStore } })

/-! ## All operations -/

/-- One public operation, up to its return. -/
def apiCall (body : World cfg → World cfg) (call : ApiCall cfg) (w : World cfg) :
    ApiResult × World cfg :=
  match call with
  | .setLocalAddress addr =>
      (.unit, { w with rt := { w.rt with
        localAddr := addr, sd := { w.rt.sd with localAddr := addr } } })
  | .registerService serviceId context majorVersion minorVersion authRequired =>
      let (ok, w) := w.registerService {
        serviceId, majorVersion, minorVersion, authRequired
        context := .application context }
      (.bool ok, w)
  | .unregisterService serviceId =>
      let (ok, w) := w.unregisterService serviceId
      (.bool ok, w)
  | .registerEvent serviceId eventId =>
      let (ok, eventManager) := w.rt.eventManager.registerEvent serviceId eventId
      (.bool ok, { w with rt := { w.rt with eventManager } })
  | .offerService serviceId ttlSeconds nowMs =>
      let (ok, w) := w.offerService serviceId ttlSeconds nowMs
      (.bool ok, w)
  | .stopOffer serviceId =>
      (.unit, { w with rt := { w.rt with sd := w.rt.sd.stopOffer serviceId } })
  | .findService serviceId majorVersion nowMs =>
      let (ok, sd) := w.rt.sd.find serviceId majorVersion nowMs
      (.bool ok, { w with rt := { w.rt with sd } })
  | .setSdCallbacks callbacks =>
      (.unit, { w with rt := { w.rt with sd := { w.rt.sd with callbacks } } })
  | .request target serviceId methodId payload hasCallback timeoutMs nowMs =>
      let handle := w.history.length
      let (requestId, w) := w.request env body handle target serviceId methodId payload
        hasCallback timeoutMs nowMs
      (.request handle requestId, w)
  | .fireAndForget serviceId methodId payload =>
      let (ok, w) := w.fireAndForget env serviceId methodId payload
      (.bool ok, w)
  | .subscribeEvent serviceId eventId context ttlSeconds nowMs =>
      let (ok, w) := w.subscribeEvent serviceId eventId context ttlSeconds nowMs
      (.bool ok, w)
  | .unsubscribeEvent serviceId eventId =>
      let (ok, w) := w.unsubscribeEvent serviceId eventId
      (.bool ok, w)
  | .notifyEvent serviceId eventId payload =>
      let (ok, w) := w.notifyEvent env serviceId eventId payload
      (.bool ok, w)
  | .setHmacKey peer key =>
      let (ok, authenticator) := w.rt.authenticator.setKey peer key
      (.bool ok, { w with rt := { w.rt with authenticator } })
  | .setDiagnosticCallback isSet =>
      (.unit, { w with rt := { w.rt with diag := { w.rt.diag with callback := isSet } } })
  | .enableDiagnostics nowMs authRequired =>
      let (ok, w) := w.enableDiagnostics nowMs authRequired
      (.bool ok, w)
  | .reportDtc code severity nowMs =>
      let (ok, w) := w.reportDtc code severity nowMs
      (.bool ok, w)
  | .clearDtc code =>
      let (ok, dtcStore) := w.rt.dtcStore.clear code
      (.bool ok, { w with rt := { w.rt with dtcStore } })
  | .clearAllDtcs =>
      (.unit, { w with rt := { w.rt with dtcStore := w.rt.dtcStore.clearAll } })

/-- A call and the observation of its result. -/
def perform (body : World cfg → World cfg) (call : ApiCall cfg) (w : World cfg) :
    World cfg :=
  let (result, w) := w.apiCall env body call
  w.emit (.returned call result)

end World

/-- Run the calls a callback makes. -/
def Script.run (env : Env cfg) : Script cfg → World cfg → World cfg
  | .done, w => w
  | .call operation callback rest, w =>
      rest.run env (w.perform env (callback.run env) operation)

/-- The body of a callback that has just been observed. -/
def World.react (env : Env cfg) (w : World cfg) : World cfg :=
  (env.react w.history).run env w

/-- Observe a callback and run its body. -/
def World.callback (env : Env cfg) (callback : Callback n) (w : World cfg) : World cfg :=
  (w.emit (.callback callback)).react env

end Sero
