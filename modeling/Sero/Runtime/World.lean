import Sero.Library.Buffer
import Sero.Security.E2EProtection
import Sero.Security.MessageAuthenticator
import Sero.Service.Diagnostics
import Sero.Service.EventManager
import Sero.Service.RequestTracker
import Sero.Service.ServiceDiscovery

/-!
# The runtime and its environment

A `World` is the runtime's state together with the history of everything that
crossed its boundary: datagrams, frames, application callbacks and API calls.
The history is never read by the runtime.  It identifies requests, it is what
the environment's choices may depend on, and it is what properties speak about.

The environment answers for the transport and the application.  A callback may
call the runtime again; what it calls is a `Script`.  Only `request` can run a
further callback before it returns (when the transport refuses the frame), so a
script is a tree: each call carries the body of the callback it may run.

Three things an application could do are assumed not to happen.  `process` is called
from the main loop or an RTOS task (README, Runtime), so it is not among the calls a
callback makes.  `is_ready` is a const query (`service.hpp`) and makes no calls.  The
diagnostic callback is there to log or report what was discarded (README, Diagnostics)
and makes none either.
-/

namespace Sero

open Library

variable {n : Nat}

/-- A payload argument: a pointer to bytes, or a null pointer with a length. -/
inductive Payload where
  | bytes (data : Bytes)
  | null (length : Nat)
  deriving DecidableEq

namespace Payload

def data : Payload → Option Bytes
  | bytes data => some data
  | null _ => none

def length : Payload → Nat
  | bytes data => data.length
  | null length => length

end Payload

/-! ## The application's side -/

/-- The public operations of `Runtime` other than `process`, which only the main loop calls. -/
inductive ApiCall {n : Nat} (cfg : Config n) where
  | setLocalAddress (addr : Address n)
  | registerService (serviceId : UInt16) (context : Nat) (major minor : UInt8)
      (authRequired : Bool)
  | unregisterService (serviceId : UInt16)
  | registerEvent (serviceId eventId : UInt16)
  | offerService (serviceId ttlSeconds : UInt16) (nowMs : UInt32)
  | stopOffer (serviceId : UInt16)
  | findService (serviceId : UInt16) (majorVersion : UInt8) (nowMs : UInt32)
  | setSdCallbacks (callbacks : SdCallbacks)
  | request (target : Option (Address n)) (serviceId methodId : UInt16)
      (payload : Payload) (hasCallback : Bool) (timeoutMs nowMs : UInt32)
  | fireAndForget (serviceId methodId : UInt16) (payload : Payload)
  | subscribeEvent (serviceId eventId : UInt16) (context : Nat) (ttlSeconds : UInt16)
      (nowMs : UInt32)
  | unsubscribeEvent (serviceId eventId : UInt16)
  | notifyEvent (serviceId eventId : UInt16) (payload : Payload)
  | setHmacKey (peer : Address n) (key : HmacKey cfg)
  | setDiagnosticCallback (isSet : Bool)
  | enableDiagnostics (nowMs : UInt32) (authRequired : Bool)
  | reportDtc (code : UInt16) (severity : DtcSeverity) (nowMs : UInt32)
  | clearDtc (code : UInt16)
  | clearAllDtcs

/-- What a call returns.  A request is identified by its handle whether or not it
gets an id. -/
inductive ApiResult where
  | unit
  | bool (value : Bool)
  | request (handle : Nat) (requestId : Option UInt32)
  deriving DecidableEq

/-- Calls made from inside a callback, each with the body of the callback it may
run in turn. -/
inductive Script {n : Nat} (cfg : Config n) where
  | done
  | call (call : ApiCall cfg) (callback rest : Script cfg)

/-- What a request handler does with one request.  It is lent the response buffer itself, so it
writes wherever it likes in it, and the length it reports need not match what it has written. -/
structure HandlerResult {n : Nat} (cfg : Config n) where
  code : ReturnCode
  writes : Writes := []
  responseLength : Nat := 0
  calls : Script cfg := .done

/-- Why a request's callback is invoked. -/
inductive Cause where
  | reply
  | sendFailed
  | timeout
  deriving DecidableEq, Repr

/-- Application callbacks other than request handlers. -/
inductive Callback (n : Nat) where
  | request (handle : Nat) (cause : Cause) (rc : ReturnCode) (payload : Bytes)
  | serviceFound (serviceId : UInt16) (provider : Address n)
  | serviceLost (serviceId : UInt16)
  | subscriptionAck (serviceId eventId : UInt16) (result : ReturnCode)
      (grantedTtl : UInt16)
  | event (context : Nat) (serviceId eventId : UInt16) (payload : Bytes)

/-! ## What is observed -/

/-- What a sent frame is for. -/
inductive SendKind where
  | sd
  | request (handle : Nat)
  | fireAndForget
  | notification
  | reply
  deriving DecidableEq, Repr

inductive Event {n : Nat} (cfg : Config n) where
  /-- A datagram enters the validation pipeline. -/
  | received (source : Address n) (data : Bytes)
  /-- Step 8 has checked its sequence counter. -/
  | verdict (source : Address n) (data : Bytes) (result : SeqResult)
  /-- It has reached step 10. -/
  | dispatched (source : Address n) (data : Bytes)
  /-- `reset_peer` was called. -/
  | peerReset (addr : Address n)
  /-- A service's request handler is entered, with the keys stored at that time
  and the capacity of the response buffer if there is one. -/
  | onRequest (entry : ServiceEntry) (keys : MessageAuthenticator cfg)
      (methodId : UInt16) (payload : Bytes) (capacity : Option Nat)
  /-- A request has been dispatched, with this outcome. -/
  | executed (source : Address n) (requestId : UInt32) (serviceId methodId : UInt16)
      (payload : Bytes) (rc : ReturnCode) (response : Bytes)
  | sent (kind : SendKind) (dest : Address n) (frame : Bytes) (ok : Bool)
  | broadcast (frame : Bytes) (ok : Bool)
  /-- A request has been given a slot and an id. -/
  | issued (handle : Nat) (requestId : UInt32) (target : Address n)
      (serviceId methodId : UInt16) (payload : Payload) (hasCallback : Bool)
  | callback (callback : Callback n)
  /-- A renewal pass: what it sends, and discovery before and after it. -/
  | renewals (sends : List (Address n × SdMessage n)) (before after : ServiceDiscovery cfg)
  | diagnostic (counter : DiagnosticCounter) (header : Option Bytes)
  | returned (call : ApiCall cfg) (result : ApiResult)

/-- Everything observed so far, newest first. -/
abbrev History {n : Nat} (cfg : Config n) := List (Event cfg)

/-- The transport and the application.  `react` is asked right after a callback
has been observed, so the callback is the head of the history.  `isReady` is a query:
it answers, and makes no calls. -/
structure Env {n : Nat} (cfg : Config n) where
  sendOk : History cfg → Address n → Bytes → Bool
  broadcastOk : History cfg → Bytes → Bool
  isReady : History cfg → (context : Nat) → Bool
  onRequest : History cfg → (context : Nat) → UInt16 → Bytes → HandlerResult cfg
  react : History cfg → Script cfg

/-- An environment in which sending succeeds, services are ready, handlers answer
with an empty `E_OK` and callbacks make no calls. -/
def Env.benign {n : Nat} (cfg : Config n) : Env cfg where
  sendOk _ _ _ := true
  broadcastOk _ _ := true
  isReady _ _ := true
  onRequest _ _ _ _ := { code := .eOk }
  react _ := .done

/-! ## The runtime's state -/

structure EventHandlerEntry where
  serviceId : UInt16
  eventId : UInt16
  active : Bool := true
  context : Nat
  deriving DecidableEq, Repr

/-- `MAX_MSG_SIZE`. -/
def maxMsgSize (cfg : Config n) : Nat :=
  headerSize + cfg.maxPayloadSize + hmacSize + crcSize

structure Runtime (cfg : Config n) where
  clientId : UInt16
  localAddr : Address n := Address.zero n
  e2e : E2EProtection cfg := {}
  sdSeq : UInt8 := 0
  authenticator : MessageAuthenticator cfg := {}
  diag : DiagnosticCounters := {}
  dtcStore : DtcStore cfg := {}
  diagService : DiagnosticsService := {}
  diagEnabled : Bool := false
  uptimeMs : UInt32 := 0
  uptimeEpochMs : UInt32 := 0
  uptimeStarted : Bool := false
  sd : ServiceDiscovery cfg := { clientId }
  dispatcher : MethodDispatcher cfg := {}
  eventManager : EventManager cfg := {}
  requestTracker : RequestTracker cfg Nat := {}
  txBuffer : Buffer (maxMsgSize cfg) := Buffer.zero _
  responseBuffer : Buffer cfg.maxPayloadSize := Buffer.zero _
  eventHandlers : List EventHandlerEntry := []

/-- The runtime and what has been observed of it. -/
structure World (cfg : Config n) where
  rt : Runtime cfg
  history : History cfg := []

namespace World

variable {cfg : Config n}

/-- The constructor of `Runtime`. -/
def initial (cfg : Config n) (clientId : UInt16) : World cfg where
  rt := { clientId }

def emit (event : Event cfg) (w : World cfg) : World cfg :=
  { w with history := event :: w.history }

@[simp] theorem emit_rt (event : Event cfg) (w : World cfg) : (w.emit event).rt = w.rt :=
  rfl

@[simp] theorem emit_history (event : Event cfg) (w : World cfg) :
    (w.emit event).history = event :: w.history := rfl

def sdLens : Lens (World cfg) (ServiceDiscovery cfg) where
  get w := w.rt.sd
  set sd w := { w with rt := { w.rt with sd } }
  get_set _ _ := rfl
  set_get _ := rfl
  set_set _ _ _ := rfl

def trackerLens : Lens (World cfg) (RequestTracker cfg Nat) where
  get w := w.rt.requestTracker
  set requestTracker w := { w with rt := { w.rt with requestTracker } }
  get_set _ _ := rfl
  set_get _ := rfl
  set_set _ _ _ := rfl

@[simp] theorem sdLens_get (w : World cfg) : sdLens.get w = w.rt.sd := rfl

theorem sdLens_modify (update : ServiceDiscovery cfg → ServiceDiscovery cfg)
    (w : World cfg) :
    sdLens.modify update w = { w with rt := { w.rt with sd := update w.rt.sd } } := rfl

@[simp] theorem trackerLens_get (w : World cfg) : trackerLens.get w = w.rt.requestTracker :=
  rfl

theorem trackerLens_modify
    (update : RequestTracker cfg Nat → RequestTracker cfg Nat) (w : World cfg) :
    trackerLens.modify update w =
      { w with rt := { w.rt with requestTracker := update w.rt.requestTracker } } := rfl

/-- `diag_.increment`; the callback, if set, observes it, and makes no calls: it logs or
reports. -/
def increment (counter : DiagnosticCounter) (header : Option Bytes) (w : World cfg) :
    World cfg :=
  let counted := { w with rt := { w.rt with diag := w.rt.diag.increment counter } }
  if w.rt.diag.callback then counted.emit (.diagnostic counter header) else counted

/-- Count a frame the transport refused, or a report the store had no room for. -/
def countRefusal (ok : Bool) (w : World cfg) : World cfg :=
  if ok then w else w.increment .droppedMessages none

/-- `e2e_.reset_peer`. -/
def resetPeer (addr : Address n) (w : World cfg) : World cfg :=
  World.emit (.peerReset addr)
    { w with rt := { w.rt with e2e := w.rt.e2e.resetPeer addr } }

end World

end Sero
