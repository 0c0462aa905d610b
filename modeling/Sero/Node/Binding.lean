import Sero.Library.Ownership
import Sero.Properties.Registrations

/-!
# The Node binding

The runtime is handed pointers to objects the binding owns: a wrapper for every service it
registers, one for every event handler, and a context for every request.  What the binding does
to them around the calls it passes on and inside the callbacks is read off the runtime's
history, since nothing is observed between a call's return and the binding's own bookkeeping.
Asking a wrapper whether its service is ready is not observed; the runtime asks those of its
table, which holds what the calls have registered.
-/

namespace Sero.Node

open Library

variable {n : Nat} {cfg : Config n}

/-! ## Promises -/

/-- How a promise is settled. -/
inductive Settlement where
  | resolved (rc : ReturnCode) (payload : Bytes)
  | rejected (message : String)
  deriving DecidableEq

/-- `pending_requests_`, the contexts that exist, and how promises were settled, newest first. -/
structure PendingRequests where
  pending : List Nat := []
  heap : Heap Nat := {}
  settlements : List (Nat × Settlement) := []

namespace PendingRequests

/-- `new PendingRequest`. -/
def create (handle : Nat) (requests : PendingRequests) : PendingRequests :=
  { requests with
    pending := handle :: requests.pending
    heap := requests.heap.create handle }

/-- Returning `pending->deferred.Promise()`. -/
def promise (handle : Nat) (requests : PendingRequests) : PendingRequests :=
  { requests with heap := requests.heap.use handle }

/-- Taken out of the set, settled and deleted. -/
def settle (handle : Nat) (settlement : Settlement) (requests : PendingRequests) :
    PendingRequests where
  pending := requests.pending.erase handle
  heap := (requests.heap.use handle).delete handle
  settlements := (handle, settlement) :: requests.settlements

/-- What `do_destroy` does to the requests that are still pending. -/
def destroy (requests : PendingRequests) : PendingRequests :=
  requests.pending.foldl
    (fun requests handle => requests.settle handle (.rejected "Runtime destroyed")) requests

end PendingRequests

/-! ## The wrapper -/

/-- What `SeroRuntime` owns. -/
structure Binding where
  services : OwnerMap UInt16 Nat := {}
  eventHandlers : OwnerMap UInt32 Nat := {}
  requests : PendingRequests := {}

/-- `event_handler_key`. -/
def eventHandlerKey (serviceId eventId : UInt16) : UInt32 :=
  (serviceId.toUInt32 <<< 16) ||| eventId.toUInt32

/-- The rejections of `Request` and `RequestTo`. -/
def requestFailed : Option (Address n) → Settlement
  | none => .rejected "Request failed (service not found or table full)"
  | some _ => .rejected "Request failed (table full)"

namespace Binding

/-- `RegisterService`, with what the runtime has answered. -/
def registerService (serviceId : UInt16) (context : Nat) (ok : Bool) (binding : Binding) :
    Binding :=
  { binding with services := binding.services.install serviceId context ok }

def unregisterService (serviceId : UInt16) (binding : Binding) : Binding :=
  { binding with services := binding.services.erase serviceId }

/-- `SubscribeEvent`, with what the runtime has answered. -/
def subscribeEvent (serviceId eventId : UInt16) (context : Nat) (ok : Bool) (binding : Binding) :
    Binding :=
  { binding with
    eventHandlers :=
      binding.eventHandlers.install (eventHandlerKey serviceId eventId) context ok }

def unsubscribeEvent (serviceId eventId : UInt16) (binding : Binding) : Binding :=
  { binding with
    eventHandlers := binding.eventHandlers.erase (eventHandlerKey serviceId eventId) }

/-- `impl_on_request` of a `JsService`. -/
def onRequest (context : Nat) (binding : Binding) : Binding :=
  { binding with services := binding.services.use context }

/-- `impl_is_ready` of each of these `JsService`s. -/
def isReady (contexts : List Nat) (binding : Binding) : Binding :=
  { binding with
    services := contexts.foldl (fun services context => services.use context) binding.services }

/-- `impl_on_event` of a `JsEventHandler`. -/
def onEvent (context : Nat) (binding : Binding) : Binding :=
  { binding with eventHandlers := binding.eventHandlers.use context }

/-- The context of a request, as far as `Request` has come when the runtime issues it. -/
def beginRequest (handle : Nat) (binding : Binding) : Binding :=
  { binding with requests := binding.requests.create handle }

/-- `request_complete_cb`. -/
def completeRequest (handle : Nat) (rc : ReturnCode) (payload : Bytes) (binding : Binding) :
    Binding :=
  { binding with requests := binding.requests.settle handle (.resolved rc payload) }

/-- `Request` or `RequestTo` once the runtime has returned an id. -/
def requestReturns (handle : Nat) (binding : Binding) : Binding :=
  { binding with requests := binding.requests.promise handle }

/-- `Request` or `RequestTo` once the runtime has returned none. -/
def requestFails (target : Option (Address n)) (handle : Nat) (binding : Binding) : Binding :=
  { binding with requests := binding.requests.settle handle (requestFailed target) }

/-- `do_destroy`. -/
def destroy (binding : Binding) : Binding where
  requests := binding.requests.destroy
  services := binding.services.clear
  eventHandlers := binding.eventHandlers.clear

/-- The wrapper in the runtime's entry of a service. -/
def wrapperOf (past : History cfg) (serviceId : UInt16) : Option Nat :=
  match (registration serviceId past).map ServiceEntry.context with
  | some (.application context) => some context
  | _ => none

/-- The services that have been registered at some time. -/
def registeredIds (past : History cfg) : List UInt16 :=
  past.filterMap fun
    | .returned (.registerService serviceId ..) _ => some serviceId
    | _ => none

/-- The wrappers that are asked whether their service is ready: before a handler is entered,
that of its service, and for a list of the services, those of all that are registered, unless
the list is too long for the response. -/
def asked (past : History cfg) : Event cfg → List Nat
  | .dispatched _ data =>
      match checkFrame cfg data with
      | .error _ => []
      | .ok hdr =>
          if hdr.serviceId ≠ sdServiceId ∧
              (MessageType.ofByte hdr.messageType = some .request ∨
                MessageType.ofByte hdr.messageType = some .requestNoReturn) then
            (wrapperOf past hdr.serviceId).toList
          else []
  | .onRequest entry _ methodId _ _ =>
      match entry.context with
      | .application _ => []
      | .diagnostics =>
          if methodId = 0x0004 then (registeredIds past).filterMap (wrapperOf past) else []
  | _ => []

/-- Has a request been given a slot under this handle? -/
def issues (handle : Nat) : Event cfg → Bool
  | .issued issued .. => issued == handle
  | _ => false

/-- The binding after a run of its runtime. -/
def after : History cfg → Binding
  | [] => {}
  | event :: past =>
      let binding := (after past).isReady (asked past event)
      match event with
      | .returned (.registerService serviceId context ..) result =>
          binding.registerService serviceId context (result = .bool true)
      | .returned (.unregisterService serviceId) _ => binding.unregisterService serviceId
      | .returned (.subscribeEvent serviceId eventId context ..) result =>
          binding.subscribeEvent serviceId eventId context (result = .bool true)
      | .returned (.unsubscribeEvent serviceId eventId) _ =>
          binding.unsubscribeEvent serviceId eventId
      | .issued handle .. => binding.beginRequest handle
      | .returned (.request ..) (.request handle (some _)) => binding.requestReturns handle
      | .returned (.request target ..) (.request handle none) =>
          -- a call that fails before it gets a slot is first seen when it returns
          let begun := if past.any (issues handle) then binding else binding.beginRequest handle
          begun.requestFails target handle
      | .onRequest entry .. =>
          match entry.context with
          | .application context => binding.onRequest context
          | .diagnostics => binding
      | .callback (.event context ..) => binding.onEvent context
      | .callback (.request handle _ rc payload) => binding.completeRequest handle rc payload
      | _ => binding

end Binding

end Sero.Node
