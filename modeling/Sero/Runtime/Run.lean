import Sero.Runtime.Receive

/-!
# Runs

`process` is cut into the moves an environment can interleave with API calls: the
start of a cycle, one delivery per polled datagram, and the housekeeping behind
the receive loop.  A run is any sequence of such moves; `process_run` places the
real cycle among them.
-/

namespace Sero

open Library

variable {n : Nat} {cfg : Config n}

namespace World

variable (env : Env cfg)

/-- The uptime bookkeeping `process` begins with. -/
def startCycle (nowMs : UInt32) (w : World cfg) : World cfg :=
  let uptimeEpochMs := if w.rt.uptimeStarted then w.rt.uptimeEpochMs else nowMs
  { w with rt := { w.rt with
    uptimeStarted := true, uptimeEpochMs, uptimeMs := nowMs - uptimeEpochMs } }

def evictRequests (nowMs : UInt32) (w : World cfg) : World cfg :=
  RequestTracker.evictExpired trackerLens (invokeRequest .timeout (react env)) nowMs w

def evictSubscribers (nowMs : UInt32) (w : World cfg) : World cfg :=
  { w with rt := { w.rt with eventManager := w.rt.eventManager.evictExpired nowMs } }

def broadcastOffers (nowMs : UInt32) (w : World cfg) : World cfg :=
  let (messages, sd) := w.rt.sd.processOffers nowMs
  messages.foldl (fun w message => w.sendSdBroadcast env message)
    { w with rt := { w.rt with sd } }

/-- The renewal pass up to the transport. -/
def markRenewals (nowMs : UInt32) (w : World cfg) : World cfg :=
  let (sends, sd) := w.rt.sd.processSubscriptionRenewals nowMs
  World.emit (.renewals sends w.rt.sd sd) { w with rt := { w.rt with sd } }

def renewSubscriptions (nowMs : UInt32) (w : World cfg) : World cfg :=
  (w.rt.sd.processSubscriptionRenewals nowMs).1.foldl
    (fun w send => w.sendSdUnicast env send.1 send.2) (w.markRenewals nowMs)

/-- Steps 2 to 7 of the cycle. -/
def housekeeping (nowMs : UInt32) (w : World cfg) : World cfg :=
  let w := w.evictRequests env nowMs
  let w := w.evictSubscribers nowMs
  let w := w.broadcastOffers env nowMs
  let w := w.renewSubscriptions env nowMs
  let w := ServiceDiscovery.processConsumerTtls sdLens (sdHooks env) nowMs w
  ServiceDiscovery.processFinds sdLens (sdHooks env) nowMs w

/-- `process`, with the datagrams `poll` would yield. -/
def process (inbox : List (Address n × Bytes)) (nowMs : UInt32) (w : World cfg) :
    World cfg :=
  ((inbox.take cfg.maxReceiveQueueSize).foldl
      (fun w datagram => w.validateAndDispatch env datagram.1 datagram.2 nowMs)
      (w.startCycle nowMs)).housekeeping env nowMs

end World

/-- What the environment does next. -/
inductive Move (cfg : Config n) where
  | api (call : ApiCall cfg)
  | start (nowMs : UInt32)
  | deliver (source : Address n) (data : Bytes) (nowMs : UInt32)
  | housekeeping (nowMs : UInt32)

namespace World

variable (env : Env cfg)

def step (w : World cfg) : Move cfg → World cfg
  | .api call => w.perform env (react env) call
  | .start nowMs => w.startCycle nowMs
  | .deliver source data nowMs => w.validateAndDispatch env source data nowMs
  | .housekeeping nowMs => w.housekeeping env nowMs

def run (moves : List (Move cfg)) (w : World cfg) : World cfg :=
  moves.foldl (step env) w

/-- What has been observed since an earlier world of the same run. -/
def since (later earlier : World cfg) : History cfg :=
  later.history.take (later.history.length - earlier.history.length)

theorem since_append {later earlier : World cfg}
    (grown : earlier.history <:+ later.history) :
    later.since earlier ++ earlier.history = later.history := by
  obtain ⟨events, equal⟩ := grown
  rw [since, ← equal]
  simp

theorem since_eq {later earlier : World cfg} {events : History cfg}
    (grown : later.history = events ++ earlier.history) : later.since earlier = events := by
  rw [since, grown]
  simp

/-- The worlds a device can be in between moves. -/
def Reachable (w : World cfg) : Prop :=
  ∃ clientId moves, w = run env moves (World.initial cfg clientId)

variable {env} in
theorem Reachable.run {w : World cfg} (reachable : Reachable env w)
    (moves : List (Move cfg)) : Reachable env (run env moves w) := by
  obtain ⟨clientId, earlier, rfl⟩ := reachable
  exact ⟨clientId, earlier ++ moves, List.foldl_append.symm⟩

/-- The moves of one `process` call. -/
def processMoves (inbox : List (Address n × Bytes)) (nowMs : UInt32) : List (Move cfg) :=
  .start nowMs :: (inbox.take cfg.maxReceiveQueueSize).map
    (fun datagram => .deliver datagram.1 datagram.2 nowMs) ++ [.housekeeping nowMs]

theorem process_run (inbox : List (Address n × Bytes)) (nowMs : UInt32) (w : World cfg) :
    w.process env inbox nowMs = run env (processMoves inbox nowMs) w := by
  simp only [process, run, processMoves, List.cons_append, List.foldl_cons,
    List.foldl_append, List.foldl_map, List.foldl_nil, step]

end World

/-! ## Turns -/

/-- What the application makes a device do: a cycle, with what the transport holds for it, or a
call. -/
inductive Turn (cfg : Config n) where
  | process (inbox : List (Address n × Bytes)) (nowMs : UInt32)
  | call (call : ApiCall cfg)

def Turn.moves : Turn cfg → List (Move cfg)
  | .process inbox nowMs => World.processMoves inbox nowMs
  | .call operation => [.api operation]

def Turn.cycleMs : Turn cfg → Option UInt32
  | .process _ nowMs => some nowMs
  | .call _ => none

/-- A run of whole cycles and calls. -/
def World.takeTurns (env : Env cfg) (turns : List (Turn cfg)) (w : World cfg) : World cfg :=
  w.run env (turns.flatMap Turn.moves)

end Sero
