import Sero.Properties.ReceiveShift

/-!
# Replaying a run on a shifted clock

A run replayed with every moment shifted by the same constant, modulo the range of the clock,
goes the same way: nothing a device does depends on when its clock wraps.  The exception is
the buffers, which show what earlier frames held and so the clock.
-/

namespace Sero

open Library ServiceDiscovery

variable {n : Nat} {cfg : Config n} {offset : UInt32}

/-! ## Moves -/

def Move.shift (offset : UInt32) : Move cfg → Move cfg
  | .api call => .api (call.shift offset)
  | .start nowMs => .start (nowMs + offset)
  | .deliver source data nowMs => .deliver source data (nowMs + offset)
  | .housekeeping nowMs => .housekeeping (nowMs + offset)

/-- The move sends bytes that a buffer has kept: a payload is not there, or the handler of a
request has not written all it reports. -/
def Move.ShowsBuffer (env : Env cfg) (w : World cfg) : Move cfg → Prop
  | .api call => call.ShowsBuffer w
  | .deliver source data _ =>
      ∃ hdr, (w.validate source data).1 = some hdr ∧ hdr.serviceId ≠ sdServiceId ∧
        MessageType.ofByte hdr.messageType = some .request ∧
        ((w.validate source data).2.answer env hdr.serviceId hdr.methodEventId
          (payloadOf hdr data)).1.Short cfg
  | _ => False

namespace World.Later

section Moves

variable {env laterEnv : Env cfg} (replays : Env.Replays offset env laterEnv)
variable {w later : World cfg} (shifted : World.Later offset w later)
include replays shifted

theorem dispatchMessage (source : Address n) (hdr : MessageHeader) (payload : Bytes)
    (nowMs : UInt32)
    (whole : hdr.serviceId ≠ sdServiceId →
      MessageType.ofByte hdr.messageType = some .request →
      ¬(w.answer env hdr.serviceId hdr.methodEventId payload).1.Short cfg) :
    World.Later offset (w.dispatchMessage env source hdr payload nowMs)
      (later.dispatchMessage laterEnv source hdr payload (nowMs + offset)) := by
  rw [World.dispatchMessage, World.dispatchMessage]
  split
  · exact shifted.handleSdMessage replays source hdr payload nowMs
  · next notSd =>
      cases type : MessageType.ofByte hdr.messageType with
      | none => exact shifted
      | some type' =>
          cases type' with
          | request => exact shifted.handleRequest replays source hdr payload (whole notSd type)
          | requestNoReturn => exact shifted.handleFireAndForget replays hdr payload
          | response | error => exact shifted.complete replays .reply _ _ payload
          | notification => exact shifted.handleNotification replays hdr payload

theorem validateAndDispatch (source : Address n) (data : Bytes) (nowMs : UInt32)
    (covered : ¬Move.ShowsBuffer env w (.deliver source data nowMs)) :
    World.Later offset (w.validateAndDispatch env source data nowMs)
      (later.validateAndDispatch laterEnv source data (nowMs + offset)) := by
  obtain ⟨accepted, first, second, left, right, validated⟩ :=
    (shifted.validate source data).elim
  rw [World.validateAndDispatch, World.validateAndDispatch, left, right]
  cases accepted with
  | none => exact validated
  | some hdr =>
      apply validated.dispatchMessage replays
      intro notSd request short
      apply covered
      rw [Move.ShowsBuffer, left]
      exact ⟨hdr, rfl, notSd, request, short⟩

omit replays in
theorem startCycle (nowMs : UInt32) :
    World.Later offset (w.startCycle nowMs) (later.startCycle (nowMs + offset)) := by
  have epoch : (if later.rt.uptimeStarted then later.rt.uptimeEpochMs else nowMs + offset) =
      (if w.rt.uptimeStarted then w.rt.uptimeEpochMs else nowMs) + offset := by
    rw [shifted.rt.uptimeStarted]
    split
    · next started => exact shifted.rt.uptimeEpochMs started
    · rfl
  rw [World.startCycle, World.startCycle, epoch]
  dsimp only
  rw [sub_shift]
  exact { shifted with rt := { shifted.rt with
    uptimeStarted := rfl, uptimeEpochMs := fun _ => rfl, uptimeMs := rfl } }

/-! ## Housekeeping -/

theorem evictSlot (nowMs : UInt32) (slot : Fin cfg.maxPendingRequests) :
    World.Later offset
      (RequestTracker.evictSlot trackerLens (invokeRequest .timeout (World.react env)) nowMs w
        slot)
      (RequestTracker.evictSlot trackerLens (invokeRequest .timeout (World.react laterEnv))
        (nowMs + offset) later slot) := by
  have expires := RequestTracker.expires_shift offset w.rt.requestTracker slot nowMs
  rw [← shifted.rt.requestTracker] at expires
  rw [RequestTracker.evictSlot, RequestTracker.evictSlot, trackerLens_get, trackerLens_get,
    expires]
  split
  · exact shifted.finish replays slot .timeout .eTimeout []
  · exact shifted

theorem evictRequests (nowMs : UInt32) :
    World.Later offset (w.evictRequests env nowMs)
      (later.evictRequests laterEnv (nowMs + offset)) := by
  rw [World.evictRequests, World.evictRequests, RequestTracker.evictExpired,
    RequestTracker.evictExpired]
  refine shifted.foldlSame ?_ _
  intro first second worlds slot
  exact worlds.evictSlot replays nowMs slot

omit replays in
theorem evictSubscribers (nowMs : UInt32) :
    World.Later offset (w.evictSubscribers nowMs)
      (later.evictSubscribers (nowMs + offset)) := by
  have evicted := EventManager.evictExpired_shift offset w.rt.eventManager nowMs
  rw [← shifted.rt.eventManager] at evicted
  exact shifted.setEventManager evicted

theorem broadcastOffers (nowMs : UInt32) :
    World.Later offset (w.broadcastOffers env nowMs)
      (later.broadcastOffers laterEnv (nowMs + offset)) := by
  obtain ⟨messages, written⟩ := shifted.rt.sd.processOffers nowMs
  refine (shifted.setSd written).foldl ?_ messages
  intro first second message laterMessage worlds alike
  exact worlds.sendSdBroadcast replays alike

omit replays in
theorem markRenewals (nowMs : UInt32) :
    World.Later offset (w.markRenewals nowMs) (later.markRenewals (nowMs + offset)) := by
  obtain ⟨sends, written⟩ := shifted.rt.sd.processSubscriptionRenewals nowMs
  have marked := (shifted.setSd written).emit
    (.renewals (w.rt.sd.processSubscriptionRenewals nowMs).1 shifted.rt.sd written)
  rw [World.markRenewals, World.markRenewals]
  dsimp only
  rw [sends]
  exact marked

theorem renewSubscriptions (nowMs : UInt32) :
    World.Later offset (w.renewSubscriptions env nowMs)
      (later.renewSubscriptions laterEnv (nowMs + offset)) := by
  rw [World.renewSubscriptions, World.renewSubscriptions,
    (shifted.rt.sd.processSubscriptionRenewals nowMs).1]
  refine (shifted.markRenewals nowMs).foldlSame ?_ _
  intro first second worlds send
  exact worlds.sendSdUnicast replays send.1 (.same send.2)

/-- A lease runs out at the same time. -/
theorem processConsumerTtl (nowMs : UInt32) (index : Nat) :
    World.Later offset
      (ServiceDiscovery.processConsumerTtl sdLens (sdHooks env) nowMs w index)
      (ServiceDiscovery.processConsumerTtl sdLens (sdHooks laterEnv) (nowMs + offset) later
        index) := by
  have consumers := Table.getElem?_related shifted.rt.sd.consumers index
  rw [ServiceDiscovery.processConsumerTtl, ServiceDiscovery.processConsumerTtl, sdLens_get,
    sdLens_get]
  revert consumers
  generalize w.rt.sd.consumers[index]? = known
  generalize later.rt.sd.consumers[index]? = laterKnown
  intro consumers
  cases consumers with
  | none => exact shifted
  | @some entry _ entries =>
      obtain ⟨ttlExpiryMs, rfl, found⟩ := entries
      have due : (entry.state = .found ∧ timeAfter (nowMs + offset) ttlExpiryMs = true) ↔
          entry.state = .found ∧ timeAfter nowMs entry.ttlExpiryMs = true := by
        apply and_congr_right
        intro isFound
        rw [found isFound, timeAfter_shift]
      dsimp only
      rw [if_congr due rfl rfl]
      split
      · have expired := (shifted.setSd (shifted.rt.sd.expireConsumer index)).resetPeer
          entry.providerAddr
        exact expired.callServiceLost replays entry.serviceId
      · exact shifted

omit replays shifted in
theorem broadcast_eq (message : SdMessage n) (w : World cfg) :
    (sdHooks env).broadcast message w = w.sendSdBroadcast env message := rfl

/-- A search is repeated and given up at the same time. -/
theorem processFind (ahead : RetriesAhead cfg) (nowMs : UInt32) (index : Nat) :
    World.Later offset (ServiceDiscovery.processFind sdLens (sdHooks env) nowMs w index)
      (ServiceDiscovery.processFind sdLens (sdHooks laterEnv) (nowMs + offset) later
        index) := by
  have consumers := Table.getElem?_related shifted.rt.sd.consumers index
  rw [ServiceDiscovery.processFind, ServiceDiscovery.processFind, sdLens_get, sdLens_get]
  revert consumers
  generalize w.rt.sd.consumers[index]? = known
  generalize later.rt.sd.consumers[index]? = laterKnown
  intro consumers
  cases consumers with
  | none => exact shifted
  | @some entry _ entries =>
      obtain ⟨ttlExpiryMs, rfl, -⟩ := entries
      dsimp only
      rw [timeAfterOrEq_shift]
      split
      · have sent := shifted.sendSdBroadcast replays (.same (.find entry.serviceId))
        rw [broadcast_eq, broadcast_eq, sdLens_modify, sdLens_modify, sdLens_modify,
          sdLens_modify]
        split
        · have gaveUp := sent.setSd (sent.rt.sd.giveUpFind index (entry.retryCount + 1))
          exact gaveUp.callServiceLost replays entry.serviceId
        · next more =>
            exact sent.setSd (sent.rt.sd.scheduleRetry ahead index (UInt8.not_lt.mp more) nowMs)
      · exact shifted

theorem processConsumerTtls (nowMs : UInt32) :
    World.Later offset (ServiceDiscovery.processConsumerTtls sdLens (sdHooks env) nowMs w)
      (ServiceDiscovery.processConsumerTtls sdLens (sdHooks laterEnv) (nowMs + offset)
        later) := by
  rw [ServiceDiscovery.processConsumerTtls, ServiceDiscovery.processConsumerTtls]
  refine shifted.foldlSame ?_ _
  intro first second worlds index
  exact worlds.processConsumerTtl replays nowMs index

theorem processFinds (ahead : RetriesAhead cfg) (nowMs : UInt32) :
    World.Later offset (ServiceDiscovery.processFinds sdLens (sdHooks env) nowMs w)
      (ServiceDiscovery.processFinds sdLens (sdHooks laterEnv) (nowMs + offset) later) := by
  rw [ServiceDiscovery.processFinds, ServiceDiscovery.processFinds]
  refine shifted.foldlSame ?_ _
  intro first second worlds index
  exact worlds.processFind replays ahead nowMs index

theorem housekeeping (ahead : RetriesAhead cfg) (nowMs : UInt32) :
    World.Later offset (w.housekeeping env nowMs)
      (later.housekeeping laterEnv (nowMs + offset)) := by
  have evicted := (shifted.evictRequests replays nowMs).evictSubscribers nowMs
  have announced := (evicted.broadcastOffers replays nowMs).renewSubscriptions replays nowMs
  exact (announced.processConsumerTtls replays nowMs).processFinds replays ahead nowMs

/-! ## Runs -/

theorem step (ahead : RetriesAhead cfg) {move : Move cfg}
    (covered : ¬move.ShowsBuffer env w) :
    World.Later offset (w.step env move) (later.step laterEnv (move.shift offset)) := by
  cases move with
  | api call => exact shifted.perform replays covered
  | start nowMs => exact shifted.startCycle nowMs
  | deliver source data nowMs =>
      exact shifted.validateAndDispatch replays source data nowMs covered
  | housekeeping nowMs => exact shifted.housekeeping replays ahead nowMs

end Moves

end World.Later

namespace World

/-- No move of a run sends bytes that a buffer has kept. -/
def CoversBuffers (env : Env cfg) : List (Move cfg) → World cfg → Prop
  | [], _ => True
  | move :: rest, w => ¬move.ShowsBuffer env w ∧ CoversBuffers env rest (w.step env move)

theorem CoversBuffers.take {env : Env cfg} {moves : List (Move cfg)} {w : World cfg}
    (covers : CoversBuffers env moves w) (count : Nat) :
    CoversBuffers env (moves.take count) w := by
  induction moves generalizing w count with
  | nil =>
      rw [List.take_nil]
      exact covers
  | cons move rest ih =>
      cases count with
      | zero => trivial
      | succ count => exact ⟨covers.1, ih covers.2 count⟩

theorem Later.run {env laterEnv : Env cfg} (replays : Env.Replays offset env laterEnv)
    (ahead : RetriesAhead cfg) {moves : List (Move cfg)} {w later : World cfg}
    (shifted : World.Later offset w later) (covers : CoversBuffers env moves w) :
    World.Later offset (run env moves w)
      (run laterEnv (moves.map (Move.shift offset)) later) := by
  induction moves generalizing w later with
  | nil => exact shifted
  | cons move rest ih => exact ih (shifted.step replays ahead covers.1) covers.2

/-- A run replayed on a clock that differs by a constant is the same after every move: the
same frames, but for session ids and stamps, the same callbacks, and the same entries of each
table with moments that differ by the constant. -/
theorem replays_alike {cfg : Config 8} (standard : cfg = defaultConfig ∨ cfg = embeddedConfig)
    {offset : UInt32} {env laterEnv : Env cfg} (replays : Env.Replays offset env laterEnv)
    (clientId : UInt16) {moves : List (Move cfg)}
    (covers : CoversBuffers env moves (initial cfg clientId)) (count : Nat) :
    World.Later offset (run env (moves.take count) (initial cfg clientId))
      (run laterEnv ((moves.take count).map (Move.shift offset)) (initial cfg clientId)) :=
  (Later.initial offset clientId).run replays (searchesEnd_standard standard).ahead
    (covers.take count)

end World

/-! Two environments that do nothing, and the clocks on both sides of the wrap. -/

theorem Env.benign_replays (cfg : Config n) (offset : UInt32) :
    Env.Replays offset (.benign cfg) (.benign cfg) where
  sendOk _ _ _ _ _ := rfl
  broadcastOk _ _ _ _ := rfl
  isReady _ _ := rfl
  onRequest _ _ _ _ := rfl
  noCalls _ := ⟨rfl, rfl⟩
  handlersNoCalls _ _ _ _ := rfl

namespace World

/-- A request that is not answered. -/
def unansweredMoves : List (Move embeddedConfig) :=
  [.start 0, .api (.request (some (Address.zero 8)) 0x2000 1 (.bytes [1, 2]) true 50 0),
    .start 100, .housekeeping 100]

theorem replays_alike_wrapping :
    World.Later 0xFFFFFFC0
      (run (.benign _) (unansweredMoves.take 4) (initial embeddedConfig 1))
      (run (.benign _) ((unansweredMoves.take 4).map (Move.shift 0xFFFFFFC0))
        (initial embeddedConfig 1)) := by
  apply replays_alike (.inr rfl) (Env.benign_replays _ _) 1
  refine ⟨id, ?_, id, id, trivial⟩
  rintro ⟨⟨missing, -⟩, -⟩
  cases missing

/-- An offer is broadcast, then a request is sent with a null payload. -/
def nullPayloadMoves : List (Move embeddedConfig) :=
  [.api (.registerService 0x1000 0 1 0 false), .api (.offerService 0x1000 10 0),
    .housekeeping 0, .api (.request (some (Address.zero 8)) 0x2000 1 (.null 8) false 50 0)]

/-- The request shows the session id of the offer. -/
theorem null_payload_shows_clock :
    let left := run (.benign _) nullPayloadMoves (initial embeddedConfig 1)
    let right := run (.benign _) (nullPayloadMoves.map (Move.shift 1))
      (initial embeddedConfig 1)
    Env.Replays 1 (.benign embeddedConfig) (.benign embeddedConfig) ∧
      ¬Option.Rel (FrameLater embeddedConfig 1) (lastSent (.request 4) left.history)
        (lastSent (.request 4) right.history) ∧
      ¬World.Later 1 left right := by
  intro left right
  have shows : ¬Option.Rel (FrameLater embeddedConfig 1) (lastSent (.request 4) left.history)
      (lastSent (.request 4) right.history) := by
    have different : lastSent (.request 4) right.history ≠ lastSent (.request 4) left.history :=
      by decide +kernel
    have service : (lastSent (.request 4) left.history).map (fun frame =>
        (MessageHeader.deserialize frame).serviceId) = some 0x2000 := by
      decide +kernel
    revert different service
    generalize lastSent (.request 4) left.history = sent
    generalize lastSent (.request 4) right.history = laterSent
    intro different service alike
    cases alike with
    | none => exact different rfl
    | some frames =>
        have own := Option.some.inj service
        rcases frames.eq_or_service with same | sd | diag
        · exact different (congrArg some same)
        · exact absurd (own.symm.trans sd) (by decide)
        · exact absurd (own.symm.trans diag) (by decide)
  exact ⟨Env.benign_replays _ _, shows, fun shifted => shows (shifted.lastSent _)⟩

end World

end Sero
