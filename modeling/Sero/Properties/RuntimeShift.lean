import Sero.Properties.ClockShift
import Sero.Properties.DiscoveryFrames
import Sero.Properties.DiscoveryShift
import Sero.Properties.StaleBytes

/-!
# Runtimes on a shifted clock

Two runtimes that have lived through the same on clocks that differ by a constant.  What
they have sent differs where the clock shows: in the session ids of offers, in the stamps of
trouble codes, and in what is computed over these.
-/

namespace Sero

open Library ServiceDiscovery

variable {n : Nat} {cfg : Config n} {offset : UInt32}

/-- Frames that differ only in what the clock has put into them. -/
inductive FrameLater (cfg : Config n) (offset : UInt32) : Bytes → Bytes → Prop where
  | same (frame : Bytes) : FrameLater cfg offset frame frame
  | offer (clientId : UInt16) (sequenceCounter : UInt8) {message later : SdMessage n}
      (alike : SameButSession message later) :
      FrameLater cfg offset (message.frame clientId sequenceCounter)
        (later.frame clientId sequenceCounter)
  | dtcs (sender : Runtime cfg) {hdr : MessageHeader} (service : hdr.serviceId = diagServiceId)
      (method : hdr.methodEventId = 0x0001) (dtcs : List Dtc) (auth : Bool)
      (peer : Address n) :
      FrameLater cfg offset (sender.frameAround hdr (dtcReply dtcs) auth peer)
        (sender.frameAround hdr (dtcReply (dtcs.map (Dtc.shift offset))) auth peer)

/-- Other frames are the same on both clocks. -/
theorem FrameLater.eq_or_service {frame later : Bytes}
    (frames : FrameLater cfg offset frame later) :
    later = frame ∨ (MessageHeader.deserialize frame).serviceId = sdServiceId ∨
      (MessageHeader.deserialize frame).serviceId = diagServiceId := by
  cases frames with
  | same => exact .inl rfl
  | offer =>
      refine .inr (.inl ?_)
      rw [SdMessage.frame, deserialize_messageFrame]
      rfl
  | dtcs sender service =>
      refine .inr (.inr ?_)
      rw [Runtime.frameAround, deserialize_messageFrame]
      exact service

theorem ServiceDiscovery.SameButSession.encode_length {message later : SdMessage n}
    (alike : SameButSession message later) (clientId : UInt16) :
    (later.encode clientId).length = (message.encode clientId).length := by
  cases alike with
  | same => rfl
  | offer =>
      rw [SdMessage.encode_length, SdMessage.encode_length]
      rfl

def ApiCall.shift (offset : UInt32) : ApiCall cfg → ApiCall cfg
  | .offerService serviceId ttlSeconds nowMs =>
      .offerService serviceId ttlSeconds (nowMs + offset)
  | .findService serviceId majorVersion nowMs =>
      .findService serviceId majorVersion (nowMs + offset)
  | .request target serviceId methodId payload hasCallback timeoutMs nowMs =>
      .request target serviceId methodId payload hasCallback timeoutMs (nowMs + offset)
  | .subscribeEvent serviceId eventId context ttlSeconds nowMs =>
      .subscribeEvent serviceId eventId context ttlSeconds (nowMs + offset)
  | .enableDiagnostics nowMs authRequired => .enableDiagnostics (nowMs + offset) authRequired
  | .reportDtc code severity nowMs => .reportDtc code severity (nowMs + offset)
  | call => call

/-- What is observed on both clocks.  What an execution hands to its reply shows in the frame
of the reply. -/
inductive Event.Later (offset : UInt32) : Event cfg → Event cfg → Prop where
  | same (event : Event cfg) : Event.Later offset event event
  | executed (source : Address n) (requestId : UInt32) (serviceId methodId : UInt16)
      (payload : Bytes) (rc : ReturnCode) (response later : Bytes) :
      Event.Later offset
        (.executed source requestId serviceId methodId payload rc response)
        (.executed source requestId serviceId methodId payload rc later)
  | sent (kind : SendKind) (dest : Address n) {frame later : Bytes}
      (frames : FrameLater cfg offset frame later) (ok : Bool) :
      Event.Later offset (.sent kind dest frame ok) (.sent kind dest later ok)
  | broadcast {frame later : Bytes} (frames : FrameLater cfg offset frame later) (ok : Bool) :
      Event.Later offset (.broadcast frame ok) (.broadcast later ok)
  | renewals (sends : List (Address n × SdMessage n))
      {before laterBefore after laterAfter : ServiceDiscovery cfg}
      (befores : before.Later offset laterBefore) (afters : after.Later offset laterAfter) :
      Event.Later offset (.renewals sends before after)
        (.renewals sends laterBefore laterAfter)
  | returned (call : ApiCall cfg) (result : ApiResult) :
      Event.Later offset (.returned call result) (.returned (call.shift offset) result)

/-! ## Environments and worlds -/

/-- The same state on the later clock.  The buffers are left to each. -/
structure Runtime.Later (offset : UInt32) (rt later : Runtime cfg) : Prop where
  clientId : later.clientId = rt.clientId
  localAddr : later.localAddr = rt.localAddr
  e2e : later.e2e = rt.e2e
  sdSeq : later.sdSeq = rt.sdSeq
  authenticator : later.authenticator = rt.authenticator
  diag : later.diag = rt.diag
  dtcStore : later.dtcStore = rt.dtcStore.shift offset
  diagService : later.diagService = rt.diagService
  diagEnabled : later.diagEnabled = rt.diagEnabled
  uptimeMs : later.uptimeMs = rt.uptimeMs
  uptimeEpochMs : rt.uptimeStarted = true → later.uptimeEpochMs = rt.uptimeEpochMs + offset
  uptimeStarted : later.uptimeStarted = rt.uptimeStarted
  sd : rt.sd.Later offset later.sd
  dispatcher : later.dispatcher = rt.dispatcher
  eventManager : later.eventManager = rt.eventManager.shift offset
  requestTracker : later.requestTracker = rt.requestTracker.shift offset
  eventHandlers : later.eventHandlers = rt.eventHandlers

/-- The built-in service is registered under its own id only. -/
def MethodDispatcher.BuiltInOnly (dispatcher : MethodDispatcher cfg) : Prop :=
  ∀ entry ∈ dispatcher.services, entry.context = .diagnostics → entry.serviceId = diagServiceId

structure World.Later (offset : UInt32) (w later : World cfg) : Prop where
  rt : w.rt.Later offset later.rt
  history : List.Forall₂ (Event.Later offset) w.history later.history
  builtIn : w.rt.dispatcher.BuiltInOnly

/-- An operation has returned the same on both clocks. -/
structure ReturnsLater {α : Type} (offset : UInt32) (outcome later : α × World cfg) :
    Prop where
  value : later.1 = outcome.1
  world : World.Later offset outcome.2 later.2

/-- The transport and the application do on the later clock what they have done on the other,
and no callback calls the runtime. -/
structure Env.Replays (offset : UInt32) (env later : Env cfg) : Prop where
  sendOk : ∀ {history laterHistory : History cfg},
    List.Forall₂ (Event.Later offset) history laterHistory → ∀ (dest : Address n)
      {frame laterFrame : Bytes}, FrameLater cfg offset frame laterFrame →
      later.sendOk laterHistory dest laterFrame = env.sendOk history dest frame
  broadcastOk : ∀ {history laterHistory : History cfg},
    List.Forall₂ (Event.Later offset) history laterHistory →
      ∀ {frame laterFrame : Bytes}, FrameLater cfg offset frame laterFrame →
      later.broadcastOk laterHistory laterFrame = env.broadcastOk history frame
  isReady : ∀ {history laterHistory : History cfg},
    List.Forall₂ (Event.Later offset) history laterHistory → ∀ context,
      later.isReady laterHistory context = env.isReady history context
  onRequest : ∀ {history laterHistory : History cfg},
    List.Forall₂ (Event.Later offset) history laterHistory → ∀ context methodId payload,
      later.onRequest laterHistory context methodId payload =
        env.onRequest history context methodId payload
  noCalls : ∀ history, env.react history = .done ∧ later.react history = .done
  handlersNoCalls : ∀ history context methodId payload,
    (env.onRequest history context methodId payload).calls = .done

theorem Runtime.Later.initial (offset : UInt32) (clientId : UInt16) :
    Runtime.Later offset ({ clientId } : Runtime cfg) { clientId } := by
  have sd : ServiceDiscovery.Later offset ({ clientId } : ServiceDiscovery cfg) { clientId } :=
    ⟨.nil, .nil, rfl, rfl, rfl, rfl⟩
  constructor
  case sd => exact sd
  case uptimeEpochMs => exact nofun
  all_goals rfl

theorem World.Later.initial (offset : UInt32) (clientId : UInt16) :
    World.Later offset (World.initial cfg clientId) (World.initial cfg clientId) where
  rt := .initial offset clientId
  history := .nil
  builtIn := nofun

/-- The frames sent last on both clocks. -/
theorem World.Later.lastSent {w later : World cfg} (shifted : World.Later offset w later)
    (kind : SendKind) :
    Option.Rel (FrameLater cfg offset) (lastSent kind w.history)
      (lastSent kind later.history) := by
  have histories := shifted.history
  revert histories
  generalize w.history = history
  generalize later.history = laterHistory
  intro histories
  induction histories with
  | nil => exact .none
  | @cons event _ _ _ events _ ih =>
      rw [Sero.lastSent, Sero.lastSent, List.findSome?_cons, List.findSome?_cons]
      cases events with
      | same =>
          cases event with
          | sent other dest frame ok =>
              dsimp only
              by_cases own : other = kind
              · rw [if_pos own]
                exact .some (.same frame)
              · rw [if_neg own]
                exact ih
          | _ => exact ih
      | sent other dest frames ok =>
          dsimp only
          by_cases own : other = kind
          · rw [if_pos own, if_pos own]
            exact .some frames
          · rw [if_neg own, if_neg own]
            exact ih
      | _ => exact ih

namespace Runtime

variable {rt later : Runtime cfg}

theorem frameAround_congr (keys : later.authenticator = rt.authenticator)
    (hdr : MessageHeader) (body : Bytes) (auth : Bool) (peer : Address n) :
    later.frameAround hdr body auth peer = rt.frameAround hdr body auth peer :=
  (frameAround_eq_iff keys hdr rfl auth peer).mpr rfl

end Runtime

/-- A payload pointer that is null and would have been copied. -/
def Payload.Missing (cfg : Config n) (payload : Payload) : Prop :=
  payload.data = none ∧ 0 < payload.length ∧ payload.length ≤ cfg.maxPayloadSize

/-- A frame whose payload is not missing shows nothing of the transmit buffer. -/
theorem builtFrame_payload {rt later : Runtime cfg}
    (keys : later.authenticator = rt.authenticator) {payload : Payload}
    (given : ¬payload.Missing cfg) (hdr : MessageHeader) (auth : Bool) (peer : Address n) :
    later.builtFrame hdr payload.data payload.length auth peer =
      rt.builtFrame hdr payload.data payload.length auth peer := by
  by_cases fits : payload.length ≤ cfg.maxPayloadSize
  · cases payload with
    | bytes data =>
        simp only [Payload.data, Payload.length] at fits ⊢
        rw [Runtime.builtFrame_some _ _ _ _ fits (Nat.le_refl _),
          Runtime.builtFrame_some _ _ _ _ fits (Nat.le_refl _),
          Runtime.frameAround_congr keys]
    | null length =>
        have empty : length = 0 := by
          by_contra nonempty
          exact given ⟨rfl, Nat.pos_of_ne_zero nonempty, fits⟩
        subst empty
        simp only [Payload.data, Payload.length] at fits ⊢
        rw [Runtime.builtFrame_none _ _ _ _ fits, Runtime.builtFrame_none _ _ _ _ fits,
          Runtime.frameAround_congr keys]
        rfl
  · have long := Nat.not_le.mp fits
    rw [Runtime.builtFrame_oversized _ _ _ _ _ long,
      Runtime.builtFrame_oversized _ _ _ _ _ long]

namespace World

namespace Later

variable {w later : World cfg} (shifted : World.Later offset w later)
include shifted

theorem emit {event laterEvent : Event cfg} (events : Event.Later offset event laterEvent) :
    World.Later offset (w.emit event) (later.emit laterEvent) where
  rt := shifted.rt
  history := .cons events shifted.history
  builtIn := shifted.builtIn

theorem emitSame (event : Event cfg) :
    World.Later offset (w.emit event) (later.emit event) :=
  shifted.emit (.same event)

theorem increment (counter : DiagnosticCounter) (header : Option Bytes) :
    World.Later offset (w.increment counter header) (later.increment counter header) := by
  have counted : World.Later offset
      { w with rt := { w.rt with diag := w.rt.diag.increment counter } }
      { later with rt := { later.rt with diag := w.rt.diag.increment counter } } :=
    { shifted with rt := { shifted.rt with diag := rfl } }
  rw [World.increment, World.increment, shifted.rt.diag]
  dsimp only
  split
  · exact counted.emitSame (.diagnostic counter header)
  · exact counted

theorem countRefusal (ok : Bool) :
    World.Later offset (w.countRefusal ok) (later.countRefusal ok) := by
  cases ok with
  | true => exact shifted
  | false => exact shifted.increment .droppedMessages none

theorem resetPeer (addr : Address n) :
    World.Later offset (w.resetPeer addr) (later.resetPeer addr) := by
  have forgotten : World.Later offset
      { w with rt := { w.rt with e2e := w.rt.e2e.resetPeer addr } }
      { later with rt := { later.rt with e2e := w.rt.e2e.resetPeer addr } } :=
    { shifted with rt := { shifted.rt with e2e := rfl } }
  rw [World.resetPeer, World.resetPeer, shifted.rt.e2e]
  exact forgotten.emitSame (.peerReset addr)

end Later

/-! ## Sending and callbacks -/

section Sending

variable {env laterEnv : Env cfg} (replays : Env.Replays offset env laterEnv)
variable {w later : World cfg}

include replays in
/-- Equal sequence counters are drawn, and the transport answers the same. -/
theorem Later.transmit (shifted : World.Later offset w later) (kind : SendKind)
    (dest : Address n) (hdr : MessageHeader) {payload laterPayload : Option Bytes}
    {payloadLength : Nat} (auth : Bool)
    (frames : ∀ sequenceCounter, FrameLater cfg offset
      (w.rt.builtFrame { hdr with sequenceCounter } payload payloadLength auth dest)
      (later.rt.builtFrame { hdr with sequenceCounter } laterPayload payloadLength auth
        dest)) :
    ReturnsLater offset (w.transmit env kind dest hdr payload payloadLength auth)
      (later.transmit laterEnv kind dest hdr laterPayload payloadLength auth) := by
  have frame := frames w.rt.e2e.nextSequence.1
  have built : World.Later offset
      { w with rt := { w.rt with
        e2e := w.rt.e2e.nextSequence.2
        txBuffer := (w.rt.buildMessage { hdr with sequenceCounter := w.rt.e2e.nextSequence.1 }
          payload payloadLength auth dest).2 } }
      { later with rt := { later.rt with
        e2e := w.rt.e2e.nextSequence.2
        txBuffer := (later.rt.buildMessage
          { hdr with sequenceCounter := w.rt.e2e.nextSequence.1 } laterPayload payloadLength
          auth dest).2 } } :=
    { shifted with rt := { shifted.rt with e2e := rfl } }
  rw [World.transmit, World.transmit, shifted.rt.e2e]
  dsimp only
  rw [replays.sendOk shifted.history dest frame]
  exact ⟨rfl, built.emit (.sent kind dest frame _)⟩

/-- A discovery message that does not fit is not sent. -/
theorem sendSdBroadcast_eq (message : SdMessage n) (w : World cfg) :
    w.sendSdBroadcast env message =
      let bytes := message.encode w.rt.sd.clientId
      if maxMsgSize cfg < bytes.length + crcSize then w
      else
        let frame := message.frame w.rt.sd.clientId w.rt.sdSeq
        let ok := env.broadcastOk w.history frame
        World.countRefusal ok (World.emit (.broadcast frame ok)
          { w with rt := { w.rt with
            txBuffer := w.rt.stampSd bytes, sdSeq := w.rt.sdSeq + 1 } }) := by
  rw [sendSdBroadcast]
  dsimp only
  split
  · rfl
  · next fits =>
      rw [message.stampSd_frame w.rt w.rt.sd.clientId (Nat.not_lt.mp fits)]

theorem sendSdUnicast_eq (dest : Address n) (message : SdMessage n) (w : World cfg) :
    w.sendSdUnicast env dest message =
      let bytes := message.encode w.rt.sd.clientId
      if maxMsgSize cfg < bytes.length + crcSize then w
      else
        let frame := message.frame w.rt.sd.clientId w.rt.sdSeq
        let ok := env.sendOk w.history dest frame
        World.countRefusal ok (World.emit (.sent .sd dest frame ok)
          { w with rt := { w.rt with
            txBuffer := w.rt.stampSd bytes, sdSeq := w.rt.sdSeq + 1 } }) := by
  rw [sendSdUnicast]
  dsimp only
  split
  · rfl
  · next fits =>
      rw [message.stampSd_frame w.rt w.rt.sd.clientId (Nat.not_lt.mp fits)]

/-- What a discovery message leaves in the buffer and counts. -/
theorem Later.stamped (shifted : World.Later offset w later)
    (txBuffer laterBuffer : Buffer (maxMsgSize cfg)) {event laterEvent : Event cfg}
    (events : Event.Later offset event laterEvent) :
    World.Later offset
      (World.emit event
        { w with rt := { w.rt with txBuffer, sdSeq := w.rt.sdSeq + 1 } })
      (World.emit laterEvent
        { later with rt := { later.rt with
          txBuffer := laterBuffer, sdSeq := w.rt.sdSeq + 1 } }) := by
  have counted : World.Later offset
      { w with rt := { w.rt with txBuffer, sdSeq := w.rt.sdSeq + 1 } }
      { later with rt := { later.rt with
        txBuffer := laterBuffer, sdSeq := w.rt.sdSeq + 1 } } :=
    { shifted with rt := { shifted.rt with sdSeq := rfl } }
  exact counted.emit events

include replays in
theorem Later.sendSdBroadcast (shifted : World.Later offset w later)
    {message laterMessage : SdMessage n} (alike : SameButSession message laterMessage) :
    World.Later offset (w.sendSdBroadcast env message)
      (later.sendSdBroadcast laterEnv laterMessage) := by
  have frames : FrameLater cfg offset (message.frame w.rt.sd.clientId w.rt.sdSeq)
    (laterMessage.frame w.rt.sd.clientId w.rt.sdSeq) := .offer _ _ alike
  rw [sendSdBroadcast_eq, sendSdBroadcast_eq, shifted.rt.sd.clientId, shifted.rt.sdSeq]
  dsimp only
  rw [alike.encode_length]
  split
  · exact shifted
  · rw [replays.broadcastOk shifted.history frames]
    exact (shifted.stamped _ _ (.broadcast frames _)).countRefusal _

include replays in
theorem Later.sendSdUnicast (shifted : World.Later offset w later) (dest : Address n)
    {message laterMessage : SdMessage n} (alike : SameButSession message laterMessage) :
    World.Later offset (w.sendSdUnicast env dest message)
      (later.sendSdUnicast laterEnv dest laterMessage) := by
  have frames : FrameLater cfg offset (message.frame w.rt.sd.clientId w.rt.sdSeq)
    (laterMessage.frame w.rt.sd.clientId w.rt.sdSeq) := .offer _ _ alike
  rw [sendSdUnicast_eq, sendSdUnicast_eq, shifted.rt.sd.clientId, shifted.rt.sdSeq]
  dsimp only
  rw [alike.encode_length]
  split
  · exact shifted
  · rw [replays.sendOk shifted.history dest frames]
    exact (shifted.stamped _ _ (.sent .sd dest frames _)).countRefusal _

/-- A loop that keeps two worlds on their clocks. -/
theorem Later.foldl {α β : Type} {related : α → β → Prop} {body : World cfg → α → World cfg}
    {laterBody : World cfg → β → World cfg}
    (turns : ∀ {w later item laterItem}, World.Later offset w later →
      related item laterItem → World.Later offset (body w item) (laterBody later laterItem))
    {items : List α} {laterItems : List β} (alike : List.Forall₂ related items laterItems)
    (shifted : World.Later offset w later) :
    World.Later offset (items.foldl body w) (laterItems.foldl laterBody later) := by
  induction alike generalizing w later with
  | nil => exact shifted
  | cons related _ ih => exact ih (turns shifted related)

theorem Later.foldlSame {α : Type} {body laterBody : World cfg → α → World cfg}
    (turns : ∀ {w later}, World.Later offset w later → ∀ item,
      World.Later offset (body w item) (laterBody later item))
    (shifted : World.Later offset w later) (items : List α) :
    World.Later offset (items.foldl body w) (items.foldl laterBody later) := by
  induction items generalizing w later with
  | nil => exact shifted
  | cons item rest ih => exact ih (turns shifted item)

end Sending

section Callbacks

variable {env laterEnv : Env cfg} (replays : Env.Replays offset env laterEnv)
variable {w later : World cfg}
include replays

theorem Later.react (shifted : World.Later offset w later) :
    World.Later offset (w.react env) (later.react laterEnv) := by
  rw [World.react, World.react, (replays.noCalls _).1, (replays.noCalls _).2]
  exact shifted

theorem Later.callback (shifted : World.Later offset w later) (callback : Callback n) :
    World.Later offset (w.callback env callback) (later.callback laterEnv callback) :=
  (shifted.emitSame (.callback callback)).react replays

theorem Later.finish (shifted : World.Later offset w later)
    (slot : Fin cfg.maxPendingRequests) (cause : Cause) (rc : ReturnCode) (payload : Bytes) :
    World.Later offset
      (RequestTracker.finish trackerLens (invokeRequest cause (World.react env)) slot rc
        payload w)
      (RequestTracker.finish trackerLens (invokeRequest cause (World.react laterEnv)) slot rc
        payload later) := by
  have released : World.Later offset
      (trackerLens.modify (fun tracker => tracker.release slot) w)
      (trackerLens.modify (fun tracker => tracker.release slot) later) := by
    have requestTracker : later.rt.requestTracker.release slot =
        (w.rt.requestTracker.release slot).shift offset := by
      rw [shifted.rt.requestTracker, RequestTracker.release_shift]
    exact { shifted with rt := { shifted.rt with requestTracker } }
  have callback : (later.rt.requestTracker.entries slot).callback =
      (w.rt.requestTracker.entries slot).callback := by
    rw [shifted.rt.requestTracker, RequestTracker.callback_shift]
  simp only [RequestTracker.finish, trackerLens_get, callback]
  cases (w.rt.requestTracker.entries slot).callback with
  | none => exact released
  | some handle => exact released.callback replays (.request handle cause rc payload)

theorem Later.complete (shifted : World.Later offset w later) (cause : Cause)
    (requestId : UInt32) (rc : ReturnCode) (payload : Bytes) :
    World.Later offset
      (RequestTracker.complete trackerLens (invokeRequest cause (World.react env)) requestId rc
        payload w).2
      (RequestTracker.complete trackerLens (invokeRequest cause (World.react laterEnv))
        requestId rc payload later).2 := by
  rw [RequestTracker.complete, RequestTracker.complete, trackerLens_get, trackerLens_get,
    shifted.rt.requestTracker, RequestTracker.findActive_shift]
  cases w.rt.requestTracker.findActive requestId with
  | none => exact shifted
  | some slot => exact shifted.finish replays slot cause rc payload

end Callbacks

end World

end Sero
