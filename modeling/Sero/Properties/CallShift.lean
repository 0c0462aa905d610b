import Sero.Properties.RuntimeShift

/-!
# Calls on a shifted clock

Every public operation of the runtime, given the later moment on the later clock, returns the
same and keeps two runtimes on their clocks, as long as no frame is built around a payload
that is not there.
-/

namespace Sero

open Library ServiceDiscovery

variable {n : Nat} {cfg : Config n} {offset : UInt32}

namespace MethodDispatcher

variable {dispatcher : MethodDispatcher cfg}

theorem BuiltInOnly.registerService (builtIn : dispatcher.BuiltInOnly) {entry : ServiceEntry}
    (own : entry.context = .diagnostics → entry.serviceId = diagServiceId) :
    (dispatcher.registerService entry).2.BuiltInOnly := by
  rw [MethodDispatcher.registerService]
  split
  · exact builtIn
  · split
    · intro other member
      rcases List.mem_append.mp member with old | new
      · exact builtIn other old
      · cases List.mem_singleton.mp new
        exact own
    · exact builtIn

theorem BuiltInOnly.unregisterService (builtIn : dispatcher.BuiltInOnly)
    (serviceId : UInt16) : (dispatcher.unregisterService serviceId).2.BuiltInOnly := by
  rw [MethodDispatcher.unregisterService]
  split
  · intro entry member
    have erased := (Table.swapRemove_perm _ _).mem_iff.mp member
    exact builtIn entry (List.mem_of_mem_eraseP erased)
  · exact builtIn

end MethodDispatcher

namespace ReturnsLater

variable {α : Type} {outcome later : α × World cfg}

/-- The common result and the two worlds. -/
theorem elim (returns : ReturnsLater offset outcome later) :
    ∃ value first second, outcome = (value, first) ∧ later = (value, second) ∧
      World.Later offset first second :=
  ⟨outcome.1, outcome.2, later.2, rfl, Prod.ext returns.value rfl, returns.world⟩

/-- The same is made of a result on both clocks. -/
theorem map {β : Type} (returns : ReturnsLater offset outcome later) (make : α → β) :
    ReturnsLater offset (outcome.map make id) (later.map make id) :=
  ⟨congrArg make returns.value, returns.world⟩

end ReturnsLater

namespace World.Later

variable {w later : World cfg} (shifted : World.Later offset w later)
include shifted

theorem registerService {entry : ServiceEntry}
    (own : entry.context = .diagnostics → entry.serviceId = diagServiceId) :
    ReturnsLater offset (w.registerService entry) (later.registerService entry) := by
  rw [World.registerService, World.registerService, shifted.rt.dispatcher]
  exact ⟨rfl, { shifted with
    rt := { shifted.rt with dispatcher := rfl }
    builtIn := shifted.builtIn.registerService own }⟩

theorem unregisterService (serviceId : UInt16) :
    ReturnsLater offset (w.unregisterService serviceId) (later.unregisterService serviceId) := by
  rw [World.unregisterService, World.unregisterService, shifted.rt.dispatcher]
  exact ⟨rfl, { shifted with
    rt := { shifted.rt with dispatcher := rfl }
    builtIn := shifted.builtIn.unregisterService serviceId }⟩

/-- Discovery is written alike on both clocks. -/
theorem setSd {sd laterSd : ServiceDiscovery cfg} (written : sd.Later offset laterSd) :
    World.Later offset { w with rt := { w.rt with sd } }
      { later with rt := { later.rt with sd := laterSd } } :=
  { shifted with rt := { shifted.rt with sd := written } }

theorem setEventManager {manager laterManager : EventManager cfg}
    (written : laterManager = manager.shift offset) :
    World.Later offset { w with rt := { w.rt with eventManager := manager } }
      { later with rt := { later.rt with eventManager := laterManager } } :=
  { shifted with rt := { shifted.rt with eventManager := written } }

theorem setDtcStore {store laterStore : DtcStore cfg}
    (written : laterStore = store.shift offset) :
    World.Later offset { w with rt := { w.rt with dtcStore := store } }
      { later with rt := { later.rt with dtcStore := laterStore } } :=
  { shifted with rt := { shifted.rt with dtcStore := written } }

theorem offerService (serviceId ttlSeconds : UInt16) (nowMs : UInt32) :
    ReturnsLater offset (w.offerService serviceId ttlSeconds nowMs)
      (later.offerService serviceId ttlSeconds (nowMs + offset)) := by
  rw [World.offerService, World.offerService, shifted.rt.dispatcher]
  cases w.rt.dispatcher.find serviceId with
  | none => exact ⟨rfl, shifted⟩
  | some entry =>
      obtain ⟨same, written⟩ := shifted.rt.sd.offer serviceId entry.majorVersion
        entry.minorVersion ttlSeconds nowMs
      exact ⟨same, shifted.setSd written⟩

theorem registerEventHandler (serviceId eventId : UInt16) (context : Nat) :
    ReturnsLater offset (w.registerEventHandler serviceId eventId context)
      (later.registerEventHandler serviceId eventId context) := by
  rw [World.registerEventHandler, World.registerEventHandler, shifted.rt.eventHandlers]
  cases Table.upsert (handlesEvent serviceId eventId)
      (fun _ => { serviceId, eventId, context }) { serviceId, eventId, context }
      (cfg.maxKnownServices * cfg.maxEvents) w.rt.eventHandlers with
  | none => exact ⟨rfl, shifted⟩
  | some eventHandlers =>
      exact ⟨rfl, { shifted with rt := { shifted.rt with eventHandlers := rfl } }⟩

theorem subscribeEvent (serviceId eventId : UInt16) (context : Nat) (ttlSeconds : UInt16)
    (nowMs : UInt32) :
    ReturnsLater offset (w.subscribeEvent serviceId eventId context ttlSeconds nowMs)
      (later.subscribeEvent serviceId eventId context ttlSeconds (nowMs + offset)) := by
  obtain ⟨ok, first, second, left, right, registered⟩ :=
    (shifted.registerEventHandler serviceId eventId context).elim
  rw [World.subscribeEvent, World.subscribeEvent, left, right]
  cases ok with
  | false => exact ⟨rfl, registered⟩
  | true =>
      obtain ⟨same, written⟩ := registered.rt.sd.subscribeEvent serviceId eventId ttlSeconds
        nowMs
      exact ⟨same, registered.setSd written⟩

theorem unsubscribeEvent (serviceId eventId : UInt16) :
    ReturnsLater offset (w.unsubscribeEvent serviceId eventId)
      (later.unsubscribeEvent serviceId eventId) := by
  have unregistered : World.Later offset (w.unregisterEventHandler serviceId eventId)
      (later.unregisterEventHandler serviceId eventId) := by
    rw [unregisterEventHandler, unregisterEventHandler, shifted.rt.eventHandlers]
    exact { shifted with rt := { shifted.rt with eventHandlers := rfl } }
  obtain ⟨same, written⟩ := unregistered.rt.sd.unsubscribeEvent serviceId eventId
  exact ⟨same, unregistered.setSd written⟩

theorem enableDiagnostics (nowMs : UInt32) (authRequired : Bool) :
    ReturnsLater offset (w.enableDiagnostics nowMs authRequired)
      (later.enableDiagnostics (nowMs + offset) authRequired) := by
  rw [World.enableDiagnostics, World.enableDiagnostics, shifted.rt.diagEnabled]
  split
  · exact ⟨rfl, shifted⟩
  · rw [shifted.rt.clientId]
    dsimp only
    have wired : World.Later offset
        { w with rt := { w.rt with
          diagService := { wired := true, clientId := w.rt.clientId } } }
        { later with rt := { later.rt with
          diagService := { wired := true, clientId := w.rt.clientId } } } :=
      { shifted with rt := { shifted.rt with diagService := rfl } }
    let entry : ServiceEntry := {
      serviceId := diagServiceId
      majorVersion := 1
      minorVersion := 0
      authRequired
      context := .diagnostics }
    have registers := @registerService _ _ _ _ _ wired entry fun _ => rfl
    obtain ⟨ok, first, second, left, right, registered⟩ := registers.elim
    rw [left, right]
    cases ok with
    | false => exact ⟨rfl, registered⟩
    | true =>
        obtain ⟨ok, first, second, left, right, offered⟩ :=
          (registered.offerService diagServiceId cfg.offerTtlSeconds nowMs).elim
        dsimp only
        rw [left, right]
        cases ok with
        | false => exact ⟨rfl, (offered.unregisterService diagServiceId).world⟩
        | true =>
            exact ⟨rfl, { offered with rt := { offered.rt with diagEnabled := rfl } }⟩

theorem reportDtc (code : UInt16) (severity : DtcSeverity) (nowMs : UInt32) :
    ReturnsLater offset (w.reportDtc code severity nowMs)
      (later.reportDtc code severity (nowMs + offset)) := by
  rw [World.reportDtc, World.reportDtc]
  split
  · exact ⟨rfl, shifted⟩
  · rw [shifted.rt.dtcStore, DtcStore.report_shift]
    exact ⟨rfl, (shifted.setDtcStore rfl).countRefusal _⟩

end World.Later

/-! ## Messages -/

/-- The call has a frame built around a payload that is not there. -/
def ApiCall.ShowsBuffer (w : World cfg) : ApiCall cfg → Prop
  | .request target serviceId _ payload _ _ _ =>
      payload.Missing cfg ∧ (target.or (w.rt.sd.getProviderAddress serviceId)).isSome ∧
        w.rt.requestTracker.firstFree.isSome
  | .fireAndForget serviceId _ payload =>
      payload.Missing cfg ∧ (w.rt.sd.getProviderAddress serviceId).isSome
  | .notifyEvent serviceId eventId payload =>
      payload.Missing cfg ∧ w.rt.eventManager.hasSubscribers serviceId eventId = true
  | _ => False

theorem World.makeRequestHeader_congr {rt later : Runtime cfg}
    (same : later.clientId = rt.clientId) (serviceId methodId : UInt16) (payloadLength : Nat)
    (requestId : UInt32) (auth : Bool) :
    makeRequestHeader later serviceId methodId payloadLength requestId auth =
      makeRequestHeader rt serviceId methodId payloadLength requestId auth := by
  rw [makeRequestHeader, makeRequestHeader, same]

namespace World.Later

variable {env laterEnv : Env cfg} (replays : Env.Replays offset env laterEnv)
variable {w later : World cfg} (shifted : World.Later offset w later)
include replays shifted

/-- A payload that is there is sent in the same frame. -/
theorem transmitPayload (kind : SendKind) (dest : Address n) (hdr : MessageHeader)
    {payload : Payload} (given : ¬payload.Missing cfg) (auth : Bool) :
    ReturnsLater offset (w.transmit env kind dest hdr payload.data payload.length auth)
      (later.transmit laterEnv kind dest hdr payload.data payload.length auth) := by
  apply shifted.transmit replays
  intro sequenceCounter
  rw [builtFrame_payload shifted.rt.authenticator given]
  exact .same _

omit replays in
theorem shouldAuthOutgoing (peer : Address n) :
    later.rt.shouldAuthOutgoing peer = w.rt.shouldAuthOutgoing peer :=
  shouldAuthOutgoing_congr shifted.rt.authenticator peer

theorem submit (handle : Nat) (target : Address n) (serviceId methodId : UInt16)
    {payload : Payload}
    (given : w.rt.requestTracker.firstFree.isSome → ¬payload.Missing cfg)
    (hasCallback : Bool) (timeoutMs nowMs : UInt32) :
    ReturnsLater offset
      (w.submit env handle target serviceId methodId payload hasCallback timeoutMs nowMs)
      (later.submit laterEnv handle target serviceId methodId payload hasCallback timeoutMs
        (nowMs + offset)) := by
  rw [World.submit, World.submit, shifted.rt.requestTracker, RequestTracker.allocate_shift]
  cases allocated : w.rt.requestTracker.allocate serviceId methodId timeoutMs nowMs
      (if hasCallback then some handle else none) with
  | none => exact ⟨rfl, shifted⟩
  | some outcome =>
      obtain ⟨requestId, requestTracker⟩ := outcome
      have free : w.rt.requestTracker.firstFree.isSome := by
        rw [RequestTracker.allocate] at allocated
        cases found : w.rt.requestTracker.firstFree with
        | none =>
            rw [found] at allocated
            cases allocated
        | some slot => rfl
      have stored : World.Later offset
          { w with rt := { w.rt with requestTracker } }
          { later with rt := { later.rt with
            requestTracker := requestTracker.shift offset } } :=
        { shifted with rt := { shifted.rt with requestTracker := rfl } }
      have issued := stored.emitSame
        (.issued handle requestId target serviceId methodId payload hasCallback)
      dsimp only [Option.map_some, Prod.map_apply, id_eq]
      rw [issued.shouldAuthOutgoing target, makeRequestHeader_congr issued.rt.clientId]
      obtain ⟨ok, first, second, left, right, sent⟩ :=
        (issued.transmitPayload replays (.request handle) target _ (given free) _).elim
      rw [left, right]
      exact ⟨rfl, sent⟩

/-- A request the transport refuses is completed on both clocks. -/
theorem requestImpl (handle : Nat) (target : Address n) (serviceId methodId : UInt16)
    {payload : Payload}
    (given : w.rt.requestTracker.firstFree.isSome → ¬payload.Missing cfg)
    (hasCallback : Bool) (timeoutMs nowMs : UInt32) :
    ReturnsLater offset
      (w.requestImpl env (World.react env) handle target serviceId methodId payload
        hasCallback timeoutMs nowMs)
      (later.requestImpl laterEnv (World.react laterEnv) handle target serviceId methodId
        payload hasCallback timeoutMs (nowMs + offset)) := by
  obtain ⟨outcome, first, second, left, right, submitted⟩ :=
    (shifted.submit replays handle target serviceId methodId given hasCallback timeoutMs
      nowMs).elim
  rw [World.requestImpl, World.requestImpl, left, right]
  cases outcome with
  | none => exact ⟨rfl, submitted⟩
  | some sent =>
      obtain ⟨requestId, ok⟩ := sent
      cases ok with
      | true => exact ⟨rfl, submitted⟩
      | false =>
          have completed := submitted.complete replays .sendFailed requestId .eNotOk []
          exact ⟨rfl, completed.increment .droppedMessages none⟩

theorem request (handle : Nat) (target : Option (Address n)) (serviceId methodId : UInt16)
    {payload : Payload}
    (given : (target.or (w.rt.sd.getProviderAddress serviceId)).isSome →
      w.rt.requestTracker.firstFree.isSome → ¬payload.Missing cfg)
    (hasCallback : Bool) (timeoutMs nowMs : UInt32) :
    ReturnsLater offset
      (w.request env (World.react env) handle target serviceId methodId payload hasCallback
        timeoutMs nowMs)
      (later.request laterEnv (World.react laterEnv) handle target serviceId methodId payload
        hasCallback timeoutMs (nowMs + offset)) := by
  rw [World.request, World.request, shifted.rt.sd.getProviderAddress]
  cases known : target.or (w.rt.sd.getProviderAddress serviceId) with
  | none => exact ⟨rfl, shifted⟩
  | some provider =>
      have present : (target.or (w.rt.sd.getProviderAddress serviceId)).isSome := by
        rw [known]
        rfl
      exact shifted.requestImpl replays handle provider serviceId methodId (given present)
        hasCallback timeoutMs nowMs

theorem fireAndForget (serviceId methodId : UInt16) {payload : Payload}
    (given : (w.rt.sd.getProviderAddress serviceId).isSome → ¬payload.Missing cfg) :
    ReturnsLater offset (w.fireAndForget env serviceId methodId payload)
      (later.fireAndForget laterEnv serviceId methodId payload) := by
  rw [World.fireAndForget, World.fireAndForget, shifted.rt.sd.getProviderAddress]
  cases known : w.rt.sd.getProviderAddress serviceId with
  | none => exact ⟨rfl, shifted⟩
  | some provider =>
      rw [known] at given
      dsimp only
      rw [shifted.shouldAuthOutgoing, shifted.rt.clientId]
      obtain ⟨ok, first, second, left, right, sent⟩ :=
        (shifted.transmitPayload replays .fireAndForget provider _ (given rfl) _).elim
      rw [left, right]
      exact ⟨rfl, sent.countRefusal ok⟩

theorem notifyOne (serviceId eventId : UInt16) {payload : Payload}
    (given : ¬payload.Missing cfg) (dest : Address n) :
    World.Later offset (World.notifyOne env serviceId eventId payload w dest)
      (World.notifyOne laterEnv serviceId eventId payload later dest) := by
  rw [World.notifyOne, World.notifyOne]
  dsimp only
  rw [shifted.shouldAuthOutgoing]
  obtain ⟨ok, first, second, left, right, sent⟩ :=
    (shifted.transmitPayload replays .notification dest _ given _).elim
  rw [left, right]
  exact sent.countRefusal ok

theorem notifyEvent (serviceId eventId : UInt16) {payload : Payload}
    (given : w.rt.eventManager.hasSubscribers serviceId eventId = true →
      ¬payload.Missing cfg) :
    ReturnsLater offset (w.notifyEvent env serviceId eventId payload)
      (later.notifyEvent laterEnv serviceId eventId payload) := by
  rw [World.notifyEvent, World.notifyEvent, shifted.rt.eventManager,
    EventManager.hasSubscribers_shift, EventManager.notify_shift]
  split
  · next subscribed =>
      refine ⟨rfl, shifted.foldlSame ?_ _⟩
      intro first second worlds dest
      exact worlds.notifyOne replays serviceId eventId (given subscribed) dest
  · exact ⟨rfl, shifted⟩

/-! ## All calls -/

theorem apiCall {call : ApiCall cfg} (covered : ¬call.ShowsBuffer w) :
    ReturnsLater offset (w.apiCall env (World.react env) call)
      (later.apiCall laterEnv (World.react laterEnv) (call.shift offset)) := by
  cases call with
  | setLocalAddress addr =>
      have moved : World.Later offset
          { w with rt := { w.rt with
            localAddr := addr, sd := { w.rt.sd with localAddr := addr } } }
          { later with rt := { later.rt with
            localAddr := addr, sd := { later.rt.sd with localAddr := addr } } } :=
        { shifted with rt := { shifted.rt with
          localAddr := rfl, sd := { shifted.rt.sd with localAddr := rfl } } }
      exact ⟨rfl, moved⟩
  | registerService serviceId context majorVersion minorVersion authRequired =>
      have registered := @registerService _ _ _ _ _ shifted {
        serviceId, majorVersion, minorVersion, authRequired
        context := .application context } nofun
      exact registered.map ApiResult.bool
  | unregisterService serviceId => exact (shifted.unregisterService serviceId).map ApiResult.bool
  | registerEvent serviceId eventId =>
      have registered := EventManager.registerEvent_shift offset w.rt.eventManager serviceId
        eventId
      rw [← shifted.rt.eventManager] at registered
      have same : (later.rt.eventManager.registerEvent serviceId eventId).1 =
          (w.rt.eventManager.registerEvent serviceId eventId).1 := by
        rw [registered]
        rfl
      exact ⟨congrArg ApiResult.bool same,
        shifted.setEventManager (congrArg Prod.snd registered)⟩
  | offerService serviceId ttlSeconds nowMs =>
      exact (shifted.offerService serviceId ttlSeconds nowMs).map ApiResult.bool
  | stopOffer serviceId => exact ⟨rfl, shifted.setSd (shifted.rt.sd.stopOffer serviceId)⟩
  | findService serviceId majorVersion nowMs =>
      obtain ⟨same, written⟩ := shifted.rt.sd.find serviceId majorVersion nowMs
      exact ⟨congrArg ApiResult.bool same, shifted.setSd written⟩
  | setSdCallbacks callbacks =>
      exact ⟨rfl, shifted.setSd { shifted.rt.sd with callbacks := rfl }⟩
  | request target serviceId methodId payload hasCallback timeoutMs nowMs =>
      have requested := shifted.request replays w.history.length target serviceId methodId
        (fun known free missing => covered ⟨missing, known, free⟩) hasCallback timeoutMs nowMs
      have handles := requested.map (ApiResult.request w.history.length)
      rw [ApiCall.shift, World.apiCall, World.apiCall, ← shifted.history.length_eq]
      exact handles
  | fireAndForget serviceId methodId payload =>
      have sent := shifted.fireAndForget replays serviceId methodId
        fun known missing => covered ⟨missing, known⟩
      exact sent.map ApiResult.bool
  | subscribeEvent serviceId eventId context ttlSeconds nowMs =>
      exact (shifted.subscribeEvent serviceId eventId context ttlSeconds nowMs).map ApiResult.bool
  | unsubscribeEvent serviceId eventId =>
      exact (shifted.unsubscribeEvent serviceId eventId).map ApiResult.bool
  | notifyEvent serviceId eventId payload =>
      have notified := shifted.notifyEvent replays serviceId eventId
        fun subscribed missing => covered ⟨missing, subscribed⟩
      exact notified.map ApiResult.bool
  | setHmacKey peer key =>
      have same : later.rt.authenticator.setKey peer key = w.rt.authenticator.setKey peer key :=
        congrArg (fun keys => keys.setKey peer key) shifted.rt.authenticator
      have world : World.Later offset
          { w with rt := { w.rt with
            authenticator := (w.rt.authenticator.setKey peer key).2 } }
          { later with rt := { later.rt with
            authenticator := (later.rt.authenticator.setKey peer key).2 } } :=
        { shifted with rt := { shifted.rt with authenticator := congrArg Prod.snd same } }
      have stored := congrArg Prod.fst same
      exact ⟨congrArg ApiResult.bool stored, world⟩
  | setDiagnosticCallback isSet =>
      have world : World.Later offset
          { w with rt := { w.rt with diag := { w.rt.diag with callback := isSet } } }
          { later with rt := { later.rt with
            diag := { later.rt.diag with callback := isSet } } } :=
        { shifted with rt := { shifted.rt with
          diag := congrArg (fun diag => { diag with callback := isSet }) shifted.rt.diag } }
      exact ⟨rfl, world⟩
  | enableDiagnostics nowMs authRequired =>
      exact (shifted.enableDiagnostics nowMs authRequired).map ApiResult.bool
  | reportDtc code severity nowMs =>
      exact (shifted.reportDtc code severity nowMs).map ApiResult.bool
  | clearDtc code =>
      have cleared := DtcStore.clear_shift offset w.rt.dtcStore code
      rw [← shifted.rt.dtcStore] at cleared
      have same : (later.rt.dtcStore.clear code).1 = (w.rt.dtcStore.clear code).1 := by
        rw [cleared]
        rfl
      exact ⟨congrArg ApiResult.bool same, shifted.setDtcStore (congrArg Prod.snd cleared)⟩
  | clearAllDtcs => exact ⟨rfl, shifted.setDtcStore rfl⟩

/-- Both clocks observe the same result. -/
theorem perform {call : ApiCall cfg} (covered : ¬call.ShowsBuffer w) :
    World.Later offset (w.perform env (World.react env) call)
      (later.perform laterEnv (World.react laterEnv) (call.shift offset)) := by
  obtain ⟨result, first, second, left, right, returned⟩ :=
    (shifted.apiCall replays covered).elim
  rw [World.perform, World.perform, left, right]
  exact returned.emit (.returned call result)

end World.Later

end Sero
