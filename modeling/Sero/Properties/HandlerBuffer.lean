import Sero.Runtime.Decomposition

/-!
# The response buffer of a handler

A handler is entered for requests and for requests without return.  It does not learn
which of the two it answers, so it may write an answer either way; whether it writes
into memory of the runtime depends on the buffer it was given.
-/

namespace Sero

open Library

variable {n : Nat} {cfg : Config n} {env : Env cfg}

/-- Handlers write nothing behind a response buffer of `MaxPayloadSize` bytes. -/
def Env.WritesInside (env : Env cfg) : Prop :=
  ∀ history context methodId payload,
    (env.onRequest history context methodId payload).writes.Inside cfg.maxPayloadSize

namespace World

/-- What an entry of a handler must satisfy, if handling a message begins with one. -/
def HandlerEntry (w after : World cfg) (methodId : UInt16) (payload : Bytes)
    (keeps : ServiceEntry → Option Nat → Prop) : Prop :=
  ∀ entry keys capacity,
    (.onRequest entry keys methodId payload capacity :: w.history) <:+ after.history →
      keeps entry capacity

/-- The bytes a handler writes stay inside the buffer it was given; without a buffer
there is no place to write to. -/
def StaysInside (env : Env cfg) (w : World cfg) (methodId : UInt16) (payload : Bytes)
    (entry : ServiceEntry) (capacity : Option Nat) : Prop :=
  (w.callHandler env entry methodId payload capacity).1.writes.Inside (capacity.getD 0)

/-- The contract of both request paths: a buffer of `MaxPayloadSize` bytes, and writes
inside of it only. -/
def BufferContract (env : Env cfg) (w after : World cfg) (methodId : UInt16)
    (payload : Bytes) : Prop :=
  HandlerEntry w after methodId payload fun entry capacity =>
    capacity = some cfg.maxPayloadSize ∧ StaysInside env w methodId payload entry capacity

/-- The handler the message is for, if it is ready. -/
def ReadyHandler (env : Env cfg) (w : World cfg) (serviceId : UInt16)
    (entry : ServiceEntry) : Prop :=
  w.rt.dispatcher.find serviceId = some entry ∧ w.isReady env entry.context = true

theorem staysInside_of_writesInside (inside : env.WritesInside) (w : World cfg)
    (methodId : UInt16) (payload : Bytes) (entry : ServiceEntry) :
    StaysInside env w methodId payload entry (some cfg.maxPayloadSize) := by
  simp only [StaysInside, callHandler, Option.getD_some]
  cases entry.context with
  | application context => exact inside _ _ _ _
  | diagnostics => exact Writes.inside_start (DiagnosticsService.onRequest_written_le ..)

/-- Entering a handler is observed before anything its body does. -/
theorem callHandler_suffix (entry : ServiceEntry) (methodId : UInt16) (payload : Bytes)
    (capacity : Option Nat) (w : World cfg) :
    (.onRequest entry w.rt.authenticator methodId payload capacity :: w.history) <:+
      (w.callHandler env entry methodId payload capacity).2.history := by
  let entered := w.emit (.onRequest entry w.rt.authenticator methodId payload capacity)
  simp only [callHandler]
  cases entry.context with
  | application context => exact Steps.suffix (@Script.run_steps _ _ env _ entered).steps
  | diagnostics => exact List.suffix_refl _

/-- Only the entry that was observed first is an entry of the message. -/
theorem handlerEntry_of_first {w after : World cfg} {event : Event cfg} {methodId : UInt16}
    {payload : Bytes} {keeps : ServiceEntry → Option Nat → Prop}
    (first : (event :: w.history) <:+ after.history)
    (kept : ∀ entry keys capacity,
      event = .onRequest entry keys methodId payload capacity → keeps entry capacity) :
    HandlerEntry w after methodId payload keeps := by
  intro entry keys capacity entered
  have same := Runs.suffix_unique first entered rfl
  exact kept entry keys capacity (List.cons.inj same).1

/-! ## Requests -/

theorem sendReply_first (source : Address n) (hdr : MessageHeader) (payload : Bytes)
    (rc : ReturnCode) (responseLength : Nat) (w : World cfg) :
    ∃ response, (.executed source hdr.requestId hdr.serviceId hdr.methodEventId payload rc
        response :: w.history) <:+
      (w.sendReply env source hdr payload rc responseLength).history := by
  obtain ⟨after, ok, equal, -, history⟩ :=
    sendReply_spec env source hdr payload rc responseLength w
  refine ⟨responseOf w.rt rc responseLength, ?_⟩
  rw [equal]
  apply List.IsSuffix.trans _ (countRefusal_suffix ok after)
  rw [history]
  exact List.suffix_cons _ _

/-- Requests keep the contract. -/
theorem handleRequest_bufferContract (inside : env.WritesInside) (source : Address n)
    (hdr : MessageHeader) (payload : Bytes) (w : World cfg) :
    BufferContract env w (w.handleRequest env source hdr payload) hdr.methodEventId payload := by
  rw [BufferContract, handleRequest, dispatch]
  cases found : w.rt.dispatcher.find hdr.serviceId with
  | none =>
      obtain ⟨response, first⟩ := @sendReply_first _ _ env source hdr payload
        .eUnknownService cfg.maxPayloadSize w
      refine handlerEntry_of_first first ?_
      rintro _ _ _ ⟨⟩
  | some entry =>
      dsimp only
      split
      · have entered := @callHandler_suffix _ _ env entry hdr.methodEventId payload
          (some cfg.maxPayloadSize) w
        rcases called : w.callHandler env entry hdr.methodEventId payload
          (some cfg.maxPayloadSize) with ⟨result, after⟩
        rw [called] at entered
        obtain ⟨response, replied⟩ := @sendReply_first _ _ env source hdr payload result.code
          result.responseLength { after with rt := { after.rt with
            responseBuffer := after.rt.responseBuffer.writeAll result.writes } }
        have first := entered.trans ((List.suffix_cons _ _).trans replied)
        refine handlerEntry_of_first first ?_
        rintro _ _ _ ⟨⟩
        exact ⟨rfl, staysInside_of_writesInside inside w _ _ entry⟩
      · obtain ⟨response, first⟩ := @sendReply_first _ _ env source hdr payload
          .eNotReady cfg.maxPayloadSize w
        refine handlerEntry_of_first first ?_
        rintro _ _ _ ⟨⟩

/-! ## Requests without return -/

/-- A request without return enters the ready handler it is for, without a buffer. -/
theorem handleFireAndForget_entry (hdr : MessageHeader) (payload : Bytes) (w : World cfg)
    (keeps : ServiceEntry → Option Nat → Prop) :
    HandlerEntry w (w.handleFireAndForget env hdr payload) hdr.methodEventId payload keeps ↔
      ∀ entry, ReadyHandler env w hdr.serviceId entry → keeps entry none := by
  rw [handleFireAndForget]
  cases found : w.rt.dispatcher.find hdr.serviceId with
  | none =>
      constructor
      · intro _ entry ready
        cases found.symm.trans ready.1
      · intro _ entry keys capacity entered
        obtain ⟨events, history, counted⟩ : ∃ events : History cfg,
            (w.increment .droppedMessages none).history = events ++ w.history ∧
              ∀ event ∈ events, event = .diagnostic .droppedMessages none := by
          rw [increment]
          split
          · exact ⟨[_], rfl, by simp⟩
          · exact ⟨[], rfl, by simp⟩
        dsimp only at entered
        rw [history] at entered
        have absent : Event.onRequest entry keys hdr.methodEventId payload capacity ∉ events := by
          intro member
          cases counted _ member
        have within := Runs.suffix_of_notMem entered absent
        exact absurd within.length_le (by simp)
  | some entry =>
      dsimp only
      split
      · next ready =>
          have first := @callHandler_suffix _ _ env entry hdr.methodEventId payload none w
          constructor
          · intro contract other otherReady
            cases found.symm.trans otherReady.1
            exact contract _ _ _ first
          · intro kept
            refine handlerEntry_of_first first ?_
            rintro _ _ _ ⟨⟩
            exact kept entry ⟨found, ready⟩
      · next notReady =>
          constructor
          · intro _ other otherReady
            cases found.symm.trans otherReady.1
            exact absurd otherReady.2 notReady
          · intro _ entry keys capacity entered
            exact absurd entered.length_le (by simp)

/-- Requests keep the contract.  Requests without return keep it only if no handler is
entered, and write inside memory of the runtime only if the handler writes nothing. -/
theorem handler_buffer_iff (inside : env.WritesInside) (source : Address n)
    (hdr : MessageHeader) (payload : Bytes) (w : World cfg) :
    BufferContract env w (w.handleRequest env source hdr payload) hdr.methodEventId payload ∧
    (BufferContract env w (w.handleFireAndForget env hdr payload) hdr.methodEventId payload ↔
      ∀ entry, ¬ReadyHandler env w hdr.serviceId entry) ∧
    (HandlerEntry w (w.handleFireAndForget env hdr payload) hdr.methodEventId payload
        (StaysInside env w hdr.methodEventId payload) ↔
      ∀ entry, ReadyHandler env w hdr.serviceId entry →
        ∀ index,
          ¬(w.callHandler env entry hdr.methodEventId payload none).1.writes.Covers index) := by
  refine ⟨handleRequest_bufferContract inside source hdr payload w, ?_, ?_⟩
  · rw [BufferContract, handleFireAndForget_entry]
    constructor
    · intro kept entry ready
      cases (kept entry ready).1
    · intro never entry ready
      exact absurd ready (never entry)
  · rw [handleFireAndForget_entry]
    simp only [StaysInside, Option.getD_none, Writes.Inside, Nat.not_lt_zero, imp_false]

/-! A service that answers every request with a word. -/

def answeringEnv : Env embeddedConfig where
  sendOk _ _ _ := true
  broadcastOk _ _ := true
  isReady _ _ := true
  onRequest _ _ _ _ := { code := .eOk, writes := [(0, [0, 0, 0, 7])], responseLength := 4 }
  react _ := .done

theorem answeringEnv_writesInside : answeringEnv.WritesInside := by
  intro history context methodId payload
  exact Writes.inside_start (by decide : 4 ≤ 256)

def answeringDevice : World embeddedConfig :=
  run answeringEnv [.api (.registerService 0x1000 0 1 0 false)] (initial _ 1)

/-- A request for the method, or a request without return. -/
def wordRequest (type : MessageType) : MessageHeader where
  messageType := type.toByte
  serviceId := 0x1000
  methodEventId := 1
  clientId := 7
  requestId := if type = .request then 1 else 0

theorem handler_buffer_unknown :
    BufferContract answeringEnv (initial _ 1)
      ((initial _ 1).handleFireAndForget answeringEnv (wordRequest .requestNoReturn) [])
      (wordRequest .requestNoReturn).methodEventId [] := by
  have contract := (handler_buffer_iff answeringEnv_writesInside (Address.zero 8)
    (wordRequest .requestNoReturn) [] (initial _ 1)).2.1
  apply contract.mpr
  intro entry ready
  cases ready.1

/-- The datagram of a request without return passes validation, and the handler writes
its word to a null pointer. -/
theorem handler_buffer_null :
    let hdr := wordRequest .requestNoReturn
    let data := messageFrame hdr [] []
    let arrived := (answeringDevice.validate (Address.zero 8) data).2
    Reachable answeringEnv answeringDevice ∧ answeringEnv.WritesInside ∧
      (answeringDevice.validate (Address.zero 8) data).1 = some hdr ∧
      ¬BufferContract answeringEnv arrived (arrived.handleFireAndForget answeringEnv hdr [])
        hdr.methodEventId [] ∧
      ¬HandlerEntry arrived (arrived.handleFireAndForget answeringEnv hdr []) hdr.methodEventId
        [] (StaysInside answeringEnv arrived hdr.methodEventId []) := by
  intro hdr data arrived
  have found : arrived.rt.dispatcher.find 0x1000 = some {
      serviceId := 0x1000, majorVersion := 1, minorVersion := 0, authRequired := false
      context := .application 0 } := by decide +kernel
  have ready := fun keeps => (@handleFireAndForget_entry _ _ answeringEnv hdr [] arrived
    keeps).mp
  refine ⟨⟨1, _, rfl⟩, answeringEnv_writesInside, by decide +kernel, ?_, ?_⟩
  · intro contract
    cases (ready _ contract _ ⟨found, rfl⟩).1
  · intro stays
    exact Nat.not_lt_zero 0 (ready _ stays _ ⟨found, rfl⟩ 0 (by decide))

end World

end Sero
