import Sero.Library.Network
import Sero.Properties.HandlerBuffer
import Sero.Properties.ReplyMatching
import Sero.Properties.RequestFrames
import Sero.Properties.SequenceTracking
import Sero.Runtime.Arrivals

/-!
# Agreement between client and provider

Whatever the network drops, delays, repeats or reorders, a reply that reaches a callback
comes from an execution of the very request the callback belongs to.  The reply names the
request by its id alone, so this rests on ids not being used twice.
-/

namespace Sero

open Library

variable {n : Nat} {cfg : Config n} {env : Env cfg}

/-! ## Request ids -/

/-- The ids of the requests that have been issued, newest first. -/
def issuedIds (history : History cfg) : List UInt32 :=
  history.filterMap fun
    | .issued _ requestId _ _ _ _ _ => some requestId
    | _ => none

theorem mem_issuedIds {requestId : UInt32} {history : History cfg} {handle : Nat}
    {target : Address n} {serviceId methodId : UInt16} {payload : Payload} {hasCallback : Bool}
    (issued : .issued handle requestId target serviceId methodId payload hasCallback ∈ history) :
    requestId ∈ issuedIds history :=
  List.mem_filterMap.mpr ⟨_, issued, rfl⟩

/-- As long as they do not wrap, ids are given out in order. -/
structure IdsInOrder (w : World cfg) : Prop where
  ids : (issuedIds w.history).length < UInt32.size →
    issuedIds w.history =
      (List.range (issuedIds w.history).length).reverse.map fun count => UInt32.ofNat (count + 1)
  next : (issuedIds w.history).length < UInt32.size →
    w.rt.requestTracker.nextRequestId = UInt32.ofNat ((issuedIds w.history).length + 1)

theorem ofNat_succ_inj {left right : Nat} (leftSmall : left + 1 < UInt32.size)
    (rightSmall : right + 1 < UInt32.size)
    (same : UInt32.ofNat (left + 1) = UInt32.ofNat (right + 1)) : left = right := by
  have values := congrArg UInt32.toNat same
  rw [UInt32.toNat_ofNat_of_lt' leftSmall, UInt32.toNat_ofNat_of_lt' rightSmall] at values
  exact Nat.succ_inj.mp values

namespace IdsInOrder

theorem initial (clientId : UInt16) : IdsInOrder (World.initial cfg clientId) where
  ids := fun _ => rfl
  next := fun _ => rfl

variable {before : World cfg}

/-- The next id is not in use, so allocation does not have to look for another. -/
theorem allocated_id (ordered : IdsInOrder before)
    (pending : PendingIssued before.rt.requestTracker before.history)
    (small : (issuedIds before.history).length + 1 < UInt32.size) (attempts : Nat) :
    before.rt.requestTracker.probeId attempts before.rt.requestTracker.nextRequestId =
      UInt32.ofNat ((issuedIds before.history).length + 1) := by
  have fewer := Nat.lt_of_succ_lt small
  have unused : before.rt.requestTracker.idInUse before.rt.requestTracker.nextRequestId =
      false := by
    rw [← Bool.not_eq_true, RequestTracker.idInUse_iff, ordered.next fewer]
    rintro ⟨slot, active, same⟩
    obtain ⟨_, _, _, _, _, _, issued, -⟩ := pending slot active
    have member := mem_issuedIds issued
    rw [ordered.ids fewer] at member
    obtain ⟨count, within, equal⟩ := List.mem_map.mp member
    rw [List.mem_reverse, List.mem_range] at within
    have collides := ofNat_succ_inj (Nat.lt_of_le_of_lt within fewer) small
      (equal.trans same)
    exact absurd within (by rw [collides]; exact Nat.lt_irrefl _)
  cases attempts with
  | zero => exact ordered.next fewer
  | succ attempts =>
      rw [RequestTracker.probeId, unused]
      exact ordered.next fewer

theorem submit (ordered : IdsInOrder before)
    (pending : PendingIssued before.rt.requestTracker before.history) {handle : Nat}
    (target : Address n) (serviceId methodId : UInt16) (payload : Payload)
    (hasCallback : Bool) (timeoutMs nowMs : UInt32) :
    IdsInOrder (before.submit env handle target serviceId methodId payload hasCallback timeoutMs
      nowMs).2 := by
  rcases @World.submit_spec _ _ env handle target serviceId methodId payload hasCallback
      timeoutMs nowMs before with
    ⟨-, none⟩ | ⟨requestId, tracker, ok, allocated, -, filled, -, rt, auth, observed⟩
  · rw [none]
    exact ordered
  · obtain ⟨probed, free, entry, -, -, -, -, -, -, rfl⟩ := RequestTracker.allocate_spec allocated
    have ids : issuedIds (before.submit env handle target serviceId methodId payload hasCallback
        timeoutMs nowMs).2.history = requestId :: issuedIds before.history := by
      rw [observed]
      rfl
    have given : (issuedIds before.history).length + 1 < UInt32.size →
        requestId = UInt32.ofNat ((issuedIds before.history).length + 1) :=
      fun small => probed.trans (ordered.allocated_id pending small _)
    constructor
    · rw [ids, List.length_cons]
      intro small
      rw [List.range_succ, List.reverse_concat, List.map_cons, ← given small]
      exact congrArg _ (ordered.ids (Nat.lt_of_succ_lt small))
    · rw [ids, filled, List.length_cons]
      intro small
      dsimp only
      rw [given small]
      exact (UInt32.ofNat_add _ 1).symm

theorem step {kind : StepKind} {after : World cfg} (ordered : IdsInOrder before)
    (pending : PendingIssued before.rt.requestTracker before.history)
    (step : Atomic env kind before after) : IdsInOrder after := by
  have table := step.frame.requestTracker
  have issued : kind ≠ .submit → issuedIds after.history = issuedIds before.history := by
    intro other
    apply step.observes.filterMap
    rintro event (own | quiet) <;> cases event <;> simp_all [Event.kind]
  cases step with
  | submit => exact ordered.submit pending ..
  | finish =>
      constructor
      · rw [issued (by simp)]
        exact ordered.ids
      · rw [issued (by simp), World.finish_requestTracker]
        exact ordered.next
  | _ =>
      constructor
      · rw [issued (by simp)]
        exact ordered.ids
      · rw [issued (by simp), table (by simp)]
        exact ordered.next

end IdsInOrder

theorem World.Reachable.idsInOrder {w : World cfg} (reachable : World.Reachable env w) :
    IdsInOrder w := by
  have both : RequestsExplained w ∧ IdsInOrder w := by
    apply reachable.invariant fun clientId =>
      ⟨RequestsExplained.initial clientId, IdsInOrder.initial clientId⟩
    intro kind before after known step
    exact ⟨known.1.step step, known.2.step known.1.pending step⟩
  exact both.2

/-- No id is given out twice. -/
theorem IdsInOrder.nodup {w : World cfg} (ordered : IdsInOrder w)
    (few : (issuedIds w.history).length < UInt32.size) : (issuedIds w.history).Nodup := by
  rw [ordered.ids few]
  apply List.Nodup.map_on _ (List.nodup_reverse.mpr List.nodup_range)
  intro left leftIn right rightIn same
  rw [List.mem_reverse, List.mem_range] at leftIn rightIn
  exact ofNat_succ_inj (Nat.lt_of_le_of_lt leftIn few) (Nat.lt_of_le_of_lt rightIn few) same

/-! ## What is on the network -/

/-- The frame an event puts on the network and where it goes, `none` being everyone. -/
def Event.outgoing : Event cfg → Option (Option (Address n) × Bytes)
  | .sent _ dest frame _ => some (some dest, frame)
  | .broadcast frame _ => some (none, frame)
  | _ => none

/-- A frame for this address has left the device, whatever the transport said to it. -/
def World.HasSent (w : World cfg) (dest : Address n) (frame : Bytes) : Prop :=
  (some dest, frame) ∈ w.history.filterMap Event.outgoing ∨
    (none, frame) ∈ w.history.filterMap Event.outgoing

namespace RequestsExplained

variable {w : World cfg} {dest : Address n} {frame : Bytes}

/-- A frame on the network carries a request, or a reply, or is one-way. -/
theorem of_hasSent (tracked : RequestsExplained w) (sent : w.HasSent dest frame) :
    OneWay frame ∨
    (∃ handle requestId serviceId methodId payload hasCallback,
      .issued handle requestId dest serviceId methodId payload hasCallback ∈ w.history ∧
      CarriesRequest requestId serviceId methodId payload frame) ∨
    ∃ requestId serviceId methodId payload rc response,
      .executed dest requestId serviceId methodId payload rc response ∈ w.history ∧
      CarriesReply requestId rc response frame := by
  have discovered : ∀ event : Event cfg, event ∈ w.history →
      ∀ addressee, event.sdFrame = some (addressee, frame) → OneWay frame :=
    fun event occurs addressee isSd =>
      tracked.discovery (addressee, frame) (List.mem_filterMap.mpr ⟨event, occurs, isSd⟩)
  rcases sent with unicast | broadcast
  · obtain ⟨event, occurs, outgoing⟩ := List.mem_filterMap.mp unicast
    obtain ⟨past, suffix⟩ := Runs.exists_suffix occurs
    have explained := tracked.explained event past suffix
    have before := ((List.suffix_cons event past).trans suffix).subset
    cases event with
    | sent kind addressee bytes ok =>
        cases outgoing
        cases kind with
        | sd => exact .inl (discovered _ occurs _ rfl)
        | request handle =>
            obtain ⟨requestId, serviceId, methodId, payload, hasCallback, issued, carries⟩ :=
              explained
            exact .inr (.inl ⟨handle, requestId, serviceId, methodId, payload, hasCallback,
              before issued, carries⟩)
        | fireAndForget | notification => exact .inl explained
        | reply =>
            obtain ⟨requestId, serviceId, methodId, payload, rc, response, executed, carries⟩ :=
              explained
            exact .inr (.inr ⟨requestId, serviceId, methodId, payload, rc, response,
              before executed, carries⟩)
    | _ => cases outgoing
  · obtain ⟨event, occurs, outgoing⟩ := List.mem_filterMap.mp broadcast
    cases event with
    | broadcast bytes ok =>
        cases outgoing
        exact .inl (discovered _ occurs _ rfl)
    | _ => cases outgoing

variable {receiver : Config n} {hdr : MessageHeader}

/-- Who finds a request in a frame finds one that was issued to its address. -/
theorem request_issued (tracked : RequestsExplained w) (sent : w.HasSent dest frame)
    (checked : checkFrame receiver frame = .ok hdr)
    (isRequest : MessageType.ofByte hdr.messageType = some .request) :
    ∃ handle payload hasCallback,
      .issued handle hdr.requestId dest hdr.serviceId hdr.methodEventId payload hasCallback ∈
        w.history ∧
      payload.Denotes (payloadOf hdr frame) := by
  rcases tracked.of_hasSent sent with
    oneWay | ⟨handle, requestId, serviceId, methodId, payload, hasCallback, issued, carries⟩ |
      ⟨_, _, _, _, _, _, _, carries⟩
  · rcases oneWay.checked checked with type | type <;> rw [type] at isRequest <;> cases isRequest
  · obtain ⟨-, rfl, rfl, rfl, denotes⟩ := carries.checked checked
    exact ⟨handle, payload, hasCallback, issued, denotes⟩
  · rcases (carries.checked checked).1 with type | type <;> rw [type] at isRequest <;>
      cases isRequest

/-- Who finds a reply in a frame finds what an execution for its address produced. -/
theorem reply_executed (tracked : RequestsExplained w) (sent : w.HasSent dest frame)
    (checked : checkFrame receiver frame = .ok hdr)
    (isReply : MessageType.ofByte hdr.messageType = some .response ∨
      MessageType.ofByte hdr.messageType = some .error) :
    ∃ serviceId methodId payload,
      .executed dest hdr.requestId serviceId methodId payload ⟨hdr.returnCode⟩
        (payloadOf hdr frame) ∈ w.history := by
  have noReply : ∀ type : MessageType, type ≠ .response → type ≠ .error →
      hdr.messageType ≠ type.toByte := by
    intro type notResponse notError same
    rw [same, MessageType.ofByte_toByte] at isReply
    rcases isReply with response | error
    · exact notResponse (Option.some.inj response)
    · exact notError (Option.some.inj error)
  rcases tracked.of_hasSent sent with
    oneWay | ⟨_, _, _, _, _, _, _, carries⟩ |
      ⟨requestId, serviceId, methodId, payload, rc, response, executed, carries⟩
  · rcases oneWay.checked checked with type | type
    · exact absurd type (noReply .requestNoReturn (by decide) (by decide))
    · exact absurd type (noReply .notification (by decide) (by decide))
  · exact absurd (carries.checked checked).1 (noReply .request (by decide) (by decide))
  · obtain ⟨-, rfl, code, rfl⟩ := carries.checked checked
    rw [code]
    exact ⟨serviceId, methodId, payload, executed⟩

end RequestsExplained

/-! ## Devices on a network -/

/-- A device for every address, each with its own configuration and application.  Any of
them can be client and provider. -/
structure Devices (n : Nat) where
  cfg : Address n → Config n
  env : ∀ addr, Env (cfg addr)
  clientId : Address n → UInt16

namespace Devices

variable (devices : Devices n)

/-- The moves of a device, those apart that bring a datagram; and a datagram it is brought
by the network, under the address of its sender. -/
def parties : Parties (Address n) Bytes fun addr => World (devices.cfg addr) where
  act addr before after :=
    ∃ move, move.delivers = false ∧ after = before.step (devices.env addr) move
  receive addr source data before after :=
    ∃ nowMs, after = before.step (devices.env addr) (.deliver source data nowMs)
  sent _ w dest frame := w.HasSent dest frame

def initial (addr : Address n) : World (devices.cfg addr) :=
  World.initial _ (devices.clientId addr)

/-- What the devices can be in when none has restarted. -/
def Reachable (network : ∀ addr, World (devices.cfg addr)) : Prop :=
  devices.parties.Run devices.initial network

variable {devices} {network : ∀ addr, World (devices.cfg addr)}

/-- One device takes a step. -/
def advance (devices : Devices n) (addr : Address n) (move : Move (devices.cfg addr))
    (network : ∀ addr, World (devices.cfg addr)) : ∀ addr, World (devices.cfg addr) :=
  Function.update network addr ((network addr).step (devices.env addr) move)

theorem Reachable.move (reachable : devices.Reachable network) (addr : Address n)
    (move : Move (devices.cfg addr)) (own : move.delivers = false) :
    devices.Reachable (devices.advance addr move network) :=
  reachable.tail (.act addr ⟨move, own, rfl⟩)

theorem Reachable.deliver (reachable : devices.Reachable network) {source dest : Address n}
    {data : Bytes} (sent : (network source).HasSent dest data) (nowMs : UInt32) :
    devices.Reachable (devices.advance dest (.deliver source data nowMs) network) :=
  reachable.tail (.receive source dest data sent ⟨nowMs, rfl⟩)

theorem Reachable.device (reachable : devices.Reachable network) (addr : Address n) :
    World.Reachable (devices.env addr) (network addr) := by
  refine Parties.Run.invariant reachable
    (fun addr w => World.Reachable (devices.env addr) w) ?_ ?_ ?_ addr
  · rintro addr before after earlier ⟨move, -, rfl⟩
    exact earlier.run [move]
  · rintro addr source data before after earlier ⟨nowMs, rfl⟩
    exact earlier.run [.deliver source data nowMs]
  · intro addr
    exact ⟨_, [], rfl⟩

/-- What a device has observed it never forgets. -/
theorem run_suffix {last : ∀ addr, World (devices.cfg addr)}
    (run : devices.parties.Run network last) (addr : Address n) :
    (network addr).history <:+ (last addr).history := by
  refine Parties.Run.invariant run (fun addr w => (network addr).history <:+ w.history) ?_ ?_
    (fun _ => List.suffix_refl _) addr
  · rintro addr before after earlier ⟨move, -, rfl⟩
    have steps : Steps (devices.env addr) before _ := World.step_steps before move
    exact earlier.trans steps.suffix
  · rintro addr source data before after earlier ⟨nowMs, rfl⟩
    have steps : Steps (devices.env addr) before _ :=
      World.step_steps before (.deliver source data nowMs)
    exact earlier.trans steps.suffix

theorem hasSent_suffix {before after : World cfg} (grown : before.history <:+ after.history)
    {dest : Address n} {frame : Bytes} (sent : before.HasSent dest frame) :
    after.HasSent dest frame := by
  have frames := grown.sublist.filterMap Event.outgoing
  exact sent.imp (frames.subset ·) (frames.subset ·)

theorem hasSent_step {addr dest : Address n} {frame : Bytes} {w : World (devices.cfg addr)}
    (sent : w.HasSent dest frame) (move : Move (devices.cfg addr)) :
    (w.step (devices.env addr) move).HasSent dest frame := by
  have steps : Steps (devices.env addr) w _ := World.step_steps w move
  exact hasSent_suffix steps.suffix sent

theorem remembers : Parties.Remembers devices.parties := by
  constructor
  · rintro addr before after ⟨move, -, rfl⟩ dest frame sent
    exact hasSent_step sent move
  · rintro addr source data before after ⟨nowMs, rfl⟩ dest frame sent
    exact hasSent_step sent _

theorem records_dispatched :
    Parties.Records devices.parties fun _ w source data => .dispatched source data ∈ w.history := by
  constructor
  · rintro addr before after ⟨move, own, rfl⟩ source data dispatched
    exact (World.step_noArrival own before).arrived rfl dispatched
  · rintro addr source data before after ⟨nowMs, rfl⟩ other record dispatched
    have validated := (World.deliver_noArrival source data nowMs before).arrived rfl dispatched
    obtain ⟨events, history, trace⟩ := before.validate_history source data
    rw [history, List.mem_append, List.mem_append] at validated
    rcases validated with new | judged | old
    · rcases trace _ new with same | ⟨counter, header, counted⟩
      · cases same
        exact .inr ⟨rfl, rfl⟩
      · cases counted
    · rw [World.sequenceTrace] at judged
      split at judged
      · cases judged
      · split at judged
        · cases judged
        · cases List.mem_singleton.mp judged
    · rcases List.mem_cons.mp old with received | old
      · cases received
      · exact .inl old

/-- What a device dispatches, the device it came from has sent to it. -/
theorem Reachable.dispatched_sent (reachable : devices.Reachable network) {addr source : Address n}
    {data : Bytes} (dispatched : .dispatched source data ∈ (network addr).history) :
    (network source).HasSent addr data := by
  refine Parties.Run.recorded_sent reachable remembers records_dispatched ?_ dispatched
  intro addr source data never
  cases never

/-- A request callback that is invoked because of a response or error frame belongs to a
request whose provider has executed it: for the service, the method and the payload of the
request, and with the return code and the payload the callback is given. -/
theorem rpc_agreement (reachable : devices.Reachable network) {client : Address n}
    (few : (issuedIds (network client).history).length < UInt32.size) {handle : Nat}
    {rc : ReturnCode} {response : Bytes} {past : History (devices.cfg client)}
    (answered : (.callback (.request handle .reply rc response) :: past) <:+
      (network client).history) :
    ∃ requestId provider serviceId methodId requested payload,
      .issued handle requestId provider serviceId methodId requested true ∈ past ∧
      requested.Denotes payload ∧
      .executed client requestId serviceId methodId payload rc response ∈
        (network provider).history ∧
      (rc ≠ .eOk → response = []) := by
  have clientTracked := (reachable.device client).requestsExplained
  have before := ((List.suffix_cons _ past).trans answered).subset
  -- the callback belongs to the request that was given the id of the reply
  obtain ⟨provider, data, hdr, target, serviceId, methodId, requested, dispatched, checked,
    isReply, rfl, rfl, issued⟩ := clientTracked.explained _ past answered
  -- the reply was sent by the device it came from, after an execution
  have replied := reachable.dispatched_sent (before dispatched)
  have providerTracked := (reachable.device provider).requestsExplained
  obtain ⟨askedService, askedMethod, payload, executed⟩ :=
    providerTracked.reply_executed replied checked isReply
  obtain ⟨older, occurs⟩ := Runs.exists_suffix executed
  obtain ⟨⟨request, asked, arrived, requestChecked, isRequest, sameId, rfl, rfl, rfl⟩, failed⟩ :=
    providerTracked.explained _ older occurs
  -- what was executed had been sent by the client, for a request of the same id
  have requestSent := reachable.dispatched_sent
    ((List.suffix_cons _ older).trans occurs |>.subset arrived)
  obtain ⟨asker, sentPayload, hasCallback, sentIssued, denotes⟩ :=
    clientTracked.request_issued requestSent requestChecked isRequest
  have same := Runs.eq_of_nodup_filterMap
    ((reachable.device client).idsInOrder.nodup few) (before issued) sentIssued rfl
    (congrArg some sameId)
  rw [Event.issued.injEq] at same
  obtain ⟨rfl, -, rfl, rfl, rfl, rfl, -⟩ := same
  exact ⟨hdr.requestId, _, _, _, _, _, issued, denotes, executed, failed⟩

/-! A client and a provider that answers every request with a word. -/

def wordDevices : Devices 8 where
  cfg _ := embeddedConfig
  env _ := World.answeringEnv
  clientId _ := 1

def wordClient : Address 8 := Address.filled 8 1

def wordProvider : Address 8 := Address.filled 8 2

def wordRequested (network : ∀ addr, World (wordDevices.cfg addr)) :
    ∀ addr, World (wordDevices.cfg addr) :=
  wordDevices.advance wordClient
    (.api (.request (some wordProvider) 0x1000 1 (.bytes [5]) true 100 0))
    (wordDevices.advance wordProvider (.api (.registerService 0x1000 0 1 0 false)) network)

/-- The request and its reply as they are on the network. -/
def wordFrame (type : MessageType) (payload : Bytes) : Bytes :=
  messageFrame { World.wordRequest type with
    clientId := 1, requestId := 1, payloadLength := UInt32.ofNat payload.length } payload []

def wordNetwork : ∀ addr, World (wordDevices.cfg addr) :=
  wordDevices.advance wordClient
    (.deliver wordProvider (wordFrame .response [0, 0, 0, 7]) 9)
    (wordDevices.advance wordProvider (.deliver wordClient (wordFrame .request [5]) 5)
      (wordRequested wordDevices.initial))

theorem wordNetwork_reachable : wordDevices.Reachable wordNetwork := by
  have requested : wordDevices.Reachable (wordRequested wordDevices.initial) :=
    (Reachable.move .refl wordProvider _ rfl).move wordClient _ rfl
  refine Reachable.deliver (requested.deliver ?_ 5) ?_ 9
  · left
    decide +kernel
  · left
    decide +kernel

theorem rpc_agreement_word : ∃ past requestId provider serviceId methodId requested payload,
    (.callback (.request 0 .reply .eOk [0, 0, 0, 7]) :: past) <:+
      (wordNetwork wordClient).history ∧
    .issued 0 requestId provider serviceId methodId requested true ∈ past ∧
    requested.Denotes payload ∧
    .executed wordClient requestId serviceId methodId payload .eOk [0, 0, 0, 7] ∈
      (wordNetwork provider).history := by
  have called : (0, .eOk, [0, 0, 0, 7]) ∈ replyCallbacks (wordNetwork wordClient).history := by
    decide +kernel
  obtain ⟨event, occurs, selected⟩ := List.mem_filterMap.mp called
  have callback : event = .callback (.request 0 .reply .eOk [0, 0, 0, 7]) := by
    cases event with
    | callback callback =>
        cases callback with
        | request handle cause =>
            cases cause with
            | reply =>
                cases selected
                rfl
            | _ => cases selected
        | _ => cases selected
    | _ => cases selected
  subst callback
  obtain ⟨past, answered⟩ := Runs.exists_suffix occurs
  obtain ⟨requestId, provider, serviceId, methodId, requested, payload, issued, denotes,
    executed, -⟩ := rpc_agreement wordNetwork_reachable (by decide +kernel) answered
  exact ⟨past, requestId, provider, serviceId, methodId, requested, payload, answered, issued,
    denotes, executed⟩

end Devices

end Sero
