import Sero.Runtime.Decomposition

/-!
# Authenticated request handling

A handler is entered on two paths.  On both, the datagram being processed is the
one validation accepted last, and nothing has happened in between, so the keys
and the service entry at that moment are those step 9 looked at.
-/

namespace Sero

open Library

variable {n : Nat} {cfg : Config n} {env : Env cfg}

/-- The datagram carries a tag that verifies under the key stored for its source,
over exactly its header and payload. -/
structure TagVerifies (keys : MessageAuthenticator cfg) (source : Address n)
    (data : Bytes) (hdr : MessageHeader) : Prop where
  flagged : hdr.hasAuth = true
  whole : hdr.expectedSize ≤ data.length
  verified : ∃ entry, keys.findKey source = some entry ∧
    tagOf hdr data =
      (hmac entry.key (rawHeader data ++ payloadOf hdr data)).take hmacSize

/-- Step 9 for a service that requires authentication. -/
theorem World.checkAuth_required {source : Address n} {data : Bytes} {hdr : MessageHeader}
    {w : World cfg} (authentic : w.checkAuth source data hdr = true)
    (checked : FrameChecked cfg data hdr) (notSd : hdr.serviceId ≠ sdServiceId)
    {entry : ServiceEntry} (found : w.rt.dispatcher.find hdr.serviceId = some entry)
    (required : entry.authRequired = true) :
    TagVerifies w.rt.authenticator source data hdr := by
  unfold checkAuth at authentic
  cases flagged : hdr.hasAuth with
  | false => simp [flagged, notSd, found, required] at authentic
  | true =>
      rw [flagged, if_pos rfl] at authentic
      exact ⟨flagged, checked.size,
        (w.rt.authenticator.verify_iff _ _ source (checked.tag_length flagged)).mp authentic⟩

/-- Whenever the request handler of a service whose entry requires authentication
is entered, the datagram just dispatched is addressed to that service and carries
a tag that verifies under the stored key of its source, and the handler is given
exactly its method id and payload. -/
def HandlersAuthenticated (w : World cfg) : Prop :=
  ∀ entry keys methodId payload capacity past,
    (.onRequest entry keys methodId payload capacity :: past) <:+ w.history →
    entry.authRequired = true →
    ∃ source data, past.head? = some (.dispatched source data) ∧
      let hdr := MessageHeader.deserialize data
      entry.serviceId = hdr.serviceId ∧ TagVerifies keys source data hdr ∧
      methodId = hdr.methodEventId ∧ payload = payloadOf hdr data

theorem HandlersAuthenticated.step {kind : StepKind} {before after : World cfg}
    (holds : HandlersAuthenticated before) (step : Atomic env kind before after) :
    HandlersAuthenticated after := by
  intro entry keys methodId payload capacity past entered required
  by_cases entering : kind = .enterHandler
  · subst entering
    cases step with
    | enterHandler _ accepted notSd found =>
        rcases List.suffix_cons_iff.mp entered with now | earlier
        · cases now
          have checked := checkFrame_ok_iff.mp accepted.checked
          refine ⟨_, _, accepted.current, ?_⟩
          rw [← checked.header]
          exact ⟨MethodDispatcher.find_serviceId found,
            World.checkAuth_required accepted.authentic checked notSd found required,
            rfl, rfl⟩
        · exact holds _ _ _ _ _ _ earlier required
  · have earlier := step.observes.earlier entered (Ne.symm entering) (by simp [Event.kind])
    exact holds _ _ _ _ _ _ earlier required

/-- Authentication safety: in every run, request handlers of services that require
authentication see authenticated requests only. -/
theorem handlers_authenticated {w : World cfg} (reachable : World.Reachable env w) :
    HandlersAuthenticated w :=
  World.Reachable.invariant
    (fun _ _ _ _ _ _ _ entered => by simp [World.initial] at entered)
    (fun _ _ _ holds step => holds.step step) reachable

/-! A device with a protected service receives a request it can authenticate. -/

def sharedKey : HmacKey embeddedConfig :=
  ⟨List.replicate 32 0x0b, by decide⟩

def protectedRequest : Bytes :=
  let hdr : MessageHeader := {
    messageType := MessageType.requestNoReturn.toByte
    flags := flagAuth
    serviceId := 0x1000
    methodEventId := 1
    clientId := 7
    payloadLength := 1 }
  messageFrame hdr [0xab] (computeHmacTwoPart sharedKey hdr.serialize [0xab])

def protectedMoves : List (Move embeddedConfig) :=
  [.api (.registerService 0x1000 0 1 0 true),
    .api (.setHmacKey (Address.zero 8) sharedKey),
    .deliver (Address.zero 8) protectedRequest 0]

theorem handlers_authenticated_protected :
    let w := World.run (.benign embeddedConfig) protectedMoves (World.initial _ 1)
    HandlersAuthenticated w ∧
      (match w.history.head? with
        | some (.onRequest entry _ 1 [0xab] none) => entry.authRequired
        | _ => false) = true :=
  ⟨handlers_authenticated ⟨1, protectedMoves, rfl⟩, by decide +kernel⟩

end Sero
