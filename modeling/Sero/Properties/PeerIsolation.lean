import Mathlib.Data.List.Dedup
import Sero.Properties.OfferHandling
import Sero.Properties.Replay
import Sero.Runtime.Deeds

/-!
# Isolation of peers

As long as the tracking table has room for every source, the verdicts on the frames of
one peer are a function of what arrives from that peer and of the resets of its
tracking.  Other sources matter only by what resets them: an offer names the address
whose tracking a reboot resets.
-/

namespace Sero

open Library

variable {n : Nat} {cfg : Config n} {env : Env cfg}

/-- The addresses datagrams have come from. -/
def sources (history : History cfg) : List (Address n) :=
  history.filterMap fun
    | .received source _ => some source
    | _ => none

/-- What concerns the tracking of one peer. -/
inductive PeerInput where
  | datagram (data : Bytes)
  | reset
  deriving DecidableEq, Repr

/-- The inputs that concern an address, newest first. -/
def peerInputs (addr : Address n) (history : History cfg) : List PeerInput :=
  history.filterMap fun
    | .received source data => if source = addr then some (.datagram data) else none
    | .peerReset reset => if reset = addr then some .reset else none
    | _ => none

/-- The verdicts on an address's frames, newest first. -/
def peerVerdicts (addr : Address n) (history : History cfg) : List (Bytes × SeqResult) :=
  history.filterMap fun
    | .verdict source data result => if source = addr then some (data, result) else none
    | _ => none

/-! ## Judging the inputs of one peer -/

/-- Does step 8 check the counter of this datagram? -/
def isSequenced (cfg : Config n) (data : Bytes) : Bool :=
  match checkFrame cfg data with
  | .error _ => false
  | .ok hdr => hdr.serviceId != sdServiceId

/-- The verdict on a counter when there is room in the table. -/
def windowVerdict (cfg : Config n) (last : Option UInt8) (counter : UInt8) : SeqResult :=
  match last with
  | none => .firstSeen
  | some last =>
      if counter - last = 0 then .duplicate
      else if counter - last ≤ cfg.seqCounterAcceptWindow then .accept
      else .stale

/-- The counter recorded last and the verdicts, from the inputs alone. -/
def judgeInputs (cfg : Config n) : List PeerInput → Option UInt8 × List (Bytes × SeqResult)
  | [] => (none, [])
  | .reset :: past => (none, (judgeInputs cfg past).2)
  | .datagram data :: past =>
      let (last, verdicts) := judgeInputs cfg past
      if isSequenced cfg data then
        let result := windowVerdict cfg last (counterOf data)
        (if result.records then some (counterOf data) else last, (data, result) :: verdicts)
      else (last, verdicts)

namespace E2EProtection

/-- With room for a new source the window decides. -/
theorem validateSequence_window {e2e : E2EProtection cfg} {source : Address n}
    (room : e2e.lastSeen source = none → e2e.peers.length < cfg.maxTrackedPeers)
    (counter : UInt8) :
    (e2e.validateSequence source counter).1 = windowVerdict cfg (e2e.lastSeen source) counter := by
  have judged := e2e.validateSequence_judged source counter
  cases seen : e2e.lastSeen source with
  | none =>
      have unseen : e2e.findPeer source = none := by
        rw [lastSeen, Option.map_eq_none_iff] at seen
        exact seen
      simp only [validateSequence, unseen, if_pos (room seen), windowVerdict]
  | some last =>
      rw [seen] at judged
      exact judged

/-- Distinct tracked addresses that are all known leave room for a known one. -/
theorem Distinct.room {e2e : E2EProtection cfg} (distinct : e2e.Distinct)
    {senders : List (Address n)} (few : senders.length ≤ cfg.maxTrackedPeers)
    (known : ∀ addr, (e2e.lastSeen addr).isSome = true → addr ∈ senders)
    {source : Address n} (member : source ∈ senders) (unseen : e2e.lastSeen source = none) :
    e2e.peers.length < cfg.maxTrackedPeers := by
  have looked : ∀ entry ∈ e2e.peers, e2e.findPeer entry.address = some entry :=
    fun entry here => Table.Distinct.lookup_of_mem distinct here
  have fresh : source ∉ e2e.peers.map PeerEntry.address := by
    intro tracked
    obtain ⟨entry, here, rfl⟩ := List.mem_map.mp tracked
    rw [lastSeen, looked entry here] at unseen
    cases unseen
  have inside : source :: e2e.peers.map PeerEntry.address ⊆ senders := by
    intro addr member'
    rcases List.mem_cons.mp member' with rfl | tracked
    · exact member
    · obtain ⟨entry, here, rfl⟩ := List.mem_map.mp tracked
      apply known
      rw [lastSeen, looked entry here]
      rfl
  have bound := (List.subperm_of_subset (List.nodup_cons.mpr ⟨fresh, distinct⟩) inside).length_le
  rw [List.length_cons, List.length_map] at bound
  omega

end E2EProtection

/-- Every source is among `senders`, and each peer's inputs determine its tracking and
its verdicts. -/
structure PeersIsolated (senders : List (Address n)) (w : World cfg) : Prop where
  tracked : SequenceTracked w
  known : ∀ addr, (w.rt.e2e.lastSeen addr).isSome = true → addr ∈ senders
  judged : ∀ addr, judgeInputs cfg (peerInputs addr w.history) =
    (lastRecorded addr w.history, peerVerdicts addr w.history)

namespace PeersIsolated

variable {senders : List (Address n)} {before after : World cfg}

theorem initial (senders : List (Address n)) (clientId : UInt16) :
    PeersIsolated senders (World.initial cfg clientId) where
  tracked := .initial clientId
  known _ seen := by cases seen
  judged _ := rfl

/-- Other events concern no peer. -/
theorem quiet {events past : History cfg} (addr : Address n)
    (received : ∀ source data, .received source data ∉ events)
    (verdict : ∀ source data result, .verdict source data result ∉ events)
    (reset : ∀ addr, .peerReset addr ∉ events) :
    peerInputs addr (events ++ past) = peerInputs addr past ∧
      peerVerdicts addr (events ++ past) = peerVerdicts addr past := by
  have noInputs : peerInputs addr events = [] := by
    rw [peerInputs, List.filterMap_eq_nil_iff]
    intro event member
    cases event with
    | received => exact absurd member (received _ _)
    | peerReset => exact absurd member (reset _)
    | _ => rfl
  have noVerdicts : peerVerdicts addr events = [] := by
    rw [peerVerdicts, List.filterMap_eq_nil_iff]
    intro event member
    cases event with
    | verdict => exact absurd member (verdict _ _ _)
    | _ => rfl
  constructor
  · rw [peerInputs, List.filterMap_append]
    exact congrArg (· ++ peerInputs addr past) noInputs
  · rw [peerVerdicts, List.filterMap_append]
    exact congrArg (· ++ peerVerdicts addr past) noVerdicts

/-- What validation records and does to the table. -/
theorem validate_sequenced (source : Address n) (data : Bytes) (w : World cfg) :
    w.sequenceTrace source data =
        (if isSequenced cfg data then
          [.verdict source data (w.rt.e2e.validateSequence source (counterOf data)).1]
        else []) ∧
      (w.validate source data).2.rt.e2e =
        if isSequenced cfg data then
          (w.rt.e2e.validateSequence source (counterOf data)).2
        else w.rt.e2e := by
  obtain ⟨diag, rt, -⟩ := World.validate_rt source data w
  rw [rt, World.sequenceTrace, isSequenced]
  cases checked : checkFrame cfg data with
  | error failure => exact ⟨rfl, rfl⟩
  | ok hdr =>
      have counter : hdr.sequenceCounter = counterOf data := by
        rw [(checkFrame_ok_iff.mp checked).header, counterOf]
      by_cases sd : hdr.serviceId = sdServiceId
      · simp [sd]
      · simp [sd, counter]

theorem validate (isolated : PeersIsolated senders before)
    (few : senders.length ≤ cfg.maxTrackedPeers) {source : Address n}
    (member : source ∈ senders) (data : Bytes) :
    PeersIsolated senders (before.validate source data).2 := by
  obtain ⟨events, history, trace⟩ := World.validate_history source data before
  obtain ⟨recorded, e2e⟩ := validate_sequenced source data before
  have window := before.rt.e2e.validateSequence_window
    (fun unseen => isolated.tracked.distinct.room few isolated.known member unseen)
    (counterOf data)
  rw [isolated.tracked.recorded] at window
  constructor
  · exact isolated.tracked.validate source data
  · intro addr seen
    rw [e2e] at seen
    split at seen
    · rw [E2EProtection.lastSeen_validateSequence] at seen
      split at seen
      · next own => exact own.1 ▸ member
      · exact isolated.known addr seen
    · exact isolated.known addr seen
  · intro addr
    have behind := fun past => @quiet _ _ events past addr
      (fun _ _ here => by rcases trace _ here with equal | ⟨_, _, equal⟩ <;> cases equal)
      (fun _ _ _ here => by rcases trace _ here with equal | ⟨_, _, equal⟩ <;> cases equal)
      (fun _ here => by rcases trace _ here with equal | ⟨_, _, equal⟩ <;> cases equal)
    have earlier := isolated.judged addr
    rw [history, (behind _).1, (behind _).2, lastRecorded_afterVerdict addr trace, recorded]
    by_cases sequenced : isSequenced cfg data = true
    · rw [if_pos sequenced, window]
      by_cases own : source = addr
      · subst own
        simp only [peerInputs, peerVerdicts] at earlier
        simp [peerInputs, peerVerdicts, lastRecorded, judgeInputs, sequenced, earlier]
      · simp only [peerInputs, peerVerdicts] at earlier
        simp [peerInputs, peerVerdicts, lastRecorded, own, earlier]
    · rw [if_neg sequenced]
      by_cases own : source = addr
      · subst own
        simp only [peerInputs, peerVerdicts] at earlier
        simp [peerInputs, peerVerdicts, lastRecorded, judgeInputs, sequenced, earlier]
      · simp only [peerInputs, peerVerdicts] at earlier
        simp [peerInputs, peerVerdicts, lastRecorded, own, earlier]

theorem step (isolated : PeersIsolated senders before)
    (few : senders.length ≤ cfg.maxTrackedPeers)
    (known : ∀ source data, .received source data ∈ after.history → source ∈ senders)
    {kind : StepKind} (step : Atomic env kind before after) : PeersIsolated senders after := by
  by_cases validates : kind = .validate
  · subst validates
    cases step with
    | validate source data =>
        obtain ⟨events, history, -⟩ := World.validate_history source data before
        exact isolated.validate few (known source data (by simp [history])) data
  · have tracked := isolated.tracked.step step
    by_cases resets : kind = .resetPeer
    · subst resets
      cases step with
      | resetPeer reset =>
          refine ⟨tracked, ?_, ?_⟩
          · intro addr seen
            have forgotten := isolated.tracked.distinct.lastSeen_resetPeer reset addr
            change ((before.rt.e2e.resetPeer reset).lastSeen addr).isSome = true at seen
            rw [forgotten] at seen
            split at seen
            · cases seen
            · exact isolated.known addr seen
          · intro addr
            have earlier := isolated.judged addr
            simp only [peerInputs, peerVerdicts] at earlier
            by_cases own : reset = addr
            · simp [World.resetPeer, peerInputs, peerVerdicts, lastRecorded, judgeInputs, own,
                earlier]
            · simp [World.resetPeer, peerInputs, peerVerdicts, lastRecorded, own, earlier]
    · have peers := step.peers validates resets
      obtain ⟨events, history, kinds⟩ := step.observes
      have absent : ∀ event : Event cfg, event ∈ events →
          event.kind ≠ .validate ∧ event.kind ≠ .resetPeer := by
        intro event member
        exact ⟨Event.kind_ne kinds validates (by simp) event member,
          Event.kind_ne kinds resets (by simp) event member⟩
      refine ⟨tracked, ?_, ?_⟩
      · intro addr seen
        rw [E2EProtection.lastSeen, E2EProtection.findPeer, peers] at seen
        exact isolated.known addr seen
      · intro addr
        obtain ⟨inputs, verdicts⟩ := @quiet _ _ events before.history addr
          (fun _ _ here => (absent _ here).1 rfl) (fun _ _ _ here => (absent _ here).1 rfl)
          (fun _ here => (absent _ here).2 rfl)
        rw [history, inputs, verdicts, lastRecorded_append_of_kind addr absent]
        exact isolated.judged addr

end PeersIsolated

/-! ## What resets a peer -/

/-- Between two states no address is reset but these. -/
def ResetsOnly (allowed : Address n → Prop) (before after : World cfg) : Prop :=
  ∃ events, after.history = events ++ before.history ∧
    ∀ addr, .peerReset addr ∈ events → allowed addr

namespace ResetsOnly

variable {allowed : Address n → Prop} {first second third : World cfg}

theorem silent (same : second.history = first.history) : ResetsOnly allowed first second :=
  ⟨[], same, by simp⟩

theorem trans (left : ResetsOnly allowed first second) (right : ResetsOnly allowed second third) :
    ResetsOnly allowed first third := by
  obtain ⟨older, olderEq, olderAllowed⟩ := left
  obtain ⟨newer, newerEq, newerAllowed⟩ := right
  refine ⟨newer ++ older, by rw [newerEq, olderEq, List.append_assoc], fun addr reset => ?_⟩
  exact (List.mem_append.mp reset).elim (newerAllowed addr) (olderAllowed addr)

theorem of_observes {kind : StepKind} (observes : Observes kind first second)
    (other : kind ≠ .resetPeer) : ResetsOnly allowed first second := by
  obtain ⟨events, history, kinds⟩ := observes
  refine ⟨events, history, fun addr reset => ?_⟩
  exact absurd rfl (Event.kind_ne kinds other (by simp) _ reset)

theorem of_calls (steps : CallSteps env first second) : ResetsOnly allowed first second := by
  obtain ⟨events, history, kinds⟩ := steps.apiSteps.observes
  exact ⟨events, history, fun addr reset => absurd (kinds _ reset) (by simp [Event.kind,
    StepKind.isApi])⟩

theorem resetPeer {addr : Address n} (isAllowed : allowed addr) (w : World cfg) :
    ResetsOnly allowed w (w.resetPeer addr) := by
  refine ⟨[.peerReset addr], rfl, fun other reset => ?_⟩
  cases List.mem_singleton.mp reset
  exact isAllowed

/-- Everything but the resets themselves resets nothing. -/
theorem walk : DiscoveryWalk env (@ResetsOnly n cfg allowed) where
  refl w := silent rfl
  trans := trans
  script script w := of_calls (script.run_steps w)
  count counter header w := of_observes (World.increment_core counter header w).history (by simp)
  storeDtcs write := silent rfl
  fillResponse buffer w := silent rfl
  handling {kind} _ _ isHandling step := by
    refine of_observes step.observes ?_
    rintro rfl
    cases isHandling
  reply active reason := of_observes (World.finish_observes _ _ _ _ _) (by simp)
  background step := of_observes step.core.history (by simp)
  sdWrite write := silent rfl
  markRenewals nowMs w :=
    of_observes (@Atomic.markRenewals _ _ env nowMs w).observes (by simp)

end ResetsOnly

/-- Why a move resets the tracking of an address. -/
inductive ResetReason (env : Env cfg) (w : World cfg) : Move cfg → Address n → Prop where
  | find {source : Address n} {data : Bytes} {nowMs : UInt32} {serviceId : UInt16}
      (passed : (w.validate source data).1.isSome = true)
      (finds : heard cfg source data = some (.find source serviceId)) :
      ResetReason env w (.deliver source data nowMs) source
  | reboot {source : Address n} {data : Bytes} {nowMs : UInt32} {offer : SdPayload.Offer n}
      (passed : (w.validate source data).1.isSome = true)
      (offers : heard cfg source data = some (.offer offer))
      (reboot : w.rt.sd.detectReboot offer.serviceId offer.sessionId = true) :
      ResetReason env w (.deliver source data nowMs) offer.providerAddr
  | expired {nowMs : UInt32} {during : World cfg} {entry : ConsumerEntry n}
      (reached : Steps env w during) (listed : entry ∈ during.rt.sd.consumers)
      (found : entry.state = .found) (late : timeAfter nowMs entry.ttlExpiryMs = true) :
      ResetReason env w (.housekeeping nowMs) entry.providerAddr

namespace World

theorem deliver_resets (source : Address n) (data : Bytes) (nowMs : UInt32) (w : World cfg) :
    ResetsOnly (ResetReason env w (.deliver source data nowMs)) w
      (w.validateAndDispatch env source data nowMs) := by
  let allowed := ResetReason env w (.deliver source data nowMs)
  have walk : DiscoveryWalk env (ResetsOnly allowed) := ResetsOnly.walk
  have validated : ResetsOnly allowed w (w.validate source data).2 :=
    .of_observes (validate_observes source data w) (by simp)
  have sameSd : (w.validate source data).2.rt.sd = w.rt.sd := by
    obtain ⟨diag, rt, -⟩ := validate_rt source data w
    rw [rt]
  rw [validateAndDispatch]
  rcases outcome : w.validate source data with ⟨passed, after⟩
  rw [outcome] at validated sameSd
  cases passed with
  | none => exact validated
  | some hdr =>
      have accepted := validate_accepted outcome
      have passed : (w.validate source data).1.isSome = true := by rw [outcome]; rfl
      refine validated.trans ?_
      by_cases sd : hdr.serviceId = sdServiceId
      · have hears : heard cfg source data = SdRequest.decode source hdr (payloadOf hdr data) := by
          rw [heard, accepted.checked]
          exact if_pos sd
        simp only [dispatchMessage, if_pos sd, handleSdMessage_eq]
        cases decoded : SdRequest.decode source hdr (payloadOf hdr data) with
        | none => exact .silent rfl
        | some request =>
            have asked := hears.trans decoded
            cases request with
            | offer offer =>
                have reset : ResetsOnly allowed after
                    (if after.rt.sd.detectReboot offer.serviceId offer.sessionId then
                      after.resetPeer offer.providerAddr else after) := by
                  split
                  · next reboots =>
                      rw [sameSd] at reboots
                      exact .resetPeer (.reboot passed asked reboots) after
                  · exact .silent rfl
                exact reset.trans (walk.sdHandleOffer _ _ _ _ _ _ _)
            | find asker serviceId =>
                obtain rfl := heard_asker asked rfl
                exact (ResetsOnly.resetPeer (.find passed asked) after).trans
                  (walk.foldl (fun w message => walk.background (.sdUnicast asker message w)) _ _)
            | subscribe asker hdr request =>
                exact walk.background (.subscribeRequest asker hdr request nowMs after)
            | ack result granted => exact walk.handleSubscribeAck _ _ _ _ _
            | unsubscribe clientId request =>
                exact walk.background (.unsubscribeRequest request clientId after)
      · exact walk.dispatchMessage accepted sd nowMs

theorem housekeeping_resets (nowMs : UInt32) (w : World cfg) :
    ResetsOnly (ResetReason env w (.housekeeping nowMs)) w (w.housekeeping env nowMs) := by
  let allowed := ResetReason env w (.housekeeping nowMs)
  have walk : DiscoveryWalk env (ResetsOnly allowed) := ResetsOnly.walk
  have turn (during : World cfg) (index : Nat) (reached : Steps env w during) :
      ResetsOnly allowed during
        (ServiceDiscovery.processConsumerTtl sdLens (sdHooks env) nowMs during index) := by
    rw [ServiceDiscovery.processConsumerTtl]
    split
    · exact .silent rfl
    · next entry here =>
        split
        · next due =>
            have reason : allowed entry.providerAddr :=
              .expired reached (List.mem_of_getElem? here) due.1 due.2
            have reset : ResetsOnly allowed during _ := .resetPeer reason
              (sdLens.modify (fun sd => sd.expireConsumer index) during)
            exact reset.trans (walk.callServiceLost _ _)
        · exact .silent rfl
  have pass (indices : List Nat) (during : World cfg) (reached : Steps env w during) :
      ResetsOnly allowed during (indices.foldl
        (ServiceDiscovery.processConsumerTtl sdLens (sdHooks env) nowMs) during) := by
    induction indices generalizing during with
    | nil => exact .silent rfl
    | cons index rest ih =>
        exact (turn during index reached).trans
          (ih _ (reached.trans (walk_steps.processConsumerTtl nowMs during index)))
  have evicted := @evictRequests_steps _ _ env nowMs w
  have sent : Steps env (w.evictRequests env nowMs) _ := walk_steps.housekeepingSends nowMs _
  exact (ResetsOnly.of_calls evicted).trans ((walk.housekeepingSends nowMs _).trans
    ((pass _ _ (evicted.steps.trans sent)).trans (walk.foldl (walk.processFind nowMs) _ _)))

/-- A move resets an address for one of three reasons. -/
theorem step_resets (w : World cfg) (move : Move cfg) :
    ResetsOnly (ResetReason env w move) w (w.step env move) := by
  cases move with
  | api call => exact .of_calls (perform_steps react_steps call w)
  | start nowMs =>
      have started : Background env w (w.startCycle nowMs) := .startCycle nowMs w
      exact .of_observes started.core.history (by simp)
  | deliver source data nowMs => exact deliver_resets source data nowMs w
  | housekeeping nowMs => exact housekeeping_resets nowMs w

/-- Whatever resets an address in a run is an `SD_FIND` from it, an offer naming it that is
treated as a reboot, or the expiry of the lease of a service it provides. -/
theorem reset_has_reason {clientId : UInt16} {addr : Address n} (moves : List (Move cfg))
    (reset : .peerReset addr ∈ (run env moves (World.initial cfg clientId)).history) :
    ∃ earlier move later, moves = earlier ++ move :: later ∧
      ResetReason env (run env earlier (World.initial cfg clientId)) move addr := by
  induction moves using List.reverseRecOn with
  | nil => cases reset
  | append_singleton moves move ih =>
      obtain ⟨events, history, allowed⟩ :=
        @step_resets _ _ env (run env moves (World.initial cfg clientId)) move
      rw [run, List.foldl_append] at reset
      change .peerReset addr ∈ ((run env moves (World.initial cfg clientId)).step env
        move).history at reset
      rw [history] at reset
      rcases List.mem_append.mp reset with now | before
      · exact ⟨moves, move, [], rfl, allowed addr now⟩
      · obtain ⟨earlier, cause, later, rfl, reason⟩ := ih before
        exact ⟨earlier, cause, later ++ [move], by simp, reason⟩

end World

/-! ## Two runs -/

theorem Steps.peersIsolated {senders : List (Address n)} {clientId : UInt16} {w : World cfg}
    (steps : Steps env (World.initial cfg clientId) w)
    (few : senders.length ≤ cfg.maxTrackedPeers)
    (known : ∀ source data, .received source data ∈ w.history → source ∈ senders) :
    PeersIsolated senders w := by
  induction steps with
  | refl => exact .initial senders clientId
  | tail _ step ih =>
      obtain ⟨kind, step⟩ := step
      have earlier := ih fun source data member =>
        known source data (step.observes.suffix.subset member)
      exact earlier.step few known step

theorem World.Reachable.peersIsolated {w : World cfg} (reachable : World.Reachable env w)
    (few : (sources w.history).dedup.length ≤ cfg.maxTrackedPeers) :
    PeersIsolated (sources w.history).dedup w := by
  obtain ⟨clientId, moves, rfl⟩ := reachable
  apply (World.run_steps moves _).peersIsolated few
  intro source data member
  rw [List.mem_dedup]
  exact List.mem_filterMap.mpr ⟨_, member, rfl⟩

/-- In two runs of devices that hear from at most `MaxTrackedPeers` sources, the same
datagrams from a peer and the same resets of its tracking, in the same order, lead to
the same verdicts on its frames. -/
theorem same_verdicts {leftEnv rightEnv : Env cfg} {left right : World cfg}
    (leftReachable : World.Reachable leftEnv left)
    (rightReachable : World.Reachable rightEnv right)
    (leftFew : (sources left.history).dedup.length ≤ cfg.maxTrackedPeers)
    (rightFew : (sources right.history).dedup.length ≤ cfg.maxTrackedPeers)
    {addr : Address n}
    (same : peerInputs addr left.history = peerInputs addr right.history) :
    peerVerdicts addr left.history = peerVerdicts addr right.history := by
  have leftJudged := (leftReachable.peersIsolated leftFew).judged addr
  have rightJudged := (rightReachable.peersIsolated rightFew).judged addr
  rw [same, rightJudged] at leftJudged
  exact (Prod.ext_iff.mp leftJudged).2.symm

/-! A consumer whose provider sends the same notification twice, and what a third device
sends in between. -/

def providerAddress : Address 8 := Address.filled 8 2

def between (others : List (Move embeddedConfig)) : World embeddedConfig :=
  World.run (.benign _)
    ([.api (.findService 0x2000 1 1000),
      .deliver providerAddress (offerFrame (providerOffer 2 1)) 1000,
      .deliver providerAddress World.notification 1100] ++ others ++
      [.deliver providerAddress World.notification 1200])
    (World.initial _ 1)

/-- Datagrams of a third device. -/
def fromThird (data : Bytes) : Move embeddedConfig :=
  .deliver (Address.filled 8 9) data 1150

theorem same_verdicts_third :
    peerVerdicts providerAddress (between []).history =
      peerVerdicts providerAddress (between [fromThird World.notification]).history :=
  same_verdicts ⟨1, _, rfl⟩ ⟨1, _, rfl⟩ (by decide +kernel) (by decide +kernel)
    (by decide +kernel)

/-- An offer of the third device that names the provider's address resets the provider's
tracking, and the second copy is no longer a duplicate. -/
theorem forged_offer_changes_verdict :
    let quiet := between []
    let forged := between [fromThird (offerFrame (providerOffer 2 2))]
    (sources quiet.history).dedup.length ≤ embeddedConfig.maxTrackedPeers ∧
      (sources forged.history).dedup.length ≤ embeddedConfig.maxTrackedPeers ∧
      (peerInputs providerAddress quiet.history).filter (fun input => input != .reset) =
        (peerInputs providerAddress forged.history).filter (fun input => input != .reset) ∧
      (peerVerdicts providerAddress quiet.history).map Prod.snd = [.duplicate, .firstSeen] ∧
      (peerVerdicts providerAddress forged.history).map Prod.snd = [.firstSeen, .firstSeen] :=
  ⟨by decide +kernel, by decide +kernel, by decide +kernel, by decide +kernel,
    by decide +kernel⟩

end Sero
