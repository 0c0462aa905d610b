import Sero.Properties.OfferLease

/-!
# What a consumer knows

The consumer table is rewritten by `find`, by offers and by two periodic passes.  With
callbacks that leave it alone, what it says about a service is a function of what has
happened: the version last looked for, and the last offer that answered, unless a pass
has found its lease run out.
-/

namespace Sero

open Library ServiceDiscovery

variable {n : Nat} {cfg : Config n} {σ : Type}

/-- What happens to a consumer. -/
inductive ConsumerEvent (n : Nat) where
  | find (serviceId : UInt16) (expectedMajor : UInt8) (succeeded : Bool)
  | offered (offer : SdPayload.Offer n) (nowMs : UInt32)
  | processedFinds (nowMs : UInt32)
  | processedTtls (nowMs : UInt32)
  deriving DecidableEq

/-- Nothing discovery calls touches the consumers. -/
structure QuietHooks (lens : Lens σ (ServiceDiscovery cfg)) (hooks : Hooks n σ) : Prop where
  broadcast : ∀ message state,
    (lens.get (hooks.broadcast message state)).consumers = (lens.get state).consumers
  onPeerExpired : ∀ peer state,
    (lens.get (hooks.onPeerExpired peer state)).consumers = (lens.get state).consumers
  onServiceFound : ∀ serviceId provider state,
    (lens.get (hooks.onServiceFound serviceId provider state)).consumers =
      (lens.get state).consumers
  onServiceLost : ∀ serviceId state,
    (lens.get (hooks.onServiceLost serviceId state)).consumers = (lens.get state).consumers

/-- Runs of the four operations, with what happened, newest first. -/
inductive ConsumerRun (lens : Lens σ (ServiceDiscovery cfg)) (hooks : Hooks n σ) (start : σ) :
    List (ConsumerEvent n) → σ → Prop where
  | start : ConsumerRun lens hooks start [] start
  | find {history : List (ConsumerEvent n)} {state : σ} (serviceId : UInt16)
      (expectedMajor : UInt8) (nowMs : UInt32) :
      ConsumerRun lens hooks start history state →
      ConsumerRun lens hooks start
        (.find serviceId expectedMajor
          ((lens.get state).find serviceId expectedMajor nowMs).1 :: history)
        (lens.modify (fun sd => (sd.find serviceId expectedMajor nowMs).2) state)
  | offered {history : List (ConsumerEvent n)} {state : σ} (offer : SdPayload.Offer n)
      (nowMs : UInt32) :
      ConsumerRun lens hooks start history state →
      ConsumerRun lens hooks start (.offered offer nowMs :: history)
        (handleOffer lens hooks offer.serviceId offer.majorVersion offer.ttlSeconds
          offer.sessionId offer.providerAddr nowMs state)
  | processedFinds {history : List (ConsumerEvent n)} {state : σ} (nowMs : UInt32) :
      ConsumerRun lens hooks start history state →
      ConsumerRun lens hooks start (.processedFinds nowMs :: history)
        (processFinds lens hooks nowMs state)
  | processedTtls {history : List (ConsumerEvent n)} {state : σ} (nowMs : UInt32) :
      ConsumerRun lens hooks start history state →
      ConsumerRun lens hooks start (.processedTtls nowMs :: history)
        (processConsumerTtls lens hooks nowMs state)

/-! ## What the history says -/

/-- The version the last successful `find` of a service asked for. -/
def lastFind (serviceId : UInt16) : List (ConsumerEvent n) → Option UInt8
  | [] => none
  | .find wanted major true :: older =>
      if wanted = serviceId then some major else lastFind serviceId older
  | _ :: older => lastFind serviceId older

/-- A successful `find` of the service. -/
def ConsumerEvent.findsAnew (serviceId : UInt16) : ConsumerEvent n → Bool
  | .find wanted _ succeeded => succeeded && wanted == serviceId
  | _ => false

/-- An offer of the service with a lease and the version wanted. -/
def ConsumerEvent.answers (serviceId : UInt16) (major : UInt8) : ConsumerEvent n → Bool
  | .offered offer _ =>
      offer.serviceId == serviceId && offer.ttlSeconds != 0 && offer.majorVersion == major
  | _ => false

/-- A pass over the leases that comes after the end of this one. -/
def ConsumerEvent.expires (expiryMs : UInt32) : ConsumerEvent n → Bool
  | .processedTtls nowMs => timeAfter nowMs expiryMs
  | _ => false

/-- The offer is the most recent that answers the last successful `find`, was handled
after it, and no later pass came after the end of its lease. -/
structure AnsweredBy (serviceId : UInt16) (offer : SdPayload.Offer n) (handledMs : UInt32)
    (newer older : List (ConsumerEvent n)) : Prop where
  looked : lastFind serviceId older = some offer.majorVersion
  answers : (ConsumerEvent.offered offer handledMs).answers serviceId offer.majorVersion = true
  sameFind : ∀ event ∈ newer, event.findsAnew serviceId = false
  mostRecent : ∀ event ∈ newer, event.answers serviceId offer.majorVersion = false
  unexpired : ∀ event ∈ newer, event.expires (leaseEnd offer handledMs) = false

/-- The version looked for and, when found, the address and the end of the lease. -/
structure Tracked (n : Nat) where
  expectedMajor : UInt8
  lease : Option (Address n × UInt32)
  deriving DecidableEq

def ConsumerEntry.tracked (entry : ConsumerEntry n) : Tracked n where
  expectedMajor := entry.expectedMajor
  lease := if entry.state = .found then some (entry.providerAddr, entry.ttlExpiryMs) else none

/-- What one event does to what is known of a service. -/
def track (serviceId : UInt16) (event : ConsumerEvent n) (before : Option (Tracked n)) :
    Option (Tracked n) :=
  match event with
  | .find wanted major succeeded =>
      if succeeded = true ∧ wanted = serviceId then some ⟨major, none⟩ else before
  | .offered offer nowMs =>
      before.map fun known =>
        if event.answers serviceId known.expectedMajor then
          { known with lease := some (offer.providerAddr, leaseEnd offer nowMs) }
        else known
  | .processedFinds _ => before
  | .processedTtls nowMs =>
      before.map fun known =>
        { known with lease := known.lease.filter fun lease => !timeAfter nowMs lease.2 }

/-- What is known of a service after everything that happened. -/
def trackAll (serviceId : UInt16) : List (ConsumerEvent n) → Option (Tracked n)
  | [] => none
  | event :: older => track serviceId event (trackAll serviceId older)

theorem lastFind_cons (serviceId : UInt16) (event : ConsumerEvent n)
    (older : List (ConsumerEvent n)) (other : event.findsAnew serviceId = false) :
    lastFind serviceId (event :: older) = lastFind serviceId older := by
  cases event with
  | find wanted major succeeded =>
      cases succeeded with
      | false => rfl
      | true =>
          have different : wanted ≠ serviceId := by
            simpa [ConsumerEvent.findsAnew] using other
          rw [lastFind, if_neg different]
  | _ => rfl

theorem lastFind_append (serviceId : UInt16) {newer : List (ConsumerEvent n)}
    (older : List (ConsumerEvent n)) (other : ∀ event ∈ newer, event.findsAnew serviceId = false) :
    lastFind serviceId (newer ++ older) = lastFind serviceId older := by
  induction newer with
  | nil => rfl
  | cons event rest ih =>
      rw [List.cons_append, lastFind_cons _ _ _ (other event (.head _))]
      exact ih fun event member => other event (.tail _ member)

/-- The version is the one last looked for. -/
theorem trackAll_expectedMajor (serviceId : UInt16) (history : List (ConsumerEvent n)) :
    (trackAll serviceId history).map Tracked.expectedMajor = lastFind serviceId history := by
  induction history with
  | nil => rfl
  | cons event older ih =>
      rw [trackAll]
      cases event with
      | find wanted major succeeded =>
          cases succeeded with
          | false => simpa [track, lastFind] using ih
          | true =>
              by_cases same : wanted = serviceId
              · simp [track, lastFind, same]
              · simpa [track, lastFind, same] using ih
      | offered offer nowMs =>
          rw [lastFind, ← ih, track, Option.map_map]
          · congr 1
            funext known
            rw [Function.comp_apply]
            split <;> rfl
          · simp
      | processedFinds nowMs => exact ih
      | processedTtls nowMs =>
          rw [lastFind, ← ih, track, Option.map_map]
          · rfl
          · simp

/-- An event grants the lease there is, or has left it alone. -/
theorem track_lease (serviceId : UInt16) (event : ConsumerEvent n) (before : Option (Tracked n))
    (lease : Address n × UInt32) :
    (track serviceId event before).bind Tracked.lease = some lease ↔
      (∃ offer handledMs, event = .offered offer handledMs ∧
        before.map Tracked.expectedMajor = some offer.majorVersion ∧
        event.answers serviceId offer.majorVersion = true ∧
        lease = (offer.providerAddr, leaseEnd offer handledMs)) ∨
      (before.bind Tracked.lease = some lease ∧ event.findsAnew serviceId = false ∧
        (∀ known, before = some known →
          event.answers serviceId known.expectedMajor = false) ∧
        event.expires lease.2 = false) := by
  cases before with
  | none =>
      cases event with
      | find wanted major succeeded =>
          simp only [track]
          split <;> simp
      | _ => simp [track]
  | some known =>
      cases event with
      | find wanted major succeeded =>
          simp only [track]
          split
          · next anew => simp [ConsumerEvent.findsAnew, anew.1, anew.2]
          · next other =>
              simp only [Option.bind_some, ConsumerEvent.findsAnew, ConsumerEvent.answers,
                ConsumerEvent.expires]
              simpa using fun _ => other
      | offered offer nowMs =>
          simp only [track, Option.map_some, Option.bind_some, Option.some.injEq]
          split
          · next answers =>
              have version : offer.majorVersion = known.expectedMajor := by
                simp only [ConsumerEvent.answers, Bool.and_eq_true, beq_iff_eq] at answers
                exact answers.2
              constructor
              · intro granted
                exact .inl ⟨offer, nowMs, rfl, version.symm, version ▸ answers,
                  (Option.some.inj granted).symm⟩
              · rintro (⟨granted, handled, same, -, -, lease⟩ | ⟨-, -, quiet, -⟩)
                · cases same
                  exact congrArg some lease.symm
                · exact absurd answers (by simp [quiet known rfl])
          · next silent =>
              constructor
              · intro kept
                refine .inr ⟨kept, rfl, ?_, rfl⟩
                rintro _ rfl
                simpa using silent
              · rintro (⟨granted, handled, same, version, answers, -⟩ | ⟨kept, -⟩)
                · cases same
                  exact absurd (version ▸ answers) silent
                · exact kept
      | processedFinds nowMs =>
          simp [track, ConsumerEvent.findsAnew, ConsumerEvent.answers, ConsumerEvent.expires]
      | processedTtls nowMs =>
          simp [track, ConsumerEvent.findsAnew, ConsumerEvent.answers, ConsumerEvent.expires,
            Option.filter_eq_some_iff]

/-- The lease of a service is the lease of the offer that answers its last `find`. -/
theorem trackAll_lease (serviceId : UInt16) (history : List (ConsumerEvent n))
    (lease : Address n × UInt32) :
    (trackAll serviceId history).bind Tracked.lease = some lease ↔
      ∃ offer handledMs newer older,
        history = newer ++ .offered offer handledMs :: older ∧
          AnsweredBy serviceId offer handledMs newer older ∧
          lease = (offer.providerAddr, leaseEnd offer handledMs) := by
  induction history with
  | nil => simp [trackAll]
  | cons event past ih =>
      have version := trackAll_expectedMajor serviceId past
      rw [trackAll, track_lease]
      constructor
      · rintro (⟨offer, handledMs, rfl, looked, answers, granted⟩ |
          ⟨kept, sameFind, quiet, unexpired⟩)
        · rw [version] at looked
          refine ⟨offer, handledMs, [], past, rfl, ?_, granted⟩
          exact ⟨looked, answers, by simp, by simp, by simp⟩
        · obtain ⟨offer, handledMs, newer, older, split, answered, granted⟩ := ih.mp kept
          have looked : lastFind serviceId past = some offer.majorVersion := by
            rw [split, lastFind_append _ _ answered.sameFind,
              lastFind_cons _ _ _ rfl]
            exact answered.looked
          obtain ⟨known, before, -⟩ := Option.bind_eq_some_iff.mp kept
          rw [before, looked] at version
          have silent := quiet known before
          rw [Option.some.inj version] at silent
          refine ⟨offer, handledMs, event :: newer, older, by rw [split]; rfl, ?_, granted⟩
          exact {
            looked := answered.looked
            answers := answered.answers
            sameFind := List.forall_mem_cons.mpr ⟨sameFind, answered.sameFind⟩
            mostRecent := List.forall_mem_cons.mpr ⟨silent, answered.mostRecent⟩
            unexpired := List.forall_mem_cons.mpr
              ⟨by rw [granted] at unexpired; exact unexpired, answered.unexpired⟩ }
      · rintro ⟨offer, handledMs, newer, older, split, answered, granted⟩
        cases newer with
        | nil =>
            obtain ⟨rfl, rfl⟩ := List.cons.inj split
            left
            refine ⟨offer, handledMs, rfl, ?_, answered.answers, granted⟩
            rw [version]
            exact answered.looked
        | cons head newer =>
            obtain ⟨rfl, pastSplit⟩ := List.cons.inj split
            have pastEq : past = newer ++ .offered offer handledMs :: older := pastSplit
            obtain ⟨sameFind, stillSame⟩ := List.forall_mem_cons.mp answered.sameFind
            obtain ⟨silent, stillRecent⟩ := List.forall_mem_cons.mp answered.mostRecent
            obtain ⟨unexpired, stillUnexpired⟩ := List.forall_mem_cons.mp answered.unexpired
            right
            refine ⟨ih.mpr ⟨offer, handledMs, newer, older, pastEq, ?_, granted⟩, sameFind, ?_, ?_⟩
            · exact ⟨answered.looked, answered.answers, stillSame, stillRecent,
                stillUnexpired⟩
            · intro known before
              rw [before, pastEq, lastFind_append _ _ stillSame, lastFind_cons _ _ _ rfl,
                answered.looked] at version
              rw [Option.some.inj version]
              exact silent
            · rw [granted]
              exact unexpired

/-! ## What the operations do to the table -/

namespace ServiceDiscovery

/-- What the table says of a service. -/
def tracked (sd : ServiceDiscovery cfg) (serviceId : UInt16) : Option (Tracked n) :=
  (sd.findConsumer serviceId).map ConsumerEntry.tracked

/-- What the table says of every entry. -/
def views (consumers : List (ConsumerEntry n)) : List (UInt16 × Tracked n) :=
  consumers.map fun entry => (entry.serviceId, entry.tracked)

theorem getProviderAddress_eq (sd : ServiceDiscovery cfg) (serviceId : UInt16) :
    sd.getProviderAddress serviceId =
      ((sd.tracked serviceId).bind Tracked.lease).map Prod.fst := by
  rw [getProviderAddress, tracked]
  cases sd.findConsumer serviceId with
  | none => rfl
  | some entry =>
      rw [Option.map_some, Option.bind_some, ConsumerEntry.tracked]
      by_cases isFound : entry.state = .found <;> simp [isFound]

theorem tracked_of_views {before after : ServiceDiscovery cfg}
    (same : views after.consumers = views before.consumers) (serviceId : UInt16) :
    after.tracked serviceId = before.tracked serviceId := by
  have looked : ∀ sd : ServiceDiscovery cfg, sd.tracked serviceId =
      (Table.lookup Prod.fst serviceId (views sd.consumers)).map Prod.snd := by
    intro sd
    rw [tracked, findConsumer, Table.lookup, Table.lookup, views, List.find?_map,
      Option.map_map]
    rfl
  rw [looked, looked, same]

theorem tracked_find (sd : ServiceDiscovery cfg) (serviceId : UInt16) (expectedMajor : UInt8)
    (nowMs : UInt32) (wanted : UInt16) :
    (sd.find serviceId expectedMajor nowMs).2.tracked wanted =
      track wanted (.find serviceId expectedMajor
        (sd.find serviceId expectedMajor nowMs).1) (sd.tracked wanted) := by
  rw [find]
  cases written : Table.upsert (fun entry => entry.serviceId == serviceId)
      (ConsumerEntry.search serviceId expectedMajor nowMs) {} cfg.maxKnownServices
      sd.consumers with
  | none => simp [track]
  | some consumers =>
      have looked := Table.lookup_upsert
        (ConsumerEntry.search_serviceId serviceId expectedMajor nowMs) written wanted
      change (Table.lookup ConsumerEntry.serviceId wanted consumers).map
        ConsumerEntry.tracked = _
      rw [looked]
      by_cases same : wanted = serviceId
      · simp [track, same, ConsumerEntry.tracked, ConsumerEntry.search]
      · rw [if_neg same, track, if_neg fun both => same both.2.symm]
        rfl

theorem find_length (sd : ServiceDiscovery cfg) (serviceId : UInt16) (expectedMajor : UInt8)
    (nowMs : UInt32) (fits : sd.consumers.length ≤ cfg.maxKnownServices) :
    (sd.find serviceId expectedMajor nowMs).2.consumers.length ≤ cfg.maxKnownServices := by
  rw [find]
  cases written : Table.upsert (fun entry => entry.serviceId == serviceId)
      (ConsumerEntry.search serviceId expectedMajor nowMs) {} cfg.maxKnownServices
      sd.consumers with
  | none => exact fits
  | some consumers =>
      rw [Table.upsert] at written
      split at written
      · cases written
        simpa using fits
      · split at written
        · next room =>
            cases written
            rw [List.length_append]
            exact room
        · cases written

/-- What a turn of `process_consumer_ttls` does to its entry. -/
def ConsumerEntry.expireAt (nowMs : UInt32) (entry : ConsumerEntry n) : ConsumerEntry n :=
  if entry.state = .found ∧ timeAfter nowMs entry.ttlExpiryMs then
    { entry with state := .notFound, sessionValid := false }
  else entry

theorem ConsumerEntry.expireAt_serviceId (nowMs : UInt32) (entry : ConsumerEntry n) :
    (ConsumerEntry.expireAt nowMs entry).serviceId = entry.serviceId := by
  rw [ConsumerEntry.expireAt]
  split <;> rfl

theorem ConsumerEntry.expireAt_tracked (nowMs : UInt32) (entry : ConsumerEntry n) :
    (ConsumerEntry.expireAt nowMs entry).tracked =
      { entry.tracked with
        lease := entry.tracked.lease.filter fun lease => !timeAfter nowMs lease.2 } := by
  rw [ConsumerEntry.expireAt]
  by_cases isFound : entry.state = .found
  · by_cases late : timeAfter nowMs entry.ttlExpiryMs = true
    · simp [ConsumerEntry.tracked, isFound, late, Option.filter]
    · simp [ConsumerEntry.tracked, isFound, late, Option.filter]
  · simp [ConsumerEntry.tracked, isFound]

section Quiet

variable {lens : Lens σ (ServiceDiscovery cfg)} {hooks : Hooks n σ}

theorem callServiceLost_consumers (quiet : QuietHooks lens hooks) (serviceId : UInt16)
    (state : σ) :
    (lens.get (callServiceLost lens hooks serviceId state)).consumers =
      (lens.get state).consumers := by
  rw [callServiceLost]
  split
  · exact quiet.onServiceLost serviceId state
  · rfl

theorem callServiceFound_consumers (quiet : QuietHooks lens hooks) (serviceId : UInt16)
    (provider : Address n) (state : σ) :
    (lens.get (callServiceFound lens hooks serviceId provider state)).consumers =
      (lens.get state).consumers := by
  rw [callServiceFound]
  split
  · exact quiet.onServiceFound serviceId provider state
  · rfl

/-- Searching, or given up: either way not found. -/
theorem processFind_views (quiet : QuietHooks lens hooks) (nowMs : UInt32) (state : σ)
    (index : Nat) :
    views (lens.get (processFind lens hooks nowMs state index)).consumers =
      views (lens.get state).consumers := by
  rw [processFind]
  split
  · rfl
  · next entry here =>
      split
      · next due =>
          have sent := quiet.broadcast (.find entry.serviceId) state
          dsimp only
          split
          · rw [callServiceLost_consumers quiet, Lens.get_modify, giveUpFind, updateConsumerAt,
              sent]
            apply Table.map_modify_at
            intro other same
            cases here.symm.trans same
            simp [ConsumerEntry.tracked, due.1]
          · rw [Lens.get_modify, scheduleRetry, updateConsumerAt, sent]
            apply Table.map_modify_at
            intro other _
            rfl
      · rfl

theorem processFinds_views (quiet : QuietHooks lens hooks) (nowMs : UInt32) (state : σ) :
    views (lens.get (processFinds lens hooks nowMs state)).consumers =
      views (lens.get state).consumers := by
  rw [processFinds]
  induction List.range cfg.maxKnownServices generalizing state with
  | nil => rfl
  | cons index rest ih =>
      rw [List.foldl_cons, ih, processFind_views quiet]

theorem processConsumerTtl_consumers (quiet : QuietHooks lens hooks) (nowMs : UInt32)
    (state : σ) (index : Nat) :
    (lens.get (processConsumerTtl lens hooks nowMs state index)).consumers =
      (lens.get state).consumers.modify index (ConsumerEntry.expireAt nowMs) := by
  apply List.ext_getElem?
  intro position
  rw [processConsumerTtl, List.getElem?_modify]
  cases here : (lens.get state).consumers[index]? with
  | none =>
      by_cases same : index = position
      · subst same
        simp [here]
      · simp [same]
  | some entry =>
      dsimp only
      split
      · next due =>
          rw [callServiceLost_consumers quiet, quiet.onPeerExpired, Lens.get_modify,
            expireConsumer, updateConsumerAt, List.getElem?_modify]
          by_cases same : index = position
          · subst same
            simp [here, ConsumerEntry.expireAt, due]
          · simp [same]
      · next notDue =>
          by_cases same : index = position
          · subst same
            simp [here, ConsumerEntry.expireAt, notDue]
          · simp [same]

theorem processConsumerTtls_consumers (quiet : QuietHooks lens hooks) (nowMs : UInt32)
    (state : σ) (fits : (lens.get state).consumers.length ≤ cfg.maxKnownServices) :
    (lens.get (processConsumerTtls lens hooks nowMs state)).consumers =
      (lens.get state).consumers.map (ConsumerEntry.expireAt nowMs) := by
  have turns : ∀ (indices : List Nat) (state : σ),
      (lens.get (indices.foldl (processConsumerTtl lens hooks nowMs) state)).consumers =
        indices.foldl (fun table index => table.modify index (ConsumerEntry.expireAt nowMs))
          (lens.get state).consumers := by
    intro indices
    induction indices with
    | nil => exact fun _ => rfl
    | cons index rest ih =>
        intro state
        rw [List.foldl_cons, List.foldl_cons, ih, processConsumerTtl_consumers quiet]
  rw [processConsumerTtls, turns]
  exact Table.foldl_modify _ fits

theorem tracked_processConsumerTtls (quiet : QuietHooks lens hooks) (nowMs : UInt32)
    (state : σ) (fits : (lens.get state).consumers.length ≤ cfg.maxKnownServices)
    (wanted : UInt16) :
    (lens.get (processConsumerTtls lens hooks nowMs state)).tracked wanted =
      track wanted (.processedTtls nowMs) ((lens.get state).tracked wanted) := by
  rw [tracked, findConsumer, processConsumerTtls_consumers quiet nowMs state fits,
    Table.lookup_map (ConsumerEntry.expireAt_serviceId nowMs)]
  rw [track, tracked, findConsumer, Option.map_map, Option.map_map]
  congr 1
  funext entry
  exact ConsumerEntry.expireAt_tracked nowMs entry

/-- An accepted offer is recorded and the service marked as found, if it is not. -/
theorem handleOffer_consumers (quiet : QuietHooks lens hooks) {offer : SdPayload.Offer n}
    {nowMs : UInt32} {state : σ} {entry : ConsumerEntry n} (hasTtl : offer.ttlSeconds ≠ 0)
    (known : (lens.get state).findConsumer offer.serviceId = some entry)
    (version : offer.majorVersion = entry.expectedMajor) :
    let recorded := (lens.get state).recordOffer offer.serviceId offer.ttlSeconds
      offer.sessionId offer.providerAddr nowMs
    let after := lens.get (handleOffer lens hooks offer.serviceId offer.majorVersion
      offer.ttlSeconds offer.sessionId offer.providerAddr nowMs state)
    after.consumers = (recorded.markFound offer.serviceId).consumers ∨
      entry.state = .found ∧ after.consumers = recorded.consumers := by
  have marks : ∀ {sd other : ServiceDiscovery cfg}, sd.consumers = other.consumers →
      (sd.markFound offer.serviceId).consumers =
        (other.markFound offer.serviceId).consumers := by
    intro sd other same
    simp only [markFound, updateConsumer, same]
  have flags : ∀ sd : ServiceDiscovery cfg,
      (sd.flagResubscribe offer.serviceId nowMs).consumers = sd.consumers := fun _ => rfl
  dsimp only
  rw [handleOffer, if_neg hasTtl, known]
  dsimp only
  rw [if_neg (not_not.mpr version)]
  split
  · left
    rw [Lens.get_modify, flags, callServiceFound_consumers quiet, Lens.get_modify]
    apply marks
    rw [callServiceLost_consumers quiet, Lens.get_modify]
  · split
    · left
      rw [callServiceFound_consumers quiet, Lens.get_modify, flags, Lens.get_modify,
        Lens.get_modify]
    · next found =>
        right
        refine ⟨not_not.mp found, ?_⟩
        split
        · rw [callServiceFound_consumers quiet, Lens.get_modify, flags, Lens.get_modify]
        · rw [Lens.get_modify]

theorem findConsumer_handleOffer (quiet : QuietHooks lens hooks) {offer : SdPayload.Offer n}
    {nowMs : UInt32} {state : σ} {entry : ConsumerEntry n} (hasTtl : offer.ttlSeconds ≠ 0)
    (known : (lens.get state).findConsumer offer.serviceId = some entry)
    (version : offer.majorVersion = entry.expectedMajor) (wanted : UInt16) :
    (lens.get (handleOffer lens hooks offer.serviceId offer.majorVersion offer.ttlSeconds
        offer.sessionId offer.providerAddr nowMs state)).findConsumer wanted =
      if wanted = offer.serviceId then
        some { entry with
          providerAddr := offer.providerAddr
          ttlExpiryMs := leaseEnd offer nowMs
          sessionId := offer.sessionId
          sessionValid := true
          state := .found }
      else (lens.get state).findConsumer wanted := by
  have ofTable : ∀ {sd other : ServiceDiscovery cfg}, sd.consumers = other.consumers →
      sd.findConsumer wanted = other.findConsumer wanted := by
    intro sd other same
    rw [findConsumer, same]
    rfl
  have recorded : ((lens.get state).recordOffer offer.serviceId offer.ttlSeconds
      offer.sessionId offer.providerAddr nowMs).findConsumer wanted =
      if wanted = offer.serviceId then
        ((lens.get state).findConsumer wanted).map fun entry =>
          { entry with
            providerAddr := offer.providerAddr
            ttlExpiryMs := leaseEnd offer nowMs
            sessionId := offer.sessionId
            sessionValid := true }
      else (lens.get state).findConsumer wanted := by
    rw [recordOffer, findConsumer_updateConsumer]
    · rfl
    · exact fun _ => rfl
  have marked : ∀ sd : ServiceDiscovery cfg,
      (sd.markFound offer.serviceId).findConsumer wanted =
        if wanted = offer.serviceId then
          (sd.findConsumer wanted).map fun entry => { entry with state := .found }
        else sd.findConsumer wanted := by
    intro sd
    rw [markFound, findConsumer_updateConsumer]
    exact fun _ => rfl
  rcases handleOffer_consumers quiet hasTtl known version with both | ⟨found, once⟩
  · rw [ofTable both, marked, recorded]
    by_cases same : wanted = offer.serviceId
    · subst same
      simp [known]
    · simp [same]
  · rw [ofTable once, recorded]
    by_cases same : wanted = offer.serviceId
    · subst same
      simp [known, found]
    · simp [same]

/-- An offer is recorded if it answers what is looked for, and is ignored otherwise. -/
theorem tracked_handleOffer (quiet : QuietHooks lens hooks) (offer : SdPayload.Offer n)
    (nowMs : UInt32) (state : σ) (wanted : UInt16) :
    (lens.get (handleOffer lens hooks offer.serviceId offer.majorVersion offer.ttlSeconds
        offer.sessionId offer.providerAddr nowMs state)).tracked wanted =
      track wanted (.offered offer nowMs) ((lens.get state).tracked wanted) := by
  have ignored : ∀ known : Option (Tracked n),
      (∀ view, known = some view →
        (ConsumerEvent.offered offer nowMs).answers wanted view.expectedMajor = false) →
      known = track wanted (.offered offer nowMs) known := by
    intro known silent
    cases known with
    | none => rfl
    | some view => simp [track, silent view rfl]
  by_cases noTtl : offer.ttlSeconds = 0
  · rw [handleOffer, if_pos noTtl]
    apply ignored
    intro view _
    simp [ConsumerEvent.answers, noTtl]
  · cases known : (lens.get state).findConsumer offer.serviceId with
    | none =>
        rw [handleOffer, if_neg noTtl, known]
        apply ignored
        intro view tracked
        have different : offer.serviceId ≠ wanted := by
          rintro rfl
          rw [ServiceDiscovery.tracked, known] at tracked
          cases tracked
        simp [ConsumerEvent.answers, different]
    | some entry =>
        by_cases version : offer.majorVersion = entry.expectedMajor
        · rw [tracked, findConsumer_handleOffer quiet noTtl known version]
          by_cases same : wanted = offer.serviceId
          · subst same
            simp [tracked, known, track, ConsumerEntry.tracked, ConsumerEvent.answers, noTtl,
              version]
          · rw [if_neg same]
            apply ignored
            intro view _
            simp [ConsumerEvent.answers, Ne.symm same]
        · rw [handleOffer, if_neg noTtl, known]
          dsimp only
          rw [if_pos version]
          apply ignored
          intro view tracked
          by_cases same : offer.serviceId = wanted
          · subst same
            rw [ServiceDiscovery.tracked, known] at tracked
            cases tracked
            simp [ConsumerEvent.answers, ConsumerEntry.tracked, version]
          · simp [ConsumerEvent.answers, same]

/-- No operation lets the table outgrow its array. -/
theorem handleOffer_length (quiet : QuietHooks lens hooks) (offer : SdPayload.Offer n)
    (nowMs : UInt32) (state : σ) :
    (lens.get (handleOffer lens hooks offer.serviceId offer.majorVersion offer.ttlSeconds
        offer.sessionId offer.providerAddr nowMs state)).consumers.length =
      (lens.get state).consumers.length := by
  by_cases noTtl : offer.ttlSeconds = 0
  · rw [handleOffer, if_pos noTtl]
  · cases known : (lens.get state).findConsumer offer.serviceId with
    | none => rw [handleOffer, if_neg noTtl, known]
    | some entry =>
        by_cases version : offer.majorVersion = entry.expectedMajor
        · rcases handleOffer_consumers quiet noTtl known version with both | ⟨-, once⟩
          · rw [both, markFound, updateConsumer, recordOffer, updateConsumer,
              Table.updateFirst_length, Table.updateFirst_length]
          · rw [once, recordOffer, updateConsumer, Table.updateFirst_length]
        · rw [handleOffer, if_neg noTtl, known]
          dsimp only
          rw [if_pos version]

end Quiet

end ServiceDiscovery

/-! ## The table against the history -/

section Run

variable {lens : Lens σ (ServiceDiscovery cfg)} {hooks : Hooks n σ}

/-- The table says what the history says. -/
structure TableAgrees (sd : ServiceDiscovery cfg) (history : List (ConsumerEvent n)) :
    Prop where
  tracked : ∀ serviceId, sd.tracked serviceId = trackAll serviceId history
  fits : sd.consumers.length ≤ cfg.maxKnownServices

theorem ConsumerRun.tableAgrees (quiet : QuietHooks lens hooks) {start state : σ}
    (fresh : (lens.get start).consumers = []) {history : List (ConsumerEvent n)}
    (run : ConsumerRun lens hooks start history state) :
    TableAgrees (lens.get state) history := by
  induction run with
  | start =>
      constructor
      · intro serviceId
        rw [tracked, findConsumer, fresh]
        rfl
      · simp [fresh]
  | find serviceId expectedMajor nowMs _ ih =>
      constructor
      · intro wanted
        rw [Lens.get_modify, tracked_find, ih.tracked]
        rfl
      · rw [Lens.get_modify]
        exact find_length _ serviceId expectedMajor nowMs ih.fits
  | offered offer nowMs _ ih =>
      constructor
      · intro wanted
        rw [tracked_handleOffer quiet, ih.tracked]
        rfl
      · rw [handleOffer_length quiet]
        exact ih.fits
  | @processedFinds _ state nowMs _ ih =>
      have same := processFinds_views quiet nowMs state
      constructor
      · intro wanted
        rw [tracked_of_views same, ih.tracked]
        rfl
      · have lengths := congrArg List.length same
        rw [views, views, List.length_map, List.length_map] at lengths
        rw [lengths]
        exact ih.fits
  | processedTtls nowMs _ ih =>
      constructor
      · intro wanted
        rw [tracked_processConsumerTtls quiet nowMs _ ih.fits, ih.tracked]
        rfl
      · rw [processConsumerTtls_consumers quiet nowMs _ ih.fits, List.length_map]
        exact ih.fits

/-- `get_provider_address` gives an address exactly when an offer answers the last
successful `find` and no pass came after the end of its lease, and it is that offer's. -/
theorem provider_address_by_history (quiet : QuietHooks lens hooks) {start state : σ}
    (fresh : (lens.get start).consumers = []) {history : List (ConsumerEvent n)}
    (run : ConsumerRun lens hooks start history state) (serviceId : UInt16)
    (address : Address n) :
    (lens.get state).getProviderAddress serviceId = some address ↔
      ∃ offer handledMs newer older,
        history = newer ++ .offered offer handledMs :: older ∧
          AnsweredBy serviceId offer handledMs newer older ∧
          offer.providerAddr = address := by
  rw [getProviderAddress_eq, (run.tableAgrees quiet fresh).tracked, Option.map_eq_some_iff]
  constructor
  · rintro ⟨lease, granted, rfl⟩
    obtain ⟨offer, handledMs, newer, older, split, answered, rfl⟩ :=
      (trackAll_lease serviceId history lease).mp granted
    exact ⟨offer, handledMs, newer, older, split, answered, rfl⟩
  · rintro ⟨offer, handledMs, newer, older, split, answered, rfl⟩
    refine ⟨(offer.providerAddr, leaseEnd offer handledMs), ?_, rfl⟩
    rw [trackAll_lease]
    exact ⟨offer, handledMs, newer, older, split, answered, rfl⟩

/-- Surroundings without an application. -/
def silentHooks (n : Nat) (σ : Type) : Hooks n σ where
  broadcast _ := id
  onPeerExpired _ := id
  onServiceFound _ _ := id
  onServiceLost _ := id
  onSubscriptionAck _ _ _ _ := id

theorem silentHooks_quiet (lens : Lens σ (ServiceDiscovery cfg)) :
    QuietHooks lens (silentHooks n σ) :=
  ⟨fun _ _ => rfl, fun _ _ => rfl, fun _ _ _ => rfl, fun _ _ => rfl⟩

/-- A device without an application that looks for a service and is offered it. -/
def leasedConsumer : ServiceDiscovery embeddedConfig :=
  let sought := (ServiceDiscovery.find {} 7 1 50).2
  handleOffer Lens.self (silentHooks 8 _) 7 1 1 5 (Address.filled 8 9) 100 sought

/-- At the last millisecond of its lease the service is still found. -/
theorem provider_address_by_history_leased :
    (processConsumerTtls Lens.self (silentHooks 8 _) 1100 leasedConsumer).getProviderAddress
      7 = some (Address.filled 8 9) := by
  let offer : SdPayload.Offer 8 := ⟨7, 1, 0, 1, 5, Address.filled 8 9⟩
  have run : ConsumerRun Lens.self (silentHooks 8 (ServiceDiscovery embeddedConfig)) {}
      [.processedTtls 1100, .offered offer 100, .find 7 1 true]
      (processConsumerTtls Lens.self (silentHooks 8 _) 1100 leasedConsumer) :=
    .processedTtls 1100 (.offered offer 100 (.find 7 1 50 .start))
  apply (provider_address_by_history (silentHooks_quiet _) rfl run 7 _).mpr
  refine ⟨offer, 100, [.processedTtls 1100], [.find 7 1 true], rfl, ?_, rfl⟩
  exact ⟨rfl, by decide, by decide, by decide, by decide⟩

end Run

end Sero
