import Sero.Service.Diagnostics

/-!
# The trouble-code store as a bounded map

What the store is for: of each code it keeps what has been reported since the code was last
cleared, of at most so many codes at a time.  A refused report leaves no trace, so it is not
among these reports.
-/

namespace Sero

open Library

variable {n : Nat}

/-! ## Reports -/

structure DtcReport where
  severity : DtcSeverity
  timeMs : UInt32
  deriving DecidableEq

/-- The reports of each code since it was last cleared, the latest first. -/
abbrev ReportLog := UInt16 → List DtcReport

/-- A call that writes the store. -/
inductive DtcCall where
  | report (code : UInt16) (severity : DtcSeverity) (nowMs : UInt32)
  | clear (code : UInt16)
  | clearAll
  deriving DecidableEq

namespace ReportLog

/-- The codes that have been reported since they were last cleared. -/
def present (log : ReportLog) : Set UInt16 :=
  {code | log code ≠ []}

open Classical in
/-- What a call is for, and what it returns. -/
noncomputable def perform (maxDtcs : Nat) (log : ReportLog) : DtcCall → Option Bool × ReportLog
  | .report code severity nowMs =>
      if code ∈ log.present ∨ log.present.ncard < maxDtcs then
        (some true, Function.update log code ({ severity, timeMs := nowMs } :: log code))
      else (some false, log)
  | .clear code => (some (decide (code ∈ log.present)), Function.update log code [])
  | .clearAll => (none, fun _ => [])

/-- The log after calls, the latest first. -/
noncomputable def afterCalls (maxDtcs : Nat) : List DtcCall → ReportLog
  | [] => fun _ => []
  | call :: earlier => (perform maxDtcs (afterCalls maxDtcs earlier) call).2

end ReportLog

/-- The entry of a code: severity and time of the latest report, the time of the first, and
how many there have been as far as the counter goes. -/
def entryOf (code : UInt16) : List DtcReport → Option Dtc
  | [] => none
  | latest :: earlier =>
      some {
        code
        severity := latest.severity.toByte
        occurrenceCount := UInt32.ofNat (min (latest :: earlier).length 0xFFFFFFFF)
        firstSeenMs := ((latest :: earlier).getLast (by simp)).timeMs
        lastSeenMs := latest.timeMs }

theorem entryOf_isSome (code : UInt16) (reports : List DtcReport) :
    (entryOf code reports).isSome = true ↔ reports ≠ [] := by
  cases reports <;> simp [entryOf]

/-- A counter that stops at its largest value counts as far as it goes. -/
theorem count_succ (reports : Nat) :
    (if UInt32.ofNat (min reports 0xFFFFFFFF) < 0xFFFFFFFF then
      UInt32.ofNat (min reports 0xFFFFFFFF) + 1
    else UInt32.ofNat (min reports 0xFFFFFFFF)) =
      UInt32.ofNat (min (reports + 1) 0xFFFFFFFF) := by
  rcases Nat.lt_or_ge reports 0xFFFFFFFF with below | full
  · have following : reports + 1 ≤ 0xFFFFFFFF := below
    rw [Nat.min_eq_left (Nat.le_of_lt below), Nat.min_eq_left following, UInt32.ofNat_add]
    apply if_pos
    rw [UInt32.lt_iff_toNat_lt, UInt32.toNat_ofNat_of_lt' (Nat.lt_succ_of_lt below)]
    exact below
  · rw [Nat.min_eq_right full, Nat.min_eq_right (Nat.le_succ_of_le full)]
    exact if_neg (UInt32.lt_irrefl 0xFFFFFFFF)

/-! ## The store -/

namespace DtcStore

variable {cfg : Config n} {store : DtcStore cfg}

def perform (store : DtcStore cfg) : DtcCall → Option Bool × DtcStore cfg
  | .report code severity nowMs =>
      let (success, store) := store.report code severity nowMs
      (some success, store)
  | .clear code =>
      let (success, store) := store.clear code
      (some success, store)
  | .clearAll => (none, store.clearAll)

/-- The store after calls, the latest first. -/
def afterCalls : List DtcCall → DtcStore cfg
  | [] => {}
  | call :: earlier => ((afterCalls earlier).perform call).2

/-- Every entry is active, and no code is stored twice. -/
structure Keyed (store : DtcStore cfg) : Prop where
  active : ∀ dtc ∈ store.dtcs, dtc.active = true
  distinct : Table.Distinct Dtc.code store.dtcs

/-- Among active entries the loop test compares codes. -/
theorem Keyed.holds_eq (keyed : store.Keyed) (code : UInt16) :
    ∀ dtc ∈ store.dtcs, holds code dtc = (dtc.code == code) := by
  intro dtc member
  rw [holds, keyed.active dtc member, Bool.true_and]

theorem Keyed.find_eq (keyed : store.Keyed) (code : UInt16) :
    store.find code = Table.lookup Dtc.code code store.dtcs :=
  List.find?_congr (keyed.holds_eq code)

theorem Keyed.forEach_eq (keyed : store.Keyed) : store.forEach = store.dtcs :=
  List.filter_eq_self.mpr keyed.active

theorem mem_clear {code : UInt16} {dtc : Dtc} (member : dtc ∈ (store.clear code).2.dtcs) :
    dtc ∈ store.dtcs := by
  rw [clear] at member
  split at member
  · exact List.mem_of_mem_eraseP ((Table.swapRemove_perm _ _).mem_iff.mp member)
  · exact member

theorem Keyed.clear (keyed : store.Keyed) (code : UInt16) : (store.clear code).2.Keyed where
  active dtc member := keyed.active dtc (mem_clear member)
  distinct := by
    rw [DtcStore.clear]
    split
    · exact keyed.distinct.swapRemove _
    · exact keyed.distinct

/-- What a report does to the entry of its code. -/
def reported (code : UInt16) (severity : DtcSeverity) (nowMs : UInt32) (dtc : Dtc) : Dtc :=
  { dtc with
    code
    severity := severity.toByte
    occurrenceCount :=
      if dtc.occurrenceCount < 0xFFFFFFFF then dtc.occurrenceCount + 1 else dtc.occurrenceCount
    lastSeenMs := nowMs }

/-- The entry of a code before its first report. -/
def unreported (code : UInt16) (nowMs : UInt32) : Dtc where
  code
  severity := 0
  occurrenceCount := 0
  firstSeenMs := nowMs
  lastSeenMs := nowMs

theorem reported_code (code : UInt16) (severity : DtcSeverity) (nowMs : UInt32) (dtc : Dtc) :
    (reported code severity nowMs dtc).code = code := rfl

/-- Is there an entry of the code? -/
theorem any_holds (store : DtcStore cfg) (code : UInt16) :
    store.dtcs.any (holds code) = (store.find code).isSome :=
  List.isSome_find?.symm

section Report

variable {code : UInt16} {severity : DtcSeverity} {nowMs : UInt32}

theorem Keyed.report_eq (keyed : store.Keyed) (code : UInt16) (severity : DtcSeverity)
    (nowMs : UInt32) :
    store.report code severity nowMs =
      match Table.upsert (fun dtc => dtc.code == code) (reported code severity nowMs)
          (unreported code nowMs) cfg.maxDtcs store.dtcs with
      | none => (false, store)
      | some dtcs => (true, { dtcs }) := by
  have known : store.dtcs.any (holds code) = store.dtcs.any fun dtc => dtc.code == code := by
    rw [any_holds, keyed.find_eq, Table.any_eq_isSome]
  have written : Table.updateFirst (holds code) (fun dtc => { dtc with
      severity := severity.toByte
      occurrenceCount :=
        if dtc.occurrenceCount < 0xFFFFFFFF then dtc.occurrenceCount + 1 else dtc.occurrenceCount
      lastSeenMs := nowMs }) store.dtcs =
      Table.updateFirst (fun dtc => dtc.code == code) (reported code severity nowMs)
        store.dtcs := by
    rw [Table.updateFirst_congr_test (keyed.holds_eq code)]
    apply Table.updateFirst_congr
    intro dtc here
    rw [← eq_of_beq here]
    rfl
  rw [DtcStore.report, Table.upsert, known, written]
  split
  · rfl
  · split <;> rfl

/-- A report is refused if its code has no entry and there is room for no other. -/
theorem Keyed.report_refused_iff (keyed : store.Keyed) :
    (store.report code severity nowMs).1 = false ↔
      store.find code = none ∧ cfg.maxDtcs ≤ store.count := by
  rw [keyed.report_eq, keyed.find_eq, count,
    ← @Table.upsert_eq_none_iff _ _ _ _ _ (reported code severity nowMs) (unreported code nowMs)]
  split
  · next refused => simp [refused]
  · next written => simp [written]

theorem report_refused (refused : (store.report code severity nowMs).1 = false) :
    (store.report code severity nowMs).2 = store := by
  rw [report] at refused ⊢
  split at refused
  · cases refused
  · next fresh =>
      split at refused
      · cases refused
      · next full => rw [if_neg fresh, if_neg full]

theorem Keyed.report (keyed : store.Keyed) (code : UInt16) (severity : DtcSeverity)
    (nowMs : UInt32) : (store.report code severity nowMs).2.Keyed := by
  rw [keyed.report_eq]
  split
  · exact keyed
  · next dtcs written =>
      constructor
      · intro dtc member
        rw [Table.upsert] at written
        split at written
        · cases written
          rcases Table.mem_updateFirst member with old | ⟨earlier, old, rfl⟩
          · exact keyed.active dtc old
          · exact keyed.active earlier old
        · split at written
          · cases written
            rcases List.mem_append.mp member with old | new
            · exact keyed.active dtc old
            · rw [List.mem_singleton.mp new]
              rfl
          · cases written
      · exact keyed.distinct.upsert (reported_code code severity nowMs) written

/-- A report is seen under its code only. -/
theorem Keyed.find_report (keyed : store.Keyed)
    (accepted : (store.report code severity nowMs).1 = true) (wanted : UInt16) :
    (store.report code severity nowMs).2.find wanted =
      if wanted = code then
        some (reported code severity nowMs ((store.find code).getD (unreported code nowMs)))
      else store.find wanted := by
  rw [(keyed.report code severity nowMs).find_eq, keyed.find_eq, keyed.find_eq]
  rw [keyed.report_eq] at accepted ⊢
  split at accepted
  · cases accepted
  · next dtcs written =>
      exact Table.lookup_upsert (reported_code code severity nowMs) written wanted

theorem Keyed.mem_iff (keyed : store.Keyed) {dtc : Dtc} :
    dtc ∈ store.dtcs ↔ store.find dtc.code = some dtc := by
  rw [keyed.find_eq, keyed.distinct.lookup_iff, and_iff_left rfl]

/-- After a report, its code has been seen now, for the first time or again, and the others are
as they were. -/
theorem Keyed.mem_report (keyed : store.Keyed) {dtc : Dtc}
    (accepted : (store.report code severity nowMs).1 = true)
    (member : dtc ∈ (store.report code severity nowMs).2.dtcs) :
    (dtc ∈ store.dtcs ∧ dtc.code ≠ code) ∨
      (dtc.code = code ∧ dtc.lastSeenMs = nowMs ∧
        (dtc.firstSeenMs = nowMs ∨
          ∃ earlier ∈ store.dtcs, dtc.firstSeenMs = earlier.firstSeenMs)) := by
  rw [(keyed.report code severity nowMs).mem_iff, keyed.find_report accepted] at member
  split at member
  · next own =>
      refine .inr ⟨own, ?_⟩
      cases found : store.find code with
      | none =>
          rw [found] at member
          cases member
          exact ⟨rfl, .inl rfl⟩
      | some earlier =>
          rw [found] at member
          cases member
          exact ⟨rfl, .inr ⟨earlier, List.mem_of_find?_eq_some found, rfl⟩⟩
  · next other => exact .inl ⟨keyed.mem_iff.mpr member, other⟩

end Report

theorem clear_fst (store : DtcStore cfg) (code : UInt16) :
    (store.clear code).1 = (store.find code).isSome := by
  rw [clear, ← any_holds]
  cases store.dtcs.any (holds code) <;> rfl

/-- Clearing removes the entry of the code and no other. -/
theorem Keyed.find_clear (keyed : store.Keyed) (code wanted : UInt16) :
    (store.clear code).2.find wanted = if wanted = code then none else store.find wanted := by
  rw [(keyed.clear code).find_eq, keyed.find_eq, DtcStore.clear]
  split
  · rw [Table.swapRemove_congr (keyed.holds_eq code)]
    exact keyed.distinct.lookup_swapRemove code wanted
  · next unknown =>
      split
      · next own =>
          rw [own, ← keyed.find_eq, find, List.find?_eq_none]
          simpa using unknown
      · rfl

/-! ## What the store denotes -/

/-- The log a store stands for. -/
structure Denotes (store : DtcStore cfg) (log : ReportLog) : Prop where
  keyed : store.Keyed
  bounded : store.count ≤ cfg.maxDtcs
  find_eq : ∀ code, store.find code = entryOf code (log code)

/-- The entry of a code after one more report. -/
theorem reported_entryOf (code : UInt16) (severity : DtcSeverity) (nowMs : UInt32)
    (reports : List DtcReport) :
    some (reported code severity nowMs ((entryOf code reports).getD (unreported code nowMs))) =
      entryOf code ({ severity, timeMs := nowMs } :: reports) := by
  cases reports with
  | nil => rfl
  | cons latest earlier =>
      have counted := count_succ (latest :: earlier).length
      rw [entryOf, Option.getD_some, reported, counted]
      rfl

namespace Denotes

variable {log : ReportLog}

theorem initial : Denotes ({} : DtcStore cfg) (fun _ => []) where
  keyed := ⟨fun _ member => absurd member List.not_mem_nil, List.nodup_nil⟩
  bounded := Nat.zero_le _
  find_eq _ := rfl

theorem mem_present (denotes : Denotes store log) (code : UInt16) :
    code ∈ log.present ↔ (store.find code).isSome = true := by
  rw [denotes.find_eq, entryOf_isSome]
  rfl

theorem ncard_present (denotes : Denotes store log) : log.present.ncard = store.count := by
  rw [count, ← denotes.keyed.distinct.ncard_lookup]
  congr 1
  ext code
  rw [denotes.mem_present, denotes.keyed.find_eq]
  rfl

/-- The store refuses a report exactly if there is no room for it in the log. -/
theorem refused_iff (denotes : Denotes store log) {code : UInt16} {severity : DtcSeverity}
    {nowMs : UInt32} :
    (store.report code severity nowMs).1 = false ↔
      ¬(code ∈ log.present ∨ log.present.ncard < cfg.maxDtcs) := by
  rw [denotes.keyed.report_refused_iff, denotes.mem_present, denotes.ncard_present, not_or,
    Nat.not_lt, Option.not_isSome_iff_eq_none]

theorem report (denotes : Denotes store log) {code : UInt16} {severity : DtcSeverity}
    {nowMs : UInt32} (accepted : (store.report code severity nowMs).1 = true) :
    Denotes (store.report code severity nowMs).2
      (Function.update log code ({ severity, timeMs := nowMs } :: log code)) where
  keyed := denotes.keyed.report code severity nowMs
  bounded := by
    rw [denotes.keyed.report_eq]
    split
    · exact denotes.bounded
    · next written => exact Table.upsert_length_le written denotes.bounded
  find_eq wanted := by
    rw [denotes.keyed.find_report accepted, Function.update_apply]
    split
    · next own => rw [own, denotes.find_eq, reported_entryOf]
    · exact denotes.find_eq wanted

theorem clear (denotes : Denotes store log) (code : UInt16) :
    Denotes (store.clear code).2 (Function.update log code []) where
  keyed := denotes.keyed.clear code
  bounded := by
    rw [DtcStore.clear]
    split
    · exact (Table.swapRemove_length_le _ _).trans denotes.bounded
    · exact denotes.bounded
  find_eq wanted := by
    rw [denotes.keyed.find_clear, Function.update_apply]
    split
    · rfl
    · exact denotes.find_eq wanted

/-- A call returns what it is for, and does to the log what it is for. -/
theorem perform (denotes : Denotes store log) (call : DtcCall) :
    (store.perform call).1 = (log.perform cfg.maxDtcs call).1 ∧
      Denotes (store.perform call).2 (log.perform cfg.maxDtcs call).2 := by
  cases call with
  | report code severity nowMs =>
      have refused := @refused_iff _ _ store log denotes code severity nowMs
      simp only [DtcStore.perform, ReportLog.perform]
      cases answer : (store.report code severity nowMs).1 with
      | false =>
          rw [if_neg (refused.mp answer), report_refused answer]
          exact ⟨rfl, denotes⟩
      | true =>
          have room := Classical.not_not.mp fun full =>
            Bool.eq_false_iff.mp (refused.mpr full) answer
          rw [if_pos room]
          exact ⟨rfl, denotes.report answer⟩
  | clear code =>
      classical
      refine ⟨?_, denotes.clear code⟩
      simp only [DtcStore.perform, ReportLog.perform, clear_fst, Option.some.injEq]
      exact Bool.eq_iff_iff.mpr ((denotes.mem_present code).symm.trans decide_eq_true_iff.symm)
  | clearAll => exact ⟨rfl, initial⟩

theorem afterCalls (calls : List DtcCall) :
    Denotes (DtcStore.afterCalls calls : DtcStore cfg)
      (ReportLog.afterCalls cfg.maxDtcs calls) := by
  induction calls with
  | nil => exact initial
  | cons call earlier ih => exact (ih.perform call).2

end Denotes

/-- After any calls the store holds, each once and at most `MaxDtcs`, the entries of the codes
that the log has reports of; each call returns what it is for. -/
theorem refines_log (calls : List DtcCall) :
    let store : DtcStore cfg := afterCalls calls
    let log := ReportLog.afterCalls cfg.maxDtcs calls
    (store.forEach.map Dtc.code).Nodup ∧ store.count ≤ cfg.maxDtcs ∧
      store.count = log.present.ncard ∧
      (∀ code, store.find code = entryOf code (log code)) ∧
      (∀ dtc, dtc ∈ store.forEach ↔ entryOf dtc.code (log dtc.code) = some dtc) ∧
      (∀ call, (store.perform call).1 = (log.perform cfg.maxDtcs call).1) ∧
      (∀ code severity nowMs, (store.report code severity nowMs).1 = false ↔
        log code = [] ∧ log.present.ncard = cfg.maxDtcs) ∧
      (∀ code severity nowMs, (store.report code severity nowMs).1 = false →
        (store.report code severity nowMs).2 = store) ∧
      ∀ code, (store.clear code).1 = (store.find code).isSome ∧
        ∀ wanted, (store.clear code).2.find wanted =
          if wanted = code then none else store.find wanted := by
  intro store log
  have denotes : Denotes store log := Denotes.afterCalls calls
  refine ⟨?_, denotes.bounded, denotes.ncard_present.symm, denotes.find_eq, ?_, ?_, ?_, ?_, ?_⟩
  · rw [denotes.keyed.forEach_eq]
    exact denotes.keyed.distinct
  · intro dtc
    rw [denotes.keyed.forEach_eq, denotes.keyed.mem_iff, denotes.find_eq]
  · intro call
    exact (denotes.perform call).1
  · intro code severity nowMs
    rw [denotes.refused_iff, denotes.ncard_present, not_or, Nat.not_lt]
    have absent : code ∉ log.present ↔ log code = [] := Classical.not_not
    rw [absent, ← Nat.le_antisymm_iff.trans (and_iff_right denotes.bounded)]
  · intro code severity nowMs refused
    exact report_refused refused
  · intro code
    exact ⟨clear_fst store code, denotes.keyed.find_clear code⟩

end DtcStore

end Sero
