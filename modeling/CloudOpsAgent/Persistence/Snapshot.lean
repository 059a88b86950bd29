/-
  The whole store as one JSON value: `export_snapshot` and `from_snapshot`.

  A snapshot lists the records of each table in the order of their keys.  Loading it validates each
  record, files it again, and refuses a snapshot with two records of one key, with a record that
  names a run or a proposal that is not there, or beyond the capacities.

  1. **The two directions** — `exportSnapshot`, `fromSnapshot`.

  2. **What loading asks of a store** — `Loadable`, in terms of the tables.  The repository files a
     proposal, a checkpoint or an audit event without looking for its run, so not every store is.

  3. **The round trip** — a store is loaded from its own snapshot if and only if it is loadable, and
     comes back as it was, up to the order of keys in the JSON values of its checkpoints.
-/
import Mathlib.Data.Prod.Lex
import CloudOpsAgent.Nz.Encoding
import CloudOpsAgent.Persistence.Dumps
import CloudOpsAgent.Persistence.Evolution
import CloudOpsAgent.Persistence.Integrity

namespace CloudOpsAgent

open Json StrictJson

def MAX_SNAPSHOT_RECORDS : Nat := 65536

theorem UUID.str_injective : Function.Injective UUID.str := fun _ _ => UUID.str_inj

/-- Two identifiers as they are sorted. -/
def UUID.pairText (k : UUID × UUID) : Lex (String × String) := toLex (k.1.str, k.2.str)

theorem UUID.pairText_injective : Function.Injective UUID.pairText := by
  intro a b h
  have h := toLex.injective h
  simp only [Prod.mk.injEq] at h
  exact Prod.ext (UUID.str_inj h.1) (UUID.str_inj h.2)

variable [Sha256]

theorem Checkpoint.runId_back (c : Checkpoint) : c.back.runId = c.runId := rfl

/-- Whatever is raised is a dependency error. -/
def OnlyDependency {α : Type} (x : Except PyExc α) : Prop := ∀ e, x = .error e → e.isDependency

namespace OnlyDependency

omit [Sha256]

variable {α β : Type} {x : Except PyExc α} {f : α → Except PyExc β}

theorem ok (a : α) : OnlyDependency (.ok a) := fun _ h => by cases h

theorem error {e : PyExc} (he : e.isDependency) : OnlyDependency (.error e : Except PyExc α) := by
  intro e' h
  cases h
  exact he

theorem bind (hx : OnlyDependency x) (hf : ∀ a, OnlyDependency (f a)) : OnlyDependency (x >>= f) := by
  cases x with
  | error e => exact .error (hx e rfl)
  | ok a => exact hf a

end OnlyDependency

namespace Store

/-! ## The two directions -/

/-- The tables' records, each table in the order of its keys. -/
def sortedRuns (s : Store) : List Run := s.runs.listed UUID.str UUID.str_injective
def sortedProposals (s : Store) : List ActionProposal :=
  s.proposals.listed UUID.str UUID.str_injective
def sortedApprovals (s : Store) : List Approval := s.approvals.listed UUID.str UUID.str_injective
def sortedIdempotency (s : Store) : List IdempotencyRecord :=
  s.idempotency.listed id Function.injective_id
def sortedCheckpoints (s : Store) : List Checkpoint :=
  s.checkpoints.listed UUID.str UUID.str_injective
def sortedAuditEvents (s : Store) : List AuditEvent :=
  s.auditEvents.listed UUID.pairText UUID.pairText_injective
def sortedEvidence (s : Store) : List VerificationEvidence :=
  s.verificationEvidence.listed UUID.pairText UUID.pairText_injective

/-- `[record.model_dump(mode="json") for record in records]`. -/
def dumpAll {ρ : Type} (M : Model ρ) (records : List ρ) : Json := .arr (records.map M.codec.dump)

/-- `export_snapshot`. -/
def snapshotFields (s : Store) : List (String × Json) := [
  ("format_version", .int 1),
  ("runs", dumpAll Run.model s.sortedRuns),
  ("proposals", dumpAll ActionProposal.model s.sortedProposals),
  ("approvals", dumpAll Approval.model s.sortedApprovals),
  ("idempotency", dumpAll IdempotencyRecord.model s.sortedIdempotency),
  ("checkpoints", dumpAll Checkpoint.model s.sortedCheckpoints),
  ("audit_events", dumpAll AuditEvent.model s.sortedAuditEvents),
  ("verification_evidence", dumpAll VerificationEvidence.model s.sortedEvidence)]

def exportSnapshot (s : Store) : Json := .obj s.snapshotFields

/-- `expected_keys`. -/
def SNAPSHOT_KEYS : List String := ["format_version", "runs", "proposals", "approvals", "idempotency",
  "checkpoints", "audit_events", "verification_evidence"]

/-- `records(name, model)`. -/
def loadAll {ρ : Type} (fields : List (String × Json)) (name : String) (M : Model ρ) :
    Except PyExc (List ρ) :=
  match fields.lookup name with
  | some (.arr values) =>
    if MAX_SNAPSHOT_RECORDS < values.length then
      .error (.storageDependency ("local durable snapshot " ++ name ++ " is invalid"))
    else
      match values.mapM M.codec.load with
      | some records => .ok records
      | none =>
        .error (.storageDependency ("local durable snapshot " ++ name ++ " violates typed contracts"))
  | _ => .error (.storageDependency ("local durable snapshot " ++ name ++ " is invalid"))

/-- The records of a snapshot, list by list. -/
structure Records where
  runs : List Run
  proposals : List ActionProposal
  approvals : List Approval
  idempotency : List IdempotencyRecord
  checkpoints : List Checkpoint
  auditEvents : List AuditEvent
  verificationEvidence : List VerificationEvidence

def loadRecords (fields : List (String × Json)) : Except PyExc Records := do
  let runs ← loadAll fields "runs" Run.model
  let proposals ← loadAll fields "proposals" ActionProposal.model
  let approvals ← loadAll fields "approvals" Approval.model
  let idempotency ← loadAll fields "idempotency" IdempotencyRecord.model
  let checkpoints ← loadAll fields "checkpoints" Checkpoint.model
  let auditEvents ← loadAll fields "audit_events" AuditEvent.model
  let verificationEvidence ← loadAll fields "verification_evidence" VerificationEvidence.model
  return ⟨runs, proposals, approvals, idempotency, checkpoints, auditEvents, verificationEvidence⟩

/-- File the records of a snapshot. -/
def ofRecords (r : Records) : Store where
  runs := .ofList r.runs
  proposals := .ofList r.proposals
  approvals := .ofList r.approvals
  idempotency := .ofList r.idempotency
  checkpoints := .ofList r.checkpoints
  auditEvents := .ofList r.auditEvents
  verificationEvidence := .ofList r.verificationEvidence

/-- No two records of a table have one key: `counts`. -/
def noDuplicates (r : Records) (s : Store) : Bool :=
  r.runs.length == s.runs.size && r.proposals.length == s.proposals.size &&
    r.approvals.length == s.approvals.size && r.idempotency.length == s.idempotency.size &&
    r.checkpoints.length == s.checkpoints.size && r.auditEvents.length == s.auditEvents.size &&
    r.verificationEvidence.length == s.verificationEvidence.size

/-- What is checked of the records that were filed in `s`. -/
def snapshotCheck (r : Records) (s : Store) : Except PyExc Store :=
  if !noDuplicates r s then
    .error (.storageDependency "local durable snapshot contains duplicate identities")
  else if r.proposals.any fun p => (s.runs.get p.runId).isNone then
    .error (.storageDependency "local proposal references a missing run")
  else if r.approvals.any fun a => (s.proposals.get a.proposalId).isNone then
    .error (.storageDependency "local approval references a missing proposal")
  else if r.checkpoints.any fun c => (s.runs.get c.runId).isNone then
    .error (.storageDependency "local checkpoint references a missing run")
  else if r.auditEvents.any fun e => (s.runs.get e.runId).isNone then
    .error (.storageDependency "local audit event references a missing run")
  else if MAX_DURABLE_RUNS < r.runs.length then
    .error (.storageDependency "local durable snapshot exceeds run capacity")
  else if r.auditEvents.any fun e =>
      MAX_AUDIT_EVENTS_PER_RUN < r.auditEvents.countP (·.runId = e.runId) then
    .error (.storageDependency "local durable snapshot exceeds audit capacity")
  else .ok s

/-- `from_snapshot`. -/
def fromSnapshot (payload : Json) : Except PyExc Store :=
  match payload with
  | .obj fields =>
    if ¬ (fields.map Prod.fst ⊆ SNAPSHOT_KEYS ∧ SNAPSHOT_KEYS ⊆ fields.map Prod.fst) then
      .error (.storageDependency "local durable snapshot shape is invalid")
    -- `!= 1`, so that `true` and `1.0` pass as well
    else if !(fields.lookup "format_version").any LocalIntegrity.equalsVersion then
      .error (.storageDependency "local durable snapshot version is unsupported")
    else do
      let records ← loadRecords fields
      snapshotCheck records (ofRecords records)
  | _ => .error (.storageDependency "local durable snapshot shape is invalid")

/-! ## What loading asks of a store -/

/-- Every proposal, approval, checkpoint and audit event has the record it names, and no table is
    over its capacity. -/
structure Loadable (s : Store) : Prop where
  proposals : ∀ k p, s.proposals.get k = some p → (s.runs.get p.runId).isSome
  approvals : ∀ k a, s.approvals.get k = some a → (s.proposals.get a.proposalId).isSome
  checkpoints : ∀ k c, s.checkpoints.get k = some c → (s.runs.get c.runId).isSome
  auditEvents : ∀ k e, s.auditEvents.get k = some e → (s.runs.get e.runId).isSome
  runs_le : s.runs.size ≤ MAX_DURABLE_RUNS
  events_le : ∀ r, s.countAuditEvents r ≤ MAX_AUDIT_EVENTS_PER_RUN

/-- No table has more records than a snapshot may list. -/
structure Short (s : Store) : Prop where
  runs : s.runs.size ≤ MAX_SNAPSHOT_RECORDS
  proposals : s.proposals.size ≤ MAX_SNAPSHOT_RECORDS
  approvals : s.approvals.size ≤ MAX_SNAPSHOT_RECORDS
  idempotency : s.idempotency.size ≤ MAX_SNAPSHOT_RECORDS
  checkpoints : s.checkpoints.size ≤ MAX_SNAPSHOT_RECORDS
  auditEvents : s.auditEvents.size ≤ MAX_SNAPSHOT_RECORDS
  verificationEvidence : s.verificationEvidence.size ≤ MAX_SNAPSHOT_RECORDS

/-- Every record can be stored. -/
structure Storable [FloatRepr] (s : Store) : Prop where
  runs : ∀ k r, s.runs.get k = some r → Run.model.Storable r
  proposals : ∀ k p, s.proposals.get k = some p → ActionProposal.model.Storable p
  approvals : ∀ k a, s.approvals.get k = some a → Approval.model.Storable a
  idempotency : ∀ k r, s.idempotency.get k = some r → IdempotencyRecord.model.Storable r
  checkpoints : ∀ k c, s.checkpoints.get k = some c → Checkpoint.model.Storable c
  auditEvents : ∀ k e, s.auditEvents.get k = some e → AuditEvent.model.Storable e
  verificationEvidence : ∀ k e, s.verificationEvidence.get k = some e →
    VerificationEvidence.model.Storable e

/-- The store as it is read back: its checkpoints have sorted keys. -/
def back (s : Store) : Store :=
  { s with checkpoints := s.checkpoints.mapRecords Checkpoint.back Checkpoint.runId_back }

/-! ## The round trip -/

omit [Sha256] in
/-- Sorting the keys of a dictionary moves its fields, and sorts them inside. -/
theorem sortKeys_lookup {fields : List (String × Json)} (h : (fields.map Prod.fst).Nodup) :
    ∃ fields', sortKeys (.obj fields) = .obj fields' ∧
      (∀ k j, (k, j) ∈ fields → fields'.lookup k = some (sortKeys j)) ∧
      (fields'.map Prod.fst).Perm (fields.map Prod.fst) := by
  have hperm : (Dynamo.byKey fields).Perm fields := List.perm_insertionSort _ _
  have hkeys : ((Dynamo.byKey fields).map Prod.fst).Nodup := (hperm.map Prod.fst).nodup_iff.mpr h
  refine ⟨_, Dynamo.sortKeys_obj _, fun k j hj => ?_, ?_⟩
  · exact Model.lookup_of_mem hkeys sortKeys (hperm.mem_iff.mpr hj)
  · rw [List.map_map]
    exact hperm.map Prod.fst

section Loading

variable {κ ρ : Type} [DecidableEq κ] {key : ρ → κ} {β : Type} [LinearOrder β] {text : κ → β}
  {htext : Function.Injective text} {M : Model ρ} {t : Table key} {fields : List (String × Json)}
  {name : String}

omit [Sha256] in
/-- A listed table is loaded, unless it is too long. -/
theorem loadAll_listed (hlookup : fields.lookup name =
      some (sortKeys (dumpAll M (t.listed text htext))))
    (htimes : ∀ k r, t.get k = some r → ∀ u ∈ M.times r, u ≤ Time.datetimeMax) :
    loadAll fields name M = if MAX_SNAPSHOT_RECORDS < t.size then
        .error (.storageDependency ("local durable snapshot " ++ name ++ " is invalid"))
      else .ok ((t.listed text htext).map M.back) := by
  have hsorted : sortKeys (dumpAll M (t.listed text htext)) =
      .arr ((t.listed text htext).map fun r => sortKeys (M.codec.dump r)) := by
    rw [dumpAll, sortKeys, sortItems_eq, List.map_map]
    rfl
  have hload : ((t.listed text htext).map fun r => sortKeys (M.codec.dump r)).mapM M.codec.load =
      some ((t.listed text htext).map M.back) := by
    have hall : ∀ l : List ρ, (∀ r ∈ l, ∀ u ∈ M.times r, u ≤ Time.datetimeMax) →
        (l.map fun r => sortKeys (M.codec.dump r)).mapM M.codec.load = some (l.map M.back) := by
      intro l
      induction l with
      | nil => exact fun _ => rfl
      | cons r l ih =>
        intro hl
        have hhead := M.codec.load_dump r (hl r List.mem_cons_self)
        have htail := ih fun x hx => hl x (List.mem_cons_of_mem _ hx)
        rw [List.map_cons, List.map_cons, List.mapM_cons, hhead, htail]
        rfl
    exact hall _ fun r hr => htimes _ r (Table.mem_listed.mp hr)
  unfold loadAll
  rw [hlookup, hsorted]
  dsimp only
  rw [List.length_map, Table.length_listed, hload]

omit [Sha256] in
theorem any_listed {p : ρ → Bool} :
    (t.listed text htext).any p = false ↔ ∀ k r, t.get k = some r → p r = false := by
  rw [List.any_eq_false]
  constructor
  · intro h k r hr
    have hmem : r ∈ t.listed text htext := Table.mem_listed.mpr (by rwa [Table.key_of_get hr])
    exact Bool.eq_false_of_not_eq_true (h r hmem)
  · intro h r hr
    rw [h _ r (Table.mem_listed.mp hr)]
    exact Bool.false_ne_true

omit [Sha256] in
theorem loadAll_dependency : OnlyDependency (loadAll fields name M) := by
  intro e h
  unfold loadAll at h
  split at h
  · split at h
    · cases h
      rfl
    · split at h
      · cases h
      · cases h
        rfl
  · cases h
    rfl

end Loading

theorem loadRecords_dependency (fields : List (String × Json)) :
    OnlyDependency (loadRecords fields) :=
  .bind loadAll_dependency fun _ => .bind loadAll_dependency fun _ =>
    .bind loadAll_dependency fun _ => .bind loadAll_dependency fun _ =>
    .bind loadAll_dependency fun _ => .bind loadAll_dependency fun _ =>
    .bind loadAll_dependency fun _ => .ok _

theorem snapshotCheck_dependency (r : Records) (s : Store) : OnlyDependency (snapshotCheck r s) := by
  intro e h
  unfold snapshotCheck at h
  repeat
    split at h
    · cases h
      rfl
  cases h

/-- Whatever is wrong with a snapshot is a dependency error. -/
theorem fromSnapshot_dependency (payload : Json) : OnlyDependency (fromSnapshot payload) := by
  unfold fromSnapshot
  split
  · split
    · exact .error rfl
    · split
      · exact .error rfl
      · exact .bind (loadRecords_dependency _) fun _ => snapshotCheck_dependency _ _
  · exact .error rfl

section RoundTrip

variable [FloatRepr] {s : Store}

/-- The records as they come back from the snapshot of a store. -/
def records (s : Store) : Records where
  runs := s.sortedRuns
  proposals := s.sortedProposals
  approvals := s.sortedApprovals
  idempotency := s.sortedIdempotency
  checkpoints := s.sortedCheckpoints.map Checkpoint.back
  auditEvents := s.sortedAuditEvents
  verificationEvidence := s.sortedEvidence

omit [FloatRepr] in
theorem ofRecords_records : ofRecords s.records = s.back := by
  simp only [ofRecords, records, sortedRuns, sortedProposals, sortedApprovals, sortedIdempotency,
    sortedCheckpoints, sortedAuditEvents, sortedEvidence, Table.ofList_listed, back]
  rw [Table.ofList_map_listed Checkpoint.runId_back]

omit [FloatRepr] in
theorem noDuplicates_records : noDuplicates s.records s.back = true := by
  have hsize : s.back.checkpoints.size = s.checkpoints.size := by
    rw [Table.size, back, Table.keys_mapRecords, Table.size]
  simp only [noDuplicates, records, sortedRuns, sortedProposals, sortedApprovals, sortedIdempotency,
    sortedCheckpoints, sortedAuditEvents, sortedEvidence, List.length_map, Table.length_listed, hsize]
  simp [back]

omit [Sha256] [FloatRepr] in
/-- What is returned was computed by the first part and the second. -/
theorem returned_of_bind {α β : Type} {x : Except PyExc α} {f : α → Except PyExc β} {b : β}
    (h : x >>= f = .ok b) : ∃ a, x = .ok a ∧ f a = .ok b := by
  cases x with
  | error e => cases h
  | ok a => exact ⟨a, rfl, h⟩

omit [Sha256] [FloatRepr] in
theorem guard_ok {α : Type} {c : Prop} [Decidable c] {e : PyExc} {x : Except PyExc α} {a : α} :
    (if c then .error e else x) = .ok a ↔ ¬ c ∧ x = .ok a := by
  by_cases hc : c
  · rw [if_pos hc]
    exact ⟨fun h => (nomatch h), fun h => absurd hc h.1⟩
  · rw [if_neg hc]
    exact ⟨fun h => ⟨hc, h⟩, fun h => h.2⟩

omit [Sha256] [FloatRepr] in
theorem guard_bind {α β : Type} {c : Prop} [Decidable c] {e : PyExc} {a : α} {b : β}
    {f : α → Except PyExc β} :
    ((if c then .error e else .ok a) >>= f) = .ok b ↔ ¬ c ∧ f a = .ok b := by
  by_cases hc : c
  · rw [if_pos hc]
    exact ⟨fun h => (nomatch h), fun h => absurd hc h.1⟩
  · rw [if_neg hc]
    exact ⟨fun h => ⟨hc, h⟩, fun h => h.2⟩

omit [FloatRepr] in
/-- No run has more events than it may, if none of those listed has. -/
theorem events_le_iff : (∀ r, s.countAuditEvents r ≤ MAX_AUDIT_EVENTS_PER_RUN) ↔
    ∀ k e, s.auditEvents.get k = some e →
      decide (MAX_AUDIT_EVENTS_PER_RUN < s.sortedAuditEvents.countP (·.runId = e.runId)) = false := by
  have hcount : ∀ r, s.sortedAuditEvents.countP (·.runId = r) = s.countAuditEvents r :=
    fun r => Table.countP_listed (t := s.auditEvents) (p := fun k : UUID × UUID => k.1 = r)
  constructor
  · intro h k e _
    rw [hcount, decide_eq_false_iff_not, not_lt]
    exact h _
  · intro h r
    obtain hzero | hpos := Nat.eq_zero_or_pos (s.countAuditEvents r)
    · rw [hzero]
      exact Nat.zero_le _
    -- a run with events has a first one
    · obtain ⟨k, hk⟩ := Finset.card_pos.mp hpos
      obtain ⟨hmem, rfl⟩ := Finset.mem_filter.mp hk
      obtain ⟨e, he⟩ := Table.mem_keys.mp hmem
      have hle := h k e he
      rw [hcount, decide_eq_false_iff_not, not_lt] at hle
      rwa [← Table.key_of_get he]

omit [FloatRepr] in
/-- What is filed from the snapshot of a store passes if and only if the store is loadable. -/
theorem snapshotCheck_records {s' : Store} :
    snapshotCheck s.records s.back = .ok s' ↔ s.Loadable ∧ s' = s.back := by
  unfold snapshotCheck
  rw [noDuplicates_records]
  simp only [guard_ok, Bool.not_true, Bool.false_eq_true, not_false_eq_true, true_and,
    Bool.not_eq_true]
  have hevents : ∀ p : AuditEvent → Bool, s.sortedAuditEvents.any p = false ↔
      ∀ k e, s.auditEvents.get k = some e → p e = false := fun p => any_listed
  simp only [records, sortedRuns, sortedProposals, sortedApprovals, sortedCheckpoints,
    List.any_map, any_listed, hevents, Table.length_listed, Function.comp_def,
    Checkpoint.runId_back, not_lt, Except.ok.injEq]
  simp only [Option.isNone_eq_false_iff]
  constructor
  · rintro ⟨hp, ha, hc, he, hr, hn, h⟩
    exact ⟨⟨hp, ha, hc, he, hr, events_le_iff.mpr hn⟩, h.symm⟩
  · rintro ⟨h, rfl⟩
    exact ⟨h.proposals, h.approvals, h.checkpoints, h.auditEvents, h.runs_le,
      events_le_iff.mp h.events_le, rfl⟩

omit [FloatRepr] in
theorem records_eq (s : Store) : s.records = ⟨s.sortedRuns.map Run.model.back,
    s.sortedProposals.map ActionProposal.model.back, s.sortedApprovals.map Approval.model.back,
    s.sortedIdempotency.map IdempotencyRecord.model.back,
    s.sortedCheckpoints.map Checkpoint.model.back, s.sortedAuditEvents.map AuditEvent.model.back,
    s.sortedEvidence.map VerificationEvidence.model.back⟩ := by
  -- only checkpoints are changed on their way
  have hruns : Run.model.back = id := rfl
  have hproposals : ActionProposal.model.back = id := rfl
  have happrovals : Approval.model.back = id := rfl
  have hidempotency : IdempotencyRecord.model.back = id := rfl
  have hevents : AuditEvent.model.back = id := rfl
  have hevidence : VerificationEvidence.model.back = id := rfl
  rw [hruns, hproposals, happrovals, hidempotency, hevents, hevidence]
  simp only [List.map_id]
  rfl

/-- The lists of a snapshot are loaded if and only if none is too long. -/
theorem loadRecords_snapshot {fields : List (String × Json)} {r : Records} (h : s.Storable)
    (hfields : ∀ k j, (k, j) ∈ s.snapshotFields → fields.lookup k = some (sortKeys j)) :
    loadRecords fields = .ok r ↔ s.Short ∧ r = s.records := by
  have hruns : fields.lookup "runs" = some (sortKeys (dumpAll Run.model s.sortedRuns)) :=
    hfields _ _ (by simp [snapshotFields])
  have hproposals : fields.lookup "proposals" = some (sortKeys (dumpAll ActionProposal.model s.sortedProposals)) :=
    hfields _ _ (by simp [snapshotFields])
  have happrovals : fields.lookup "approvals" = some (sortKeys (dumpAll Approval.model s.sortedApprovals)) :=
    hfields _ _ (by simp [snapshotFields])
  have hidempotency : fields.lookup "idempotency" = some (sortKeys (dumpAll IdempotencyRecord.model s.sortedIdempotency)) :=
    hfields _ _ (by simp [snapshotFields])
  have hcheckpoints : fields.lookup "checkpoints" = some (sortKeys (dumpAll Checkpoint.model s.sortedCheckpoints)) :=
    hfields _ _ (by simp [snapshotFields])
  have hevents : fields.lookup "audit_events" = some (sortKeys (dumpAll AuditEvent.model s.sortedAuditEvents)) :=
    hfields _ _ (by simp [snapshotFields])
  have hevidence : fields.lookup "verification_evidence" = some (sortKeys (dumpAll VerificationEvidence.model s.sortedEvidence)) :=
    hfields _ _ (by simp [snapshotFields])
  unfold loadRecords
  rw [loadAll_listed hruns fun k r hr => (h.runs k r hr).times,
    loadAll_listed hproposals fun k r hr => (h.proposals k r hr).times,
    loadAll_listed happrovals fun k r hr => (h.approvals k r hr).times,
    loadAll_listed hidempotency fun k r hr => (h.idempotency k r hr).times,
    loadAll_listed hcheckpoints fun k r hr => (h.checkpoints k r hr).times,
    loadAll_listed hevents fun k r hr => (h.auditEvents k r hr).times,
    loadAll_listed hevidence fun k r hr => (h.verificationEvidence k r hr).times]
  simp only [guard_bind, not_lt]
  constructor
  · rintro ⟨h1, h2, h3, h4, h5, h6, h7, hr⟩
    exact ⟨⟨h1, h2, h3, h4, h5, h6, h7⟩, (Except.ok.inj hr).symm.trans (records_eq s).symm⟩
  · rintro ⟨⟨h1, h2, h3, h4, h5, h6, h7⟩, rfl⟩
    exact ⟨h1, h2, h3, h4, h5, h6, h7, congrArg Except.ok (records_eq s).symm⟩

/-- **A snapshot is loaded** if and only if its store is loadable and short, and as it was. -/
theorem fromSnapshot_iff {s' : Store} (h : s.Storable) :
    fromSnapshot (sortKeys s.exportSnapshot) = .ok s' ↔ (s.Loadable ∧ s.Short) ∧ s' = s.back := by
  have hnodup : (s.snapshotFields.map Prod.fst).Nodup := by
    show SNAPSHOT_KEYS.Nodup
    decide
  obtain ⟨fields, hsorted, hlookup, hkeys⟩ := sortKeys_lookup hnodup
  have hshape : fields.map Prod.fst ⊆ SNAPSHOT_KEYS ∧ SNAPSHOT_KEYS ⊆ fields.map Prod.fst :=
    ⟨hkeys.subset, hkeys.symm.subset⟩
  have hversion : fields.lookup "format_version" = some (.int 1) :=
    hlookup _ _ (List.mem_cons_self)
  rw [exportSnapshot, hsorted, fromSnapshot, if_neg (not_not_intro hshape), hversion]
  show (loadRecords fields >>= fun r => snapshotCheck r (ofRecords r)) = .ok s' ↔ _
  constructor
  · intro hok
    obtain ⟨r, hr, hcheck⟩ := returned_of_bind hok
    obtain ⟨hshort, rfl⟩ := (loadRecords_snapshot h hlookup).mp hr
    rw [ofRecords_records] at hcheck
    obtain ⟨hload, hs⟩ := snapshotCheck_records.mp hcheck
    exact ⟨⟨hload, hshort⟩, hs⟩
  · rintro ⟨⟨hload, hshort⟩, hs⟩
    rw [(loadRecords_snapshot h hlookup).mpr ⟨hshort, rfl⟩]
    show snapshotCheck s.records (ofRecords s.records) = .ok s'
    rw [ofRecords_records]
    exact snapshotCheck_records.mpr ⟨hload, hs⟩

omit [FloatRepr] in
theorem loadable_empty : ({} : Store).Loadable where
  proposals := Table.forall_empty
  approvals := Table.forall_empty
  checkpoints := Table.forall_empty
  auditEvents := Table.forall_empty
  runs_le := Nat.zero_le _
  events_le _ := Nat.zero_le _

theorem storable_empty : ({} : Store).Storable :=
  ⟨Table.forall_empty, Table.forall_empty, Table.forall_empty, Table.forall_empty,
    Table.forall_empty, Table.forall_empty, Table.forall_empty⟩

end RoundTrip

end Store

end CloudOpsAgent
