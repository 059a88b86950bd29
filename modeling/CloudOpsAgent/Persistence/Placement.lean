/-
  What the operations do to a store that is kept in a file.

  1. **Storable** — an operation on records that can be stored leaves records that can be stored.

  2. **Placed** — `create_proposal`, `save_checkpoint` and `append_audit_event` file a record without
     looking for its run.  A loadable store stays loadable if and only if the run was there.

  3. **Read back** — an operation answers on a store that was read back what it answers on the store
     that was written, and leaves the same, up to the order of keys in the JSON values of checkpoints.
-/
import CloudOpsAgent.Persistence.Snapshot

namespace CloudOpsAgent

open Store Json StrictJson

variable [Sha256]

/-! ## Storable -/

section Storable

variable [FloatRepr]

/-- The records and instants that are passed can be stored. -/
def Op.Storable : Op → Prop
  | createRun run => Run.model.Storable run
  | transitionRun _ _ _ _ updatedAt _ _ | updateRunBudget _ _ _ updatedAt =>
    updatedAt ≤ Time.datetimeMax
  | createProposal proposal => ActionProposal.model.Storable proposal
  | createApproval approval => Approval.model.Storable approval
  | registerIdempotency record => IdempotencyRecord.model.Storable record
  | completeIdempotency _ _ completedAt _ => completedAt ≤ Time.datetimeMax
  | recordExecutionAcknowledgement _ acknowledgement _ =>
    ExecutionAcknowledgement.model.Storable acknowledgement
  | saveCheckpoint checkpoint _ => Checkpoint.model.Storable checkpoint
  | appendAuditEvent event => AuditEvent.model.Storable event
  | createVerificationEvidence evidence => VerificationEvidence.model.Storable evidence
  | _ => True

omit [Sha256] in
/-- A run ends with its last update. -/
theorem Run.storable_iff {r : Run} : Run.model.Storable r ↔ r.updatedAt ≤ Time.datetimeMax := by
  have htimes : Run.model.times r = [r.createdAt, r.updatedAt] := rfl
  constructor
  · intro h
    have h := h.times
    rw [htimes] at h
    exact h _ (by simp)
  · intro hu
    refine ⟨r.clean, fun t ht => ?_⟩
    rw [htimes, List.mem_pair] at ht
    obtain rfl | rfl := ht
    · exact r.time_order.trans hu
    · exact hu

omit [Sha256] [FloatRepr] in
theorem ActionResult.times_eq (r : ActionResult) : ActionResult.model.times r = [] := by
  have htimes : ActionResult.model.times r = r.observedState.toList.flatMap (fun _ => []) ++
      (r.evidenceHash.toList.flatMap (fun _ => []) ++ r.failure.toList.flatMap (fun _ => [])) := rfl
  simp [htimes]

omit [Sha256] in
theorem IdempotencyRecord.storable_iff {r : IdempotencyRecord} :
    IdempotencyRecord.model.Storable r ↔ r.registeredAt ≤ Time.datetimeMax ∧
      (∀ t, r.completedAt = some t → t ≤ Time.datetimeMax) ∧
      ∀ a, r.executionAcknowledgement = some a → ExecutionAcknowledgement.model.Storable a := by
  have htimes : IdempotencyRecord.model.times r =
      r.executionAcknowledgement.toList.flatMap ExecutionAcknowledgement.model.times ++
        (r.actionResult.toList.flatMap ActionResult.model.times ++
          (r.registeredAt :: r.completedAt.toList.flatMap fun t => [t])) := rfl
  have hmem : ∀ t, t ∈ IdempotencyRecord.model.times r ↔
      (∃ a, r.executionAcknowledgement = some a ∧ t ∈ ExecutionAcknowledgement.model.times a) ∨
        t = r.registeredAt ∨ r.completedAt = some t := by
    intro t
    simp [htimes, ActionResult.times_eq]
  constructor
  · intro h
    refine ⟨h.times _ ?_, fun t ht => h.times _ ?_, fun a ha => ⟨a.clean, fun t ht => h.times _ ?_⟩⟩
    · exact (hmem _).mpr (.inr (.inl rfl))
    · exact (hmem _).mpr (.inr (.inr ht))
    · exact (hmem _).mpr (.inl ⟨a, ha, ht⟩)
  · rintro ⟨hr, hc, ha⟩
    refine ⟨r.clean, fun t ht => ?_⟩
    obtain ⟨a, hack, ht⟩ | rfl | ht := (hmem t).mp ht
    · exact (ha a hack).times t ht
    · exact hr
    · exact hc t ht

omit [FloatRepr] in
theorem completeIdempotency_completedAt {s s' : Store} {key : String} {result : ActionResult}
    {t : Time} {expected : IdempotencyStatus} {r : IdempotencyRecord}
    (h : s.completeIdempotency key result t expected = .ok (r, s')) : r.completedAt = some t := by
  unfold completeIdempotency at h
  split at h
  · cases h
  · split at h
    · cases h
    · unfold IdempotencyRecord.complete at h
      split at h
      · cases h
        rfl
      · cases h

/-- **An operation on storable records leaves a storable store.** -/
theorem Store.Storable.run {s s' : Store} {op : Op} {v : op.Result} (hs : s.Storable)
    (hop : op.Storable) (h : op.run s = .ok (v, s')) : s'.Storable := by
  cases op with
  | createRun run =>
    obtain ⟨-, -, -, -, -, rfl⟩ := createRun_ok h
    exact { hs with runs := Table.forall_put hs.runs hop }
  | transitionRun runId next expected version t approvalId verificationId =>
    obtain ⟨current, hget, -, -, -, -, ht, rfl⟩ := Store.transitionRun_ok h
    obtain ⟨-, -, -, -, hu, -⟩ := CloudOpsAgent.transitionRun_ok ht
    exact { hs with runs := Table.forall_put hs.runs (Run.storable_iff.mpr (hu ▸ hop)) }
  | updateRunBudget runId budget version t =>
    obtain ⟨current, -, -, -, -, -, -, -, -, -, hu, -, rfl⟩ := updateRunBudget_ok h
    exact { hs with runs := Table.forall_put hs.runs (Run.storable_iff.mpr (hu ▸ hop)) }
  | createProposal p =>
    obtain ⟨-, -, -, rfl⟩ := createProposal_ok h
    exact { hs with proposals := Table.forall_put hs.proposals hop }
  | transitionProposal proposalId next expected =>
    obtain ⟨current, hget, -, -, rfl, rfl⟩ := transitionProposal_ok h
    have hcurrent := hs.proposals _ _ hget
    exact { hs with proposals := Table.forall_put hs.proposals ⟨ActionProposal.clean _, hcurrent.times⟩ }
  | createApproval a =>
    obtain ⟨-, p, -, -, -, ⟨-, rfl⟩ | ⟨-, rfl⟩⟩ := createApproval_ok h
    · exact hs
    · exact { hs with approvals := Table.forall_put hs.approvals hop }
  | registerIdempotency r =>
    obtain ⟨-, -, -, rfl⟩ | ⟨-, -, -, rfl⟩ := registerIdempotency_ok h
    · exact hs
    · exact { hs with idempotency := Table.forall_put hs.idempotency hop }
  | completeIdempotency key result t expected =>
    obtain ⟨current, hget, -, -, -, -, hack, hr, -, -, -, rfl⟩ := completeIdempotency_ok h
    obtain ⟨hreg, -, ha⟩ := IdempotencyRecord.storable_iff.mp (hs.idempotency _ _ hget)
    have hnew : IdempotencyRecord.model.Storable v := by
      refine IdempotencyRecord.storable_iff.mpr ⟨hr ▸ hreg, fun u hu => ?_, hack ▸ ha⟩
      rw [completeIdempotency_completedAt h] at hu
      cases hu
      exact hop
    exact { hs with idempotency := Table.forall_put hs.idempotency hnew }
  | recordExecutionAcknowledgement key ack expected =>
    obtain ⟨current, hget, -, ⟨-, -, rfl⟩ | ⟨-, -, rfl, rfl⟩⟩ := recordExecutionAcknowledgement_ok h
    · exact hs
    · obtain ⟨hr, hc, -⟩ := IdempotencyRecord.storable_iff.mp (hs.idempotency _ _ hget)
      have hnew : IdempotencyRecord.model.Storable
          { current with executionAcknowledgement := some ack } :=
        IdempotencyRecord.storable_iff.mpr ⟨hr, hc, fun a ha => Option.some.inj ha ▸ hop⟩
      exact { hs with idempotency := Table.forall_put hs.idempotency hnew }
  | saveCheckpoint c expected =>
    obtain ⟨-, rfl, -⟩ := saveCheckpoint_ok h
    exact { hs with checkpoints := Table.forall_put hs.checkpoints hop }
  | appendAuditEvent e =>
    obtain ⟨-, -, -, rfl⟩ := appendAuditEvent_ok h
    exact { hs with auditEvents := Table.forall_put hs.auditEvents hop }
  | createVerificationEvidence e =>
    obtain ⟨-, ⟨-, rfl⟩ | ⟨-, -, rfl⟩⟩ := createVerificationEvidence_ok h
    · exact hs
    · exact { hs with verificationEvidence := Table.forall_put hs.verificationEvidence hop }
  | getRun | getProposal | getApproval | getIdempotency | getCheckpoint | getAuditEvent
  | getVerificationEvidence =>
    cases h
    exact hs

end Storable

/-! ## Placed -/

/-- What the operation files names a run that is stored. -/
def Op.Placed (s : Store) : Op → Prop
  | createProposal proposal => (s.runs.get proposal.runId).isSome
  | saveCheckpoint checkpoint _ => (s.runs.get checkpoint.runId).isSome
  | appendAuditEvent event => (s.runs.get event.runId).isSome
  | _ => True

instance (s : Store) (op : Op) : Decidable (op.Placed s) := by
  cases op <;> unfold Op.Placed <;> infer_instance

section Loadable

variable {s s' : Store}

/-- A new run loses nobody theirs. -/
theorem Store.Loadable.put_run {run : Run} (hs : s.Loadable)
    (hsize : (s.runs.put run).size ≤ MAX_DURABLE_RUNS) :
    Store.Loadable { s with runs := s.runs.put run } where
  proposals k p hp := Table.isSome_get_put _ (hs.proposals k p hp)
  approvals := hs.approvals
  checkpoints k c hc := Table.isSome_get_put _ (hs.checkpoints k c hc)
  auditEvents k e he := Table.isSome_get_put _ (hs.auditEvents k e he)
  runs_le := hsize
  events_le := hs.events_le

theorem Store.Loadable.put_run_of_get {run current : Run} (hs : s.Loadable)
    (h : s.runs.get run.runId = some current) :
    Store.Loadable { s with runs := s.runs.put run } :=
  hs.put_run (by rw [Table.size_put_of_get h]; exact hs.runs_le)

theorem Store.Loadable.put_proposal {p : ActionProposal} (hs : s.Loadable) :
    Store.Loadable { s with proposals := s.proposals.put p } ↔ (s.runs.get p.runId).isSome := by
  constructor
  · intro h
    exact h.proposals p.proposalId p (Table.get_put_self _ _)
  · intro h
    exact { hs with
      proposals := Table.forall_put hs.proposals h
      approvals := fun k a ha => Table.isSome_get_put _ (hs.approvals k a ha) }

/-- **A loadable store stays loadable if and only if what was filed has its run.** -/
theorem Store.Loadable.run {op : Op} {v : op.Result} (hs : s.Loadable)
    (h : op.run s = .ok (v, s')) : s'.Loadable ↔ op.Placed s := by
  have placed : op.Placed s → s'.Loadable → (s'.Loadable ↔ op.Placed s) :=
    fun hp hl => ⟨fun _ => hp, fun _ => hl⟩
  cases op with
  | createRun run =>
    obtain ⟨-, -, -, hn, hsize, rfl⟩ := createRun_ok h
    refine placed trivial (hs.put_run ?_)
    rw [Table.size_put_of_none hn]
    exact hsize
  | transitionRun runId next expected version t approvalId verificationId =>
    obtain ⟨current, hget, -, -, -, -, ht, rfl⟩ := Store.transitionRun_ok h
    obtain ⟨-, -, -, -, -, hid, -⟩ := CloudOpsAgent.transitionRun_ok ht
    have hrun : s.runs.get v.runId = some current := by
      rw [hid, Table.key_of_get hget]
      exact hget
    exact placed trivial (hs.put_run_of_get hrun)
  | updateRunBudget runId budget version t =>
    obtain ⟨current, hget, -, -, -, hid, -, -, -, -, -, -, rfl⟩ := updateRunBudget_ok h
    have hrun : s.runs.get v.runId = some current := by
      rw [hid, Table.key_of_get hget]
      exact hget
    exact placed trivial (hs.put_run_of_get hrun)
  | createProposal p =>
    obtain ⟨-, -, -, rfl⟩ := createProposal_ok h
    exact hs.put_proposal
  | transitionProposal proposalId next expected =>
    obtain ⟨current, hget, -, -, rfl, rfl⟩ := transitionProposal_ok h
    have hrun : (s.runs.get current.runId).isSome := hs.proposals _ _ hget
    exact placed trivial (hs.put_proposal.mpr hrun)
  | createApproval a =>
    obtain ⟨-, p, hp, -, -, ⟨-, rfl⟩ | ⟨-, rfl⟩⟩ := createApproval_ok h
    · exact placed trivial hs
    · have hproposal : (s.proposals.get a.proposalId).isSome := by rw [hp]; rfl
      exact placed trivial { hs with approvals := Table.forall_put hs.approvals hproposal }
  | saveCheckpoint c expected =>
    obtain ⟨-, rfl, -⟩ := saveCheckpoint_ok h
    constructor
    · intro hl
      exact hl.checkpoints c.runId c (Table.get_put_self _ _)
    · intro hp
      exact { hs with checkpoints := Table.forall_put hs.checkpoints hp }
  | appendAuditEvent e =>
    obtain ⟨-, hn, hcount, rfl⟩ := appendAuditEvent_ok h
    constructor
    · intro hl
      exact hl.auditEvents _ e (Table.get_put_self _ _)
    · intro hp
      refine { hs with auditEvents := Table.forall_put hs.auditEvents hp, events_le := fun r => ?_ }
      have hevents := hs.events_le r
      show (s.auditEvents.put e).countKeys (·.1 = r) ≤ _
      rw [Table.countKeys_put_of_none hn]
      -- only the event's own run has one more
      split
      · next hr =>
        subst hr
        exact hcount
      · exact hevents
  | registerIdempotency r =>
    obtain ⟨-, -, -, rfl⟩ | ⟨-, -, -, rfl⟩ := registerIdempotency_ok h
    · exact placed trivial hs
    · exact placed trivial { hs with }
  | completeIdempotency key result t expected =>
    obtain ⟨-, -, -, -, -, -, -, -, -, -, -, rfl⟩ := completeIdempotency_ok h
    exact placed trivial { hs with }
  | recordExecutionAcknowledgement key ack expected =>
    obtain ⟨-, -, -, ⟨-, -, rfl⟩ | ⟨-, -, -, rfl⟩⟩ := recordExecutionAcknowledgement_ok h
    · exact placed trivial hs
    · exact placed trivial { hs with }
  | createVerificationEvidence e =>
    obtain ⟨-, ⟨-, rfl⟩ | ⟨-, -, rfl⟩⟩ := createVerificationEvidence_ok h
    · exact placed trivial hs
    · exact placed trivial { hs with }
  | getRun | getProposal | getApproval | getIdempotency | getCheckpoint | getAuditEvent
  | getVerificationEvidence =>
    cases h
    exact placed trivial hs

end Loadable

/-! ## Read back -/

omit [Sha256] in
theorem sortKeys_sortKeys (j : Json) : sortKeys (sortKeys j) = sortKeys j := by
  induction j using Json.induct with
  | null | bool | int | str | float => rfl
  | arr items ih =>
    rw [sortKeys, sortKeys, sortItems_eq, sortItems_eq, List.map_map]
    exact congrArg Json.arr (List.map_congr_left ih)
  | obj fields ih =>
    have hsorted : Dynamo.byKey (Dynamo.byKey fields) = Dynamo.byKey fields :=
      List.Pairwise.insertionSort_eq (List.pairwise_insertionSort _ _)
    rw [Dynamo.sortKeys_obj, Dynamo.sortKeys_obj, Dynamo.byKey, Dynamo.sort_map, hsorted,
      List.map_map]
    refine congrArg Json.obj (List.map_congr_left fun f hf => Prod.ext rfl ?_)
    exact ih f ((List.mem_insertionSort _).mp hf)

omit [Sha256] in
theorem RemediationProposal.back_back (p : RemediationProposal) : p.back.back = p.back := by
  have hparameters : p.back.back.normalizedParameters = p.back.normalizedParameters :=
    Json.obj.inj <| by
      have h := sortKeys_sortKeys (.obj p.normalizedParameters)
      rw [Dynamo.sortKeys_obj, Dynamo.sortKeys_obj] at h
      exact h
  unfold back at hparameters ⊢
  simp only [RemediationProposal.mk.injEq, true_and, and_true]
  exact hparameters

theorem Checkpoint.back_back (c : Checkpoint) : c.back.back = c.back := by
  have hmetadata : (c.resumeMetadata.mapValues sortKeys).mapValues sortKeys =
      c.resumeMetadata.mapValues sortKeys := by
    refine Finmap.ext_lookup fun k => ?_
    rw [Dict.lookup_mapValues, Dict.lookup_mapValues]
    cases c.resumeMetadata.lookup k with
    | none => rfl
    | some j => exact congrArg some (sortKeys_sortKeys j)
  have hproposal : (c.remediationProposal.map RemediationProposal.back).map
      RemediationProposal.back = c.remediationProposal.map RemediationProposal.back := by
    cases c.remediationProposal with
    | none => rfl
    | some p => exact congrArg some p.back_back
  have hfields : c.toCheckpointFields.back.back = c.toCheckpointFields.back := by
    unfold CheckpointFields.back
    rw [hmetadata, hproposal]
  have hext : ∀ {a b : Checkpoint}, a.toCheckpointFields = b.toCheckpointFields → a = b := by
    rintro ⟨a, _⟩ ⟨b, _⟩ rfl
    rfl
  exact hext hfields

namespace Store

variable {s : Store}

@[simp] theorem back_runs : s.back.runs = s.runs := rfl
@[simp] theorem back_proposals : s.back.proposals = s.proposals := rfl
@[simp] theorem back_approvals : s.back.approvals = s.approvals := rfl
@[simp] theorem back_idempotency : s.back.idempotency = s.idempotency := rfl
@[simp] theorem back_auditEvents : s.back.auditEvents = s.auditEvents := rfl
@[simp] theorem back_verificationEvidence :
    s.back.verificationEvidence = s.verificationEvidence := rfl

theorem get_checkpoints_back (k : UUID) :
    s.back.checkpoints.get k = (s.checkpoints.get k).map Checkpoint.back := by
  show (s.checkpoints.mapRecords Checkpoint.back Checkpoint.runId_back).get k = _
  exact Table.get_mapRecords k

@[simp] theorem back_back : s.back.back = s.back := by
  have hcheckpoints : s.back.back.checkpoints = s.back.checkpoints := by
    ext1 k
    rw [get_checkpoints_back, get_checkpoints_back]
    cases s.checkpoints.get k with
    | none => rfl
    | some c => exact congrArg some c.back_back
  show { s.back with checkpoints := s.back.back.checkpoints } = s.back
  rw [hcheckpoints]

theorem loadable_back : s.back.Loadable ↔ s.Loadable := by
  have hcheckpoints : (∀ k c, s.back.checkpoints.get k = some c → (s.runs.get c.runId).isSome) ↔
      ∀ k c, s.checkpoints.get k = some c → (s.runs.get c.runId).isSome := by
    constructor
    · intro h k c hc
      have hback : s.back.checkpoints.get k = some c.back := by
        rw [get_checkpoints_back, hc, Option.map_some]
      exact h k c.back hback
    · intro h k c hc
      rw [get_checkpoints_back] at hc
      obtain ⟨c, hstored, rfl⟩ := Option.map_eq_some_iff.mp hc
      exact h k c hstored
  constructor
  · intro h
    exact ⟨h.proposals, h.approvals, hcheckpoints.mp h.checkpoints, h.auditEvents, h.runs_le,
      h.events_le⟩
  · intro h
    exact ⟨h.proposals, h.approvals, hcheckpoints.mpr h.checkpoints, h.auditEvents, h.runs_le,
      h.events_le⟩

/-- A store that can be stored can be stored again. -/
theorem Storable.back [FloatRepr] (h : s.Storable) : s.back.Storable :=
  { h with
    checkpoints := fun k c hc => by
      rw [get_checkpoints_back] at hc
      obtain ⟨c, hstored, rfl⟩ := Option.map_eq_some_iff.mp hc
      exact Checkpoint.storable_back (h.checkpoints k c hstored) }

theorem localDecisionValid_back (runId proposalId : UUID) (decision : ApprovalDecision) :
    s.back.localDecisionValid runId proposalId decision =
      s.localDecisionValid runId proposalId decision := by
  unfold localDecisionValid
  rw [get_checkpoints_back]
  cases s.checkpoints.get runId with
  | none => rfl
  | some c =>
    have hproposal : c.back.remediationProposal =
        c.remediationProposal.map RemediationProposal.back := rfl
    have happroval : c.back.localApproval = c.localApproval := rfl
    simp only [Option.map_some, hproposal, happroval]
    cases c.remediationProposal with
    | none => rfl
    | some p =>
      cases c.localApproval with
      | none => rfl
      | some a => rfl

theorem localProofValid_back (runId proposalId : UUID) :
    s.back.localProofValid runId proposalId = s.localProofValid runId proposalId := by
  unfold localProofValid
  rw [get_checkpoints_back]
  cases s.checkpoints.get runId with
  | none => rfl
  | some c =>
    have hproposal : c.back.remediationProposal =
        c.remediationProposal.map RemediationProposal.back := rfl
    have hreceipt : c.back.localExecutionReceipt = c.localExecutionReceipt := rfl
    have hverification : c.back.localVerification = c.localVerification := rfl
    simp only [Option.map_some, hproposal, hreceipt, hverification]
    cases c.remediationProposal with
    | none => rfl
    | some p =>
      cases c.localExecutionReceipt with
      | none => rfl
      | some r =>
        cases c.localVerification with
        | none => rfl
        | some v => rfl

end Store

/-- What a call returns, as it is read back. -/
def Op.resultBack : (op : Op) → op.Result → op.Result
  | getCheckpoint _, checkpoint => Option.map Checkpoint.back checkpoint
  | createRun _, v | getRun _, v | transitionRun .., v | updateRunBudget .., v
  | createProposal _, v | getProposal _, v | transitionProposal .., v | createApproval _, v
  | getApproval _, v | registerIdempotency _, v | getIdempotency _, v | completeIdempotency .., v
  | recordExecutionAcknowledgement .., v | saveCheckpoint .., v | appendAuditEvent _, v
  | getAuditEvent .., v | createVerificationEvidence _, v | getVerificationEvidence .., v => v

/-- The second outcome is the first, read back. -/
inductive Op.ReadBack (op : Op) :
    Except PyExc (op.Result × Store) → Except PyExc (op.Result × Store) → Prop
  | error (e : PyExc) : ReadBack op (.error e) (.error e)
  | ok {v : op.Result} {s t : Store} (h : t.back = s.back) :
    ReadBack op (.ok (v, s)) (.ok (op.resultBack v, t))

theorem Op.ReadBack.written {op : Op} {v : op.Result} {s : Store} :
    op.ReadBack (.ok (v, s)) (.ok (op.resultBack v, s.back)) := .ok Store.back_back

/-- **An operation on what was read back** does what it does on what was written. -/
theorem Op.run_back (op : Op) (s : Store) : op.ReadBack (op.run s) (op.run s.back) := by
  cases op with
  | createRun run =>
    show (Op.createRun run).ReadBack (s.createRun run)
      (s.back.createRun run)
    unfold Store.createRun
    rw [Store.back_runs]
    split
    · exact .error _
    split
    · exact .error _
    split
    · exact .error _
    · exact .written
  | getRun runId => exact .written
  | transitionRun runId next expected version t approvalId verificationId =>
    show (Op.transitionRun runId next expected version t approvalId verificationId).ReadBack
      (s.transitionRun runId next expected version t approvalId verificationId)
      (s.back.transitionRun runId next expected version t approvalId verificationId)
    have hdecision : s.back.decisionCheck runId next approvalId =
        s.decisionCheck runId next approvalId := by
      unfold Store.decisionCheck
      simp only [Store.localDecisionValid_back]
      rfl
    have hsuccess : s.back.successCheck runId next verificationId =
        s.successCheck runId next verificationId := by
      unfold Store.successCheck
      simp only [Store.localProofValid_back]
      rfl
    unfold Store.transitionRun
    rw [Store.back_runs, hdecision, hsuccess]
    cases s.runs.get runId with
    | none => exact .error _
    | some current =>
      simp only [Option.elim_some, bind, Except.bind]
      split
      · exact .error _
      · cases s.decisionCheck runId next approvalId with
        | error e => exact .error e
        | ok u =>
          cases s.successCheck runId next verificationId with
          | error e => exact .error e
          | ok u' =>
            cases CloudOpsAgent.transitionRun current next t with
            | error e => exact .error e
            | ok run => exact .written
  | updateRunBudget runId budget version t =>
    show (Op.updateRunBudget runId budget version t).ReadBack
      (s.updateRunBudget runId budget version t)
      (s.back.updateRunBudget runId budget version t)
    unfold Store.updateRunBudget
    rw [Store.back_runs]
    split
    · exact .error _
    split
    · exact .error _
    split
    · exact .error _
    split
    · exact .written
    · exact .error _
  | createProposal p =>
    show (Op.createProposal p).ReadBack (s.createProposal p)
      (s.back.createProposal p)
    unfold Store.createProposal
    rw [Store.back_proposals]
    split
    · exact .error _
    split
    · exact .error _
    · exact .written
  | getProposal proposalId => exact .written
  | transitionProposal proposalId next expected =>
    show (Op.transitionProposal proposalId next expected).ReadBack
      (s.transitionProposal proposalId next expected)
      (s.back.transitionProposal proposalId next expected)
    unfold Store.transitionProposal
    rw [Store.back_proposals]
    split
    · exact .error _
    split
    · exact .error _
    · next current _ _ =>
      cases transitionedProposal current next with
      | error e => exact .error e
      | ok p => exact .written
  | createApproval a =>
    show (Op.createApproval a).ReadBack (s.createApproval a)
      (s.back.createApproval a)
    unfold Store.createApproval
    rw [Store.back_proposals, Store.back_approvals]
    split
    · exact .error _
    split
    · exact .error _
    · next p _ _ =>
      cases validateApprovalBinding p a with
      | error e => exact .error e
      | ok u =>
        simp only [bind, Except.bind]
        split
        · split
          · exact .written
          · exact .error _
        · exact .written
  | getApproval proposalId => exact .written
  | registerIdempotency r =>
    show (Op.registerIdempotency r).ReadBack (s.registerIdempotency r)
      (s.back.registerIdempotency r)
    have hproposal : s.back.registrationProposal r = s.registrationProposal r := rfl
    unfold Store.registerIdempotency
    rw [Store.back_idempotency, Store.back_approvals, Store.back_runs, hproposal]
    split
    · split
      · exact .error _
      · exact .written
    split
    · exact .error _
    split
    · exact .error _
    split
    · exact .error _
    · exact .written
  | getIdempotency key => exact .written
  | completeIdempotency key result t expected =>
    show (Op.completeIdempotency key result t expected).ReadBack
      (s.completeIdempotency key result t expected)
      (s.back.completeIdempotency key result t expected)
    unfold Store.completeIdempotency
    rw [Store.back_idempotency]
    split
    · exact .error _
    split
    · exact .error _
    · next current _ _ =>
      cases current.complete result t with
      | error e => exact .error e
      | ok r => exact .written
  | recordExecutionAcknowledgement key ack expected =>
    show (Op.recordExecutionAcknowledgement key ack expected).ReadBack
      (s.recordExecutionAcknowledgement key ack expected)
      (s.back.recordExecutionAcknowledgement key ack expected)
    unfold Store.recordExecutionAcknowledgement
    rw [Store.back_idempotency]
    split
    · exact .error _
    split
    · exact .error _
    split
    · split
      · exact .written
      · exact .error _
    split
    · exact .error _
    · exact .written
  | saveCheckpoint c expected =>
    show (Op.saveCheckpoint c expected).ReadBack (s.saveCheckpoint c expected)
      (s.back.saveCheckpoint c expected)
    have hput : Store.back { s.back with checkpoints := s.back.checkpoints.put c } =
        Store.back { s with checkpoints := s.checkpoints.put c } := by
      have hcheckpoints : (s.back.checkpoints.put c).mapRecords Checkpoint.back
          Checkpoint.runId_back = (s.checkpoints.put c).mapRecords Checkpoint.back
          Checkpoint.runId_back := by
        rw [Table.mapRecords_put, Table.mapRecords_put]
        exact congrArg (fun t : Store => t.checkpoints.put c.back) Store.back_back
      exact congrArg (fun t => ({ s with checkpoints := t } : Store)) hcheckpoints
    unfold Store.saveCheckpoint
    rw [Store.get_checkpoints_back]
    cases s.checkpoints.get c.runId with
    | none =>
      simp only [Option.map_none]
      split
      · exact .error _
      · exact .ok hput
    | some current =>
      have hversion : current.back.version = current.version := rfl
      simp only [Option.map_some, hversion]
      split
      · exact .error _
      · exact .ok hput
  | getCheckpoint runId =>
    show (Op.getCheckpoint runId).ReadBack (.ok (s.checkpoints.get runId, s))
      (.ok (s.back.checkpoints.get runId, s.back))
    rw [Store.get_checkpoints_back]
    exact .written
  | appendAuditEvent e =>
    show (Op.appendAuditEvent e).ReadBack (s.appendAuditEvent e)
      (s.back.appendAuditEvent e)
    have hcount : s.back.countAuditEvents e.runId = s.countAuditEvents e.runId := rfl
    unfold Store.appendAuditEvent
    rw [Store.back_auditEvents, hcount]
    split
    · exact .error _
    split
    · exact .error _
    · exact .written
  | getAuditEvent runId eventId => exact .written
  | createVerificationEvidence e =>
    show (Op.createVerificationEvidence e).ReadBack (s.createVerificationEvidence e)
      (s.back.createVerificationEvidence e)
    have hmatches : s.back.evidenceMatches e = s.evidenceMatches e := rfl
    unfold Store.createVerificationEvidence
    rw [Store.back_verificationEvidence, hmatches]
    split
    · split
      · exact .written
      · exact .error _
    split
    · exact .error _
    · exact .written
  | getVerificationEvidence runId proposalId => exact .written

end CloudOpsAgent
