/-
  A local run that nothing stands in the way of.

  From a run that awaits approval to its success, each entry point of the local workflow, alone and
  without a fault, does its step if the clock is early enough and the audit log has room (`Poised`):
  `request_approval` issues a challenge, `decide` records the decision and applies it, `resume`
  registers the intent, executes, and goes on as after a crash.
-/
import CloudOpsAgent.Nz.Sha256
import CloudOpsAgent.Recovery.LocalConvergence

namespace CloudOpsAgent

open ClientProg ClientProg.Prog LocalEnvironment LocalHitlExecutionFlow

section Progress

variable [Sha256] {ι : Type}

/-! ## Room in the audit log -/

/-- The next `m` identifiers from request `k` on are new and distinct, and the log has room for `b`
    more events of the run. -/
structure Vacant (e : LocalEnvironment) (r : UUID) (log : AuditLog) (k b m : Nat) : Prop where
  unused : ∀ n, k ≤ n → n < k + m → log.get (r, e.ids n) = none
  distinct : ∀ i j, k ≤ i → i < j → j < k + m → e.ids i ≠ e.ids j
  room : log.countKeys (·.1 = r) + b ≤ MAX_AUDIT_EVENTS_PER_RUN

/-- How things stand, with room for `b` more audit events and new identifiers for `m` requests. -/
structure Poised (e : LocalEnvironment) (r : UUID) (inv : Inventory) (st : LocalSolo ι) (run : Run)
    (c : Checkpoint) (b m : Nat) : Prop where
  stands : ∃ log, Stages e r inv log st run c ∧ Vacant e r log st.tick b m

/-- How things stand, with room for exactly `b` more audit events. -/
structure Tallied (e : LocalEnvironment) (r : UUID) (inv : Inventory) (st : LocalSolo ι) (run : Run)
    (c : Checkpoint) (b m : Nat) : Prop where
  stands : ∃ log, Stages e r inv log st run c ∧ Vacant e r log st.tick b m ∧
    MAX_AUDIT_EVENTS_PER_RUN ≤ log.countKeys (·.1 = r) + b

section Vacant

omit [Sha256]

variable {e : LocalEnvironment} {r : UUID} {log : AuditLog} {k b m : Nat}

theorem Vacant.later (h : Vacant e r log k b m) {j n : Nat} (hj : k ≤ j) (hn : j + n ≤ k + m) :
    Vacant e r log j b n where
  unused i h1 h2 := h.unused i (hj.trans h1) (by omega)
  distinct i l h1 h2 h3 := h.distinct i l (hj.trans h1) h2 (by omega)
  room := h.room

/-- One event takes one place. -/
theorem Vacant.append (h : Vacant e r log k (b + 1) (m + 1)) {event : AuditEvent}
    (hrun : event.runId = r) (hid : event.eventId = e.ids k) :
    Vacant e r (log.put event) (k + 1) b m where
  unused n hn hlt := by
    rw [Table.get_put_of_ne]
    · exact h.unused n (by omega) (by omega)
    · intro hkey
      simp only [Prod.mk.injEq] at hkey
      exact h.distinct k n le_rfl hn (by omega) (hkey.2.trans hid).symm
  distinct i j h1 h2 h3 := h.distinct i j (by omega) h2 (by omega)
  room := by
    have hnone : log.get (event.runId, event.eventId) = none := by
      rw [hrun, hid]
      exact h.unused k le_rfl (by omega)
    have hroom := h.room
    rw [Table.countKeys_put_of_none hnone]
    split <;> omega

end Vacant

/-! ## What a checkpoint accepts -/

section Bindings

variable {c : Checkpoint} {p : RemediationProposal} {a : LocalApprovalDecisionRecord}
  {n : LocalExecutionIntent} {t : Time}

/-- A decision is of the proposal beside it. -/
theorem Checkpoint.approval_bound (hp : c.remediationProposal = some p)
    (ha : c.localApproval = some a) : a.proposalId = p.proposalId ∧ a.runId = p.runId ∧
      a.proposalHash = p.proposalHash ∧ a.evidenceHash = p.evidenceHash ∧
      a.proposalVersion = p.version := by
  obtain ⟨req, hreq, hrun, hanswers⟩ := c.answers ha
  obtain ⟨-, -, -, -, h, -⟩ := CheckpointFields.violation_eq_none _ |>.mp c.valid
  simp only [hreq, Option.all_some, CheckpointFields.requestBound, hp, Bool.and_eq_true,
    beq_iff_eq] at h
  obtain ⟨⟨⟨⟨⟨⟨⟨⟨-, -⟩, h3⟩, h4⟩, h5⟩, h6⟩, -⟩, -⟩, -⟩ := h
  exact ⟨hanswers.proposalId.trans h3, hrun.trans (c.proposal_runId hp).symm,
    hanswers.proposalHash.trans h4, hanswers.evidenceHash.trans h5,
    hanswers.proposalVersion.trans h6⟩

/-- The intent of an approved proposal. -/
structure Intends (p : RemediationProposal) (a : LocalApprovalDecisionRecord) (t : Time)
    (n : LocalExecutionIntent) : Prop where
  runId : n.runId = p.runId
  proposalId : n.proposalId = p.proposalId
  proposalHash : n.proposalHash = p.proposalHash
  evidenceHash : n.evidenceHash = p.evidenceHash
  decisionHash : n.decisionHash = a.decisionHash
  operation : n.operationType = p.operationType
  targetType : n.targetResourceType = p.targetResourceType
  targetId : n.targetResourceId = p.targetResourceId
  key : n.idempotencyKey = "local-exec:" ++ p.proposalHash.hex
  registeredAt : n.registeredAt = t

theorem LocalExecutionIntent.create_of_approved (hp : c.remediationProposal = some p)
    (ha : c.localApproval = some a) (hd : a.decision = .approved)
    (hop : p.operationType ≠ .applyRequiredTags) (t : Time) :
    ∃ n, LocalExecutionIntent.create p a t = .ok n ∧ Intends p a t n := by
  obtain ⟨h1, h2, h3, h4, h5⟩ := c.approval_bound hp ha
  unfold LocalExecutionIntent.create
  rw [if_neg (not_not.mpr hd), if_neg (by simp [h1, h2, h3, h4, h5]), dif_pos hop]
  exact ⟨_, rfl, ⟨rfl, rfl, rfl, rfl, rfl, rfl, rfl, rfl, rfl, rfl⟩⟩

/-- The intent of its approval may be added to a checkpoint without one. -/
theorem Checkpoint.accepts_intent (hp : c.remediationProposal = some p)
    (ha : c.localApproval = some a) (hd : a.decision = .approved)
    (hnone : c.localExecutionIntent = none) {t : Time} (hn : Intends p a t n)
    (ht : a.decidedAt ≤ t ∧ t ≤ p.expiresAt) (t' : Time) (m : Dict String Json) :
    { c.toCheckpointFields with
      localExecutionIntent := some n, createdAt := t', lastSafeState := .approved,
      resumeMetadata := m, version := c.version + 1 }.violation = none := by
  obtain ⟨-, -, h1, h2, h3, h4, -, -, -⟩ := CheckpointFields.violation_eq_none _ |>.mp c.valid
  obtain ⟨hv, hr, -⟩ := c.chain
  have hreceipt : c.localExecutionReceipt = none := by
    rw [hnone] at hr
    simpa using hr
  have hverification : c.localVerification = none := by
    rw [hreceipt] at hv
    simpa using hv
  refine CheckpointFields.violation_eq_none _ |>.mpr
    ⟨Nat.succ_ne_zero _, by simp, h1, h2, h3, h4, ?_, by simp [hreceipt], by simp [hverification]⟩
  simp [CheckpointFields.intentBound, hp, ha, hd, hn.runId, c.proposal_runId hp, hn.proposalId,
    hn.proposalHash, hn.evidenceHash, hn.decisionHash, hn.operation, hn.targetType, hn.targetId,
    hn.key, hn.registeredAt, ht.1, ht.2]

end Bindings

/-! ## The action -/

/-- The inventory is as the evidence saw it, and the proposal's action can be taken there. -/
structure Actionable (parse : Json → Option SecurityGroupRule) (inv : Inventory)
    (p : RemediationProposal) (e : ResourceEvidence) : Prop where
  gate : p.authorityClass = .planAndConfirm
  fingerprint : p.evidenceFingerprint = e.stableFingerprint
  target : e.resource.resourceType = p.targetResourceType ∧
    e.resource.resourceId = p.targetResourceId
  unchanged : inv.resources.get e.resource.key = some e.resource
  action : ∃ after, Inventory.afterOperation parse p e.resource = .ok after ∧
    ReceiptStates p.operationType e.resource after
  unclaimed : inv.receipts.get ("local-exec:" ++ p.proposalHash.hex) = none

/-- The receipt of an execution now. -/
structure Executes (p : RemediationProposal) (a : LocalApprovalDecisionRecord)
    (n : LocalExecutionIntent) (t : Time) (x : LocalExecutionReceipt) (inv : Inventory) : Prop where
  receipt : inv.receipts.get x.idempotencyKey = some x
  unchanged : inv.observed x = x.afterResource
  executedAt : x.executedAt = t
  bound : x.runId = p.runId ∧ x.proposalId = n.proposalId ∧ x.proposalHash = n.proposalHash ∧
    x.evidenceHash = n.evidenceHash ∧ x.decisionHash = n.decisionHash ∧
    x.intentHash = n.intentHash ∧ x.idempotencyKey = n.idempotencyKey ∧
    x.operationType = n.operationType ∧ x.targetResourceType = n.targetResourceType ∧
    x.targetResourceId = n.targetResourceId

omit [Sha256] in
theorem Inventory.observed_mutated {inv : Inventory} {x y : LocalExecutionReceipt} :
    (inv.mutated x.beforeResource x.afterResource y).observed x = x.afterResource := by
  have hstates := x.states_ok
  obtain ⟨htype, hid⟩ := x.target_ok
  unfold Inventory.observed Inventory.mutated
  rw [← htype, ← hid]
  cases hafter : x.afterResource with
  | none => exact Table.get_erase_self _ _
  | some after =>
    rw [hafter] at hstates
    have hkey := receiptStates_key hstates
    change (inv.resources.put after).get x.beforeResource.key = some after
    rw [← hkey]
    exact Table.get_put_self _ _

theorem Actionable.execute {parse : Json → Option SecurityGroupRule} {inv : Inventory}
    {p : RemediationProposal} {e : ResourceEvidence} {a : LocalApprovalDecisionRecord}
    {n : LocalExecutionIntent} {t : Time} (h : Actionable parse inv p e)
    (hn : Intends p a t n) (hbound : executionBound p e a n) (t' : Time) :
    ∃ x inv', inv.execute parse p e a n t' = .ok (x, true, inv') ∧ Executes p a n t' x inv' := by
  obtain ⟨after, hafter, hstates⟩ := h.action
  have hkey : (p.targetResourceType, p.targetResourceId, e.resource.region) = e.resource.key := by
    rw [← h.target.1, ← h.target.2]
    rfl
  have hnone : inv.receipts.get n.idempotencyKey = none := by rw [hn.key, h.unclaimed]
  obtain ⟨x, hx, hbefore, hafterx, hat, hfields⟩ : ∃ x,
      Inventory.receiptOf p a n e.resource after t' = .ok x ∧ x.beforeResource = e.resource ∧ x.afterResource = after ∧ x.executedAt = t' ∧
      x.runId = p.runId ∧ x.proposalId = p.proposalId ∧ x.proposalHash = p.proposalHash ∧
      x.evidenceHash = p.evidenceHash ∧ x.decisionHash = a.decisionHash ∧
      x.intentHash = n.intentHash ∧ x.idempotencyKey = n.idempotencyKey ∧
      x.operationType = p.operationType ∧ x.targetResourceType = p.targetResourceType ∧
      x.targetResourceId = p.targetResourceId := by
    unfold Inventory.receiptOf
    rw [dif_pos h.target, dif_pos hstates]
    exact ⟨_, rfl, rfl, rfl, rfl, rfl, rfl, rfl, rfl, rfl, rfl, rfl, rfl, rfl, rfl⟩
  obtain ⟨h1, h2, h3, h4, h5, h6, h7, h8, h9, h10⟩ := hfields
  refine ⟨x, inv.mutated e.resource after x, ?_, ?_, ?_, hat, h1, h2.trans hn.proposalId.symm,
    h3.trans hn.proposalHash.symm, h4.trans hn.evidenceHash.symm, h5.trans hn.decisionHash.symm, h6,
    h7, h8.trans hn.operation.symm, h9.trans hn.targetType.symm, h10.trans hn.targetId.symm⟩
  · simp only [Inventory.execute, hbound, hnone, hkey, h.unchanged, hafter, hx, bind, Except.bind,
      Bool.not_true, Bool.false_eq_true, if_false, ne_eq, not_true]
  · exact Table.get_put_self _ _
  · rw [← hbefore, ← hafterx]
    exact Inventory.observed_mutated

theorem Poised.tallied {e : LocalEnvironment} {r : UUID} {inv : Inventory} {st : LocalSolo ι}
    {run : Run} {c : Checkpoint} {b m : Nat} (h : Poised e r inv st run c b m) :
    ∃ d, Tallied e r inv st run c (b + d) m := by
  obtain ⟨log, h, hv⟩ := h
  have hroom := hv.room
  exact ⟨MAX_AUDIT_EVENTS_PER_RUN - (log.countKeys (·.1 = r) + b), log, h,
    ⟨hv.unused, hv.distinct, by omega⟩, by omega⟩

theorem Tallied.poised {e : LocalEnvironment} {r : UUID} {inv : Inventory} {st : LocalSolo ι}
    {run : Run} {c : Checkpoint} {b d m : Nat} (h : Tallied e r inv st run c (b + d) m) :
    Poised e r inv st run c b m := by
  obtain ⟨log, h, hv, -⟩ := h
  have hroom := hv.room
  exact ⟨log, h, hv.unused, hv.distinct, by omega⟩

/-- Moving the run at a time just read. -/
theorem Tallied.move {e : LocalEnvironment} {r : UUID} {inv : Inventory} {st : LocalSolo ι}
    {run : Run} {c : Checkpoint} {b m : Nat} (h : Tallied e r inv st run c b (m + 2)) (who : ι)
    {next expected : WorkflowState} {a v : Option UUID} (hexp : run.state = expected)
    (hn : next ∈ ALLOWED_WORKFLOW_TRANSITIONS expected)
    (hdecision : st.store.decisionCheck r next a = .ok ())
    (hsuccess : st.store.successCheck r next v = .ok ()) :
    ∃ run' s, (Op.transitionRun run.runId next expected run.version (e.now st.tick) a v).run
        st.next.store = .ok (run', s) ∧
      run.MovedTo next (e.now st.tick) run' ∧
      Tallied e r inv (st.next.applied who (.transitionRun run.runId next expected run.version
        (e.now st.tick) a v) s) run' c b m := by
  obtain ⟨log, h, hv, hfull⟩ := h
  obtain ⟨run', s, hs, hm, h'⟩ := h.move who hexp hn hdecision hsuccess
  refine ⟨run', s, hs, hm, log, h', hv.later ?_ ?_, hfull⟩
  · simp only [LocalSolo.applied_tick, LocalSolo.next_tick]
    omega
  · simp only [LocalSolo.applied_tick, LocalSolo.next_tick]
    omega

namespace LocalHitlExecutionFlow

variable {e : LocalEnvironment} {r : UUID} {inv : Inventory} {st : LocalSolo ι} {run : Run}
  {c : Checkpoint} {b m : Nat} {who : ι}

theorem wp_op_tick (o : Op) (st : LocalSolo ι) :
    e.Wp who (Flow.op o) (fun _ st' => st'.tick = st.tick + 1) st := by
  cases ho : o.run st.store with
  | ok x => exact wp_op ho rfl
  | error x =>
    change e.Wp who (ofExcept (e.respond who st (.store o)).1)
      (fun (_ : Except PyExc o.Result) st' => st'.tick = st.tick + 1) (e.respond who st (.store o)).2
    rw [respond_error ho]
    exact rfl

theorem wp_appendEvent_tick (cfg : LocalHitlConfig) (run : Run) (type : AuditEventType)
    (hash : Sha256Digest) (metadata : Dict String String) (st : LocalSolo ι) :
    e.Wp who (appendEvent cfg run type hash metadata) (fun _ st' => st'.tick ≤ st.tick + 3) st := by
  refine wp_freshId_bind (wp_clock_bind ?_)
  dsimp only
  split
  · exact show st.tick + 2 ≤ st.tick + 3 by omega
  · refine .bind (wp_op_tick _ st.next.next) (fun _ st' h => ?_) fun _ st' h => ?_
    · exact Nat.le_of_eq h
    · exact Nat.le_of_eq h

/-- An audit event takes one of the places left; where none is left it is refused. -/
theorem wp_audit (h : Tallied e r inv st run c b (m + 3)) {cfg : LocalHitlConfig} {run' : Run}
    (hid : run'.runId = r) (type : AuditEventType) (hash : Sha256Digest)
    {metadata : Dict String String}
    (hsensitive : cfg.sensitive ((metadata.insert "trace_id" run'.traceId.str).insert
      "correlation_id" run'.correlationId.str) = false) :
    e.Wp who (appendEvent cfg run' type hash metadata)
      (fun o st' => (∃ d, b = d + 1 ∧ o = .ok () ∧ st'.tick = st.tick + 3 ∧
          Tallied e r inv st' run c d m) ∨
        b = 0 ∧ (∃ x, o = .error x ∧ (x.isStorage || x.isValueError)) ∧
          Tallied e r inv st' run c 0 m) st := by
  obtain ⟨log, h, hv, hfull⟩ := h
  refine Ends.mono (fun o st' h' => ?_) (Ends.and (wp_appendEvent h hid type hash metadata)
    (wp_later (wp_appendEvent_tick cfg run' type hash metadata st)))
  obtain ⟨h', hle, hge⟩ := h'
  have hroom := hv.room
  obtain ⟨rfl, hplace, event, ha, ht, h'⟩ | ⟨x, rfl, hx, h', hnone⟩ := h'
  · have hlt := hplace.2
    rw [hid] at hlt
    obtain ⟨d, rfl⟩ : ∃ d, b = d + 1 := ⟨b - 1, by omega⟩
    refine .inl ⟨d, rfl, rfl, ht, _, h', (hv.append ha.runId ha.eventId).later (by omega) (by omega), ?_⟩
    have hunused : log.get (event.runId, event.eventId) = none := by
      rw [ha.runId, ha.eventId]
      exact hv.unused _ le_rfl (by omega)
    rw [Table.countKeys_put_of_none hunused, if_pos ha.runId]
    omega
  · have hno := hnone (hv.unused _ le_rfl (by omega))
    obtain rfl : b = 0 := by
      by_contra hb
      refine hno ⟨hsensitive, ?_⟩
      rw [hid]
      omega
    exact .inr ⟨rfl, ⟨x, rfl, hx⟩, log, h', hv.later hge (by omega), hfull⟩

/-- The secret scan lets the identifiers of a run and a proposal pass. -/
def PassesIds (cfg : LocalHitlConfig) : Prop := ∀ p t k : UUID,
  cfg.sensitive (((Dict.ofPairs [("proposal_id", p.str)]).insert "trace_id" t.str).insert
    "correlation_id" k.str) = false

/-- Saving the next version of the stored checkpoint. -/
theorem wp_save (h : Tallied e r inv st run c b (m + 2)) {safe : WorkflowState}
    {metadata : List (String × String)} {update : CheckpointFields → CheckpointFields}
    (hid : (update c.toCheckpointFields).runId = c.runId)
    (hvalid : ∀ t m, { update c.toCheckpointFields with
      createdAt := t, lastSafeState := safe, resumeMetadata := m,
      version := c.version + 1 }.violation = none) :
    e.Wp who (saveNext c safe metadata update) (fun o st' => ∃ c' t d, o = .ok c' ∧
      c'.toCheckpointFields = { update c.toCheckpointFields with
        createdAt := t, lastSafeState := safe, resumeMetadata := d, version := c.version + 1 } ∧
      st'.tick = st.tick + 2 ∧ Tallied e r inv st' run c' b m) st := by
  obtain ⟨log, h, hv, hfull⟩ := h
  refine (wp_saveNext h hid hvalid).mono fun o st' h' => ?_
  obtain ⟨c', t, d, ho, hf, ht, h'⟩ := h'
  exact ⟨c', t, d, ho, hf, ht, log, h', hv.later (by omega) (by omega), hfull⟩

/-- An error of the repository or of a validator ends `establishOwnership`. -/
theorem ownershipHandler_store {y : PyExc} (h : y.isStorage || y.isValueError) (z : Flow Stage) :
    Flow.catching (fun e => e.isStorage || e.isValueError) z y = some z := by
  unfold Flow.catching
  rw [if_pos h]

/-- **`APPROVED`**: the intent is registered, and the run is `EXECUTING`.  Each of the two is audited,
    and where there is no place left for its event the call ends there. -/
theorem wp_establishOwnership {l : Loaded} {a : LocalApprovalDecisionRecord}
    (h : Tallied e r inv st run c b (m + 11)) {cfg : LocalHitlConfig}
    (hcfg : PassesIds cfg) (hs : run.state = .approved)
    (hp : c.remediationProposal = some l.proposal) (ha : c.localApproval = some a)
    (hd : a.decision = .approved) (hnone : c.localExecutionIntent = none)
    (hop : l.proposal.operationType ≠ .applyRequiredTags)
    (ht : a.decidedAt ≤ e.now st.tick ∧ e.now st.tick ≤ l.proposal.expiresAt) :
    e.Wp who (establishOwnership cfg l a run c) (fun o st' =>
      (b < 2 ∧ (∃ z, o = .ok (.inl z)) ∧ ∃ run', st'.store.runs.get r = some run' ∧
        run'.state ≠ .successWithEvidence) ∨
      ∃ d run' c' n, b = d + 2 ∧ o = .ok (.inr (run', c')) ∧ run'.state = .executing ∧
        Intends l.proposal a (e.now st.tick) n ∧ c'.localExecutionIntent = some n ∧
        c'.localExecutionReceipt = none ∧ c'.remediationProposal = some l.proposal ∧
        c'.localApproval = some a ∧ Tallied e r inv st' run' c' d m) st := by
  obtain ⟨n, hcreate, hn⟩ := LocalExecutionIntent.create_of_approved hp ha hd hop (e.now st.tick)
  obtain ⟨-, hr, -⟩ := c.chain
  have hreceipt : c.localExecutionReceipt = none := by
    rw [hnone] at hr
    simpa using hr
  have hid : run.runId = r := by
    obtain ⟨log, h, -⟩ := h
    exact Table.key_of_get h.stored
  unfold establishOwnership
  rw [if_neg (not_not.mpr hs)]
  refine ends_try (R := fun o st' =>
      (b < 2 ∧ (∃ y, o = .error y ∧ (y.isStorage || y.isValueError)) ∧
        ∃ run', st'.store.runs.get r = some run' ∧ run'.state ≠ .successWithEvidence) ∨
      ∃ d run' c' n, b = d + 2 ∧ o = .ok (run', c') ∧ run'.state = .executing ∧
        Intends l.proposal a (e.now st.tick) n ∧ c'.localExecutionIntent = some n ∧
        c'.localExecutionReceipt = none ∧ c'.remediationProposal = some l.proposal ∧
        c'.localApproval = some a ∧ Tallied e r inv st' run' c' d m)
    ?_ (fun x st' h' => ?_) fun y st' h' => ?_
  · refine .bind (R := fun o st' =>
        (b = 0 ∧ (∃ y, o = .error y ∧ (y.isStorage || y.isValueError)) ∧
          ∃ run', st'.store.runs.get r = some run' ∧ run'.state ≠ .successWithEvidence) ∨
        ∃ d c', b = d + 1 ∧ o = .ok (n, c') ∧ c'.localExecutionIntent = some n ∧
          c'.localExecutionReceipt = none ∧ c'.remediationProposal = some l.proposal ∧
          c'.localApproval = some a ∧ Tallied e r inv st' run c' d (m + 5)) ?_
      (fun x st1 h1 => ?_) fun y st1 h1 => ?_
    · -- the intent is created and saved, and the save is audited
      unfold registerIntent
      rw [hnone]
      refine wp_clock_bind ?_
      obtain ⟨log, h, hv, hfull⟩ := h
      refine .bind (R := fun o st1 => o = .ok n ∧ st1 = st.next) (ends_ofExcept ⟨hcreate, rfl⟩)
        (fun n' st1 h1 => ?_) fun y st1 h1 => by cases h1.1
      obtain ⟨ho, rfl⟩ := h1
      cases ho
      have hv1 : Vacant e r log st.next.tick b (m + 10) := by
        refine hv.later (Nat.le_succ _) ?_
        simp only [LocalSolo.next_tick]
        omega
      refine .bind (wp_save ⟨log, h.next, hv1, hfull⟩ rfl fun t m =>
        c.accepts_intent hp ha hd hnone hn ht t m) (fun c1 st1 h1 => ?_) fun y st1 h1 => ?_
      · obtain ⟨c', t, d, ho, hf, -, h1⟩ := h1
        cases ho
        refine .bind (wp_audit h1 hid _ _ (hcfg ..)) (fun _ st2 h2 => ?_) fun y st2 h2 => ?_
        · obtain ⟨d', hb, -, -, h2⟩ | ⟨-, ⟨x, hx, -⟩, -⟩ := h2
          · exact .inr ⟨d', c1, hb, rfl, by rw [hf], by rw [hf, ← hreceipt], by rw [hf, ← hp],
              by rw [hf, ← ha], h2⟩
          · cases hx
        · obtain ⟨d', -, ho, -⟩ | ⟨hb, ⟨z, hz, hstore⟩, log', h2, -⟩ := h2
          · cases ho
          · cases hz
            refine .inl ⟨hb, ⟨_, rfl, hstore⟩, run, h2.stored, ?_⟩
            rw [hs]
            decide
      · obtain ⟨c', t, d, ho, -⟩ := h1
        cases ho
    · obtain ⟨-, ⟨y, hy, -⟩, -⟩ | ⟨d, c', hb, ho, hn', hr', hp', ha', h1⟩ := h1
      · cases hy
      cases ho
      have hallowed : WorkflowState.executing ∈ ALLOWED_WORKFLOW_TRANSITIONS .approved := by decide
      obtain ⟨run', s, hmove, hm, h2⟩ := h1.move who hs (v := none) hallowed rfl rfl
      refine wp_clock_bind (wp_op_bind hmove ?_)
      have hid' : run'.runId = r := hm.runId.trans hid
      refine .bind (wp_audit h2 hid' _ _ (hcfg ..)) (fun _ st3 h3 => ?_) fun y st3 h3 => ?_
      · obtain ⟨d', hd', -, -, h3⟩ | ⟨-, ⟨x, hx, -⟩, -⟩ := h3
        · exact .inr ⟨d', run', c', n, by omega, rfl, hm.state, hn, hn', hr', hp', ha', h3⟩
        · cases hx
      · obtain ⟨d', -, ho, -⟩ | ⟨hd', ⟨z, hz, hstore⟩, log', h3, -⟩ := h3
        · cases ho
        · cases hz
          refine .inl ⟨by omega, ⟨_, rfl, hstore⟩, run', h3.stored, ?_⟩
          rw [hm.state]
          decide
    · obtain ⟨hb, ⟨z, hz, hstore⟩, hrun⟩ | ⟨d, c', -, ho, -⟩ := h1
      · cases hz
        exact .inl ⟨by omega, ⟨_, rfl, hstore⟩, hrun⟩
      · cases ho
  · obtain ⟨-, ⟨y, hy, -⟩, -⟩ | ⟨d, run', c', n, hb, ho, h'⟩ := h'
    · cases hy
    · cases ho
      exact .inr ⟨d, run', c', n, hb, rfl, h'⟩
  · obtain ⟨hb, ⟨y', hy, hstore⟩, hrun⟩ | ⟨d, run', c', n, -, ho, -⟩ := h'
    · cases hy
      rw [ownershipHandler_store hstore]
      exact .inl ⟨hb, ⟨_, rfl⟩, hrun⟩
    · cases ho

/-- A first execution, of an action that can be taken. -/
theorem wp_obtainFresh (who : ι) {log : AuditLog} {l : Loaded} {a : LocalApprovalDecisionRecord}
    {n : LocalExecutionIntent} {t : Time} (h : Stages e r inv log st run c)
    (hnone : c.localExecutionReceipt = none)
    (hact : Actionable e.parse inv l.proposal l.evidence) (hn : Intends l.proposal a t n)
    (hbound : executionBound l.proposal l.evidence a n) :
    ∃ x inv', Executes l.proposal a n (e.executorNow (st.tick + 1)) x inv' ∧
      e.Wp who (obtainReceipt l a n c) (fun o st' => o = .ok x ∧ st'.tick = st.tick + 2 ∧
        Stages e r inv' log st' run c) st := by
  obtain ⟨x, inv', hx, hexec⟩ := hact.execute hn hbound (e.executorNow (st.tick + 1))
  refine ⟨x, inv', hexec, ?_⟩
  unfold obtainReceipt
  rw [hnone]
  refine wp_getReceipt_bind ?_
  rw [h.inventory, hn.key, hact.unclaimed]
  have hinv := h.inventory
  subst hinv
  exact wp_execute hx ⟨rfl, rfl, h.stored, h.saved, rfl, h.log,
    h.updated.trans (e.now_mono (by simp; omega))⟩

/-- What was loaded, an approval of it and its intent are bound to one action. -/
theorem executionBound_of_loaded {l : Loaded} {a : LocalApprovalDecisionRecord}
    {n : LocalExecutionIntent} {t : Time} {parse : Json → Option SecurityGroupRule}
    (hl : prerequisitesBound l.run l.evidence l.proposal)
    (hp : c.remediationProposal = some l.proposal) (ha : c.localApproval = some a)
    (hd : a.decision = .approved) (hact : Actionable parse inv l.proposal l.evidence)
    (hn : Intends l.proposal a t n) : executionBound l.proposal l.evidence a n := by
  obtain ⟨h1, h2, h3, h4, h5⟩ := c.approval_bound hp ha
  simp only [prerequisitesBound, Bool.and_eq_true, beq_iff_eq] at hl
  obtain ⟨⟨⟨⟨⟨he1, -⟩, he3⟩, hp1⟩, hp2⟩, hp3⟩ := hl
  simp [executionBound, hact.gate, hd, hp1, he1, hp2, he3, hp3, hact.fingerprint, h1, h2, h3, h4, h5,
    hn.runId, hn.proposalId, hn.proposalHash, hn.evidenceHash, hn.decisionHash, hn.operation,
    hn.targetType, hn.targetId, hn.key]

/-- A receipt of the intent in the checkpoint, made no earlier. -/
theorem receiptBound_of_executes {p : RemediationProposal} {a : LocalApprovalDecisionRecord}
    {n : LocalExecutionIntent} {x : LocalExecutionReceipt} {t t' : Time}
    (hp : c.remediationProposal = some p) (hn : c.localExecutionIntent = some n)
    (hi : Intends p a t n) (hx : Executes p a n t' x inv) (ht : t ≤ t') : c.receiptBound x := by
  obtain ⟨h1, h2, h3, h4, h5, h6, h7, h8, h9, h10⟩ := hx.bound
  simp [CheckpointFields.receiptBound, hn, h1, c.proposal_runId hp, h2, h3, h4, h5, h6, h7, h8, h9,
    h10, hi.registeredAt, hx.executedAt, ht]

/-- **The stages of an approved run**, from `APPROVED` on: it ends in success if and only if the audit
    log has room for the intent, the execution and its acknowledgement. -/
theorem wp_drive_approved {l : Loaded} {a : LocalApprovalDecisionRecord}
    (h : Tallied e r inv st run c b 20) (hclock : ∀ k, e.executorNow k = e.now k)
    {cfg : LocalHitlConfig} (hcfg : PassesIds cfg)
    (hs : run.state = .approved) (hl : prerequisitesBound l.run l.evidence l.proposal)
    (hp : c.remediationProposal = some l.proposal) (ha : c.localApproval = some a)
    (hd : a.decision = .approved) (hnone : c.localExecutionIntent = none)
    (hact : Actionable e.parse inv l.proposal l.evidence)
    (htime : a.decidedAt ≤ e.now st.tick ∧ e.now st.tick ≤ l.proposal.expiresAt) :
    e.Wp who (drive cfg l a run c) (fun _ st' => ∃ run', st'.store.runs.get r = some run' ∧
      (run'.state = .successWithEvidence ↔ 3 ≤ b)) st := by
  have hop : l.proposal.operationType ≠ .applyRequiredTags := by
    obtain ⟨after, -, hstates⟩ := hact.action
    intro hop
    rw [hop] at hstates
    simp [ReceiptStates] at hstates
  refine .bind (wp_later (wp_establishOwnership (m := 9) h hcfg hs hp ha hd hnone hop htime))
    (fun y st1 h1 => ?_) fun y st1 h1 => ?_
  · obtain ⟨⟨hb, ⟨z, hz⟩, run1, hrun1, hs1⟩ |
      ⟨b', run1, c1, n, rfl, ho, hs1, hn, hn1, hr1, hp1, ha1, h1⟩, hlater⟩ := h1
    · cases hz
      exact ⟨run1, hrun1, iff_of_false hs1 (by omega)⟩
    cases ho
    have hbound := executionBound_of_loaded hl hp1 ha1 hd hact hn
    obtain ⟨log, h1, hv, hfull⟩ := h1
    have hroom := hv.room
    have hid : run1.runId = r := Table.key_of_get h1.stored
    obtain ⟨x, inv', hexec, hobtain⟩ := wp_obtainFresh who h1 hr1 hact hn hbound
    have hb : c1.receiptBound x := by
      refine receiptBound_of_executes hp1 hn1 hn hexec ?_
      rw [hclock]
      exact e.now_mono (by omega)
    refine .bind (wp_executeIntent hs1 cfg l a hn1 hp1
      (hobtain.mono fun o st' h' => ⟨h'.1, h'.2.1.le, h'.2.2⟩) hb (fun y hy => ?_)
      fun k hk hlt => ?_) (fun y st2 h2 => ?_) fun y st2 h2 => ?_
    · rw [hr1] at hy
      cases hy
    · exact hv.unused k hk hlt
    · obtain ⟨run2, c2, hleft, ⟨ho, ht2, hok⟩ | ⟨⟨z, hz⟩, hno⟩⟩ := h2
      · cases ho
        have hplace := hok.2
        rw [hid] at hplace
        have hthree : 3 ≤ b' + 2 := by omega
        have hexecuted : x.executedAt ≤ e.executorNow st2.tick := by
          rw [hexec.executedAt, hclock, hclock]
          exact e.now_mono ht2.1
        refine .bind (wp_verifyReceipt hleft cfg hexec.receipt hexec.unchanged hexecuted)
          (fun y st3 h3 => ?_) fun y st3 h3 => ?_
        · obtain ⟨-, run3, c3, v, hleft3, -⟩ := h3
          have hstored : st3.store.runs.get r = some run3 := by
            obtain ⟨log3, h3⟩ := hleft3.stands
            exact h3.stored
          have hsuccess := iff_of_true hleft3.state hthree
          cases y with
          | inl z => exact ⟨run3, hstored, hsuccess⟩
          | inr z => exact ends_ofExcept ⟨run3, hstored, hsuccess⟩
        · obtain ⟨⟨_, ho⟩, -⟩ := h3
          cases ho
      · -- the acknowledgement finds no room, and the call ends with the run in `VERIFYING`
        cases hz
        obtain ⟨⟨log2, h2⟩, hs2, -, -⟩ := hleft
        have hplace : ¬3 ≤ b' + 2 := by
          intro hthree
          refine hno ⟨hcfg .., ?_⟩
          rw [hid]
          omega
        refine ⟨run2, h2.stored, iff_of_false ?_ hplace⟩
        rw [hs2]
        decide
    · obtain ⟨run2, c2, -, ⟨ho, -⟩ | ⟨⟨z, ho⟩, -⟩⟩ := h2 <;> cases ho
  · obtain ⟨⟨-, ⟨z, ho⟩, -⟩ | ⟨d', run1, c1, n, -, ho, -⟩, -⟩ := h1 <;> cases ho

/-- **Up to the mutation**: a `resume` of an approved run by the deciding session goes through a
    state in which the action is applied and nothing of it is recorded. -/
theorem passes_mutation {principal : LocalOperatorPrincipal} {l : Loaded}
    {a : LocalApprovalDecisionRecord} (h : Poised e r inv st l.run l.checkpoint (b + 2) (m + 16))
    (hclock : ∀ k, e.executorNow k = e.now k)
    {cfg : LocalHitlConfig} (hcfg : PassesIds cfg) (hs : l.run.state = .approved)
    (hl : loadedOf (some l.run) (some l.checkpoint) = .succeeded l)
    (ha : l.checkpoint.localApproval = some a) (hd : a.decision = .approved)
    (hsession : a.actorSessionId = principal.actorSessionId)
    (hnone : l.checkpoint.localExecutionIntent = none)
    (hact : Actionable e.parse inv l.proposal l.evidence) (hdecided : a.decidedAt ≤ e.now st.tick)
    (htime : e.now (st.tick + 3) ≤ l.proposal.expiresAt) :
    Passes (e.respond who) (resume cfg r principal) (fun st' => ∃ run c x,
      MutationDone st'.world r run c x ∧ run.state = .executing ∧
      x.executedAt ≤ e.now st'.tick ∧
      c.remediationProposal = some l.proposal ∧ c.localApproval = some a ∧
      Poised e r st'.world.inventory st' run c b m) st := by
  obtain ⟨-, -, -, hp, hbound⟩ := loadedOf_succeeded hl
  have hop : l.proposal.operationType ≠ .applyRequiredTags := by
    obtain ⟨after, -, hstates⟩ := hact.action
    intro hop
    rw [hop] at hstates
    simp [ReceiptStates] at hstates
  obtain ⟨d, log, h, hv, hfull⟩ := h.tallied
  refine .bind ((wp_load h).mono fun o st1 h1 => ?_)
  obtain ⟨ho, htick, h1⟩ := h1
  rw [hl] at ho
  refine ⟨_, ho, ?_⟩
  have hdenied : a.decision ≠ .denied := by rw [hd]; decide
  have hsuccess : l.run.state ≠ .successWithEvidence := by rw [hs]; decide
  have hawaiting : l.run.state ≠ .awaitingApproval := by rw [hs]; decide
  have hintime : ¬l.proposal.expiresAt < e.now st1.tick := by
    rw [htick]
    exact not_lt.mpr ((e.now_mono (by omega)).trans htime)
  simp only [resumeLoaded, ha, hsession, ne_eq, not_true, if_false, hdenied, hsuccess,
    resumeApproved, applyIfAwaiting, hawaiting]
  refine .call ?_
  change Passes (e.respond who) (if l.proposal.expiresAt < e.now st1.tick then _ else _) _ st1.next
  rw [if_neg hintime]
  have hnow : a.decidedAt ≤ e.now st1.next.tick ∧ e.now st1.next.tick ≤ l.proposal.expiresAt := by
    constructor
    · exact hdecided.trans (e.now_mono (by simp only [LocalSolo.next_tick, htick]; omega))
    · rw [LocalSolo.next_tick, htick]
      exact htime
  have hnext : st.tick ≤ st1.next.tick := by
    simp only [LocalSolo.next_tick, htick]
    omega
  have hv1 : Vacant e r log st1.next.tick (b + 2 + d) (m + 2 + 11) := by
    refine hv.later hnext ?_
    simp only [LocalSolo.next_tick, htick]
    omega
  refine .bind ((wp_later (wp_establishOwnership ⟨log, h1.next, hv1, hfull⟩ hcfg hs hp ha hd hnone
    hop hnow)).mono fun o st2 h2 => ?_)
  obtain ⟨⟨hlow, -⟩ | ⟨d', run1, c1, n, hd', ho, hs1, hn, hn1, hr1, hp1, ha1, h2⟩, hlater⟩ := h2
  · omega
  refine ⟨_, ho, .bind_left ?_⟩
  have hexecution := executionBound_of_loaded hbound hp1 ha1 hd hact hn
  obtain rfl : d' = b + d := by omega
  obtain ⟨log2, h2, hv2⟩ := h2.poised
  obtain ⟨x, inv', hexec, hobtain⟩ := wp_obtainFresh who h2 hr1 hact hn hexecution
  unfold executeIntent
  rw [if_neg (not_not.mpr hs1), hn1]
  refine .bind_left (.attempt (.bind (hobtain.mono fun o st3 h3 => ?_)))
  obtain ⟨ho, htick3, h3⟩ := h3
  refine ⟨_, ho, .here ⟨run1, c1, x, ?_, hs1, ?_, hp1, ha1, ?_⟩⟩
  · have hreceipt := hexec.receipt
    have hunchanged := hexec.unchanged
    rw [← h3.inventory] at hreceipt hunchanged
    refine ⟨h3.stored, .inl hs1, h3.saved, ?_, hreceipt, hunchanged⟩
    refine receiptBound_of_executes hp1 hn1 hn hexec ?_
    rw [hclock]
    exact e.now_mono (by omega)
  · rw [hexec.executedAt, hclock, htick3]
    exact e.now_mono (by omega)
  · exact ⟨log2, by rw [h3.inventory]; exact h3, hv2.later (by omega) (by omega)⟩

end LocalHitlExecutionFlow

end Progress

/-! ## A crash after the mutation -/

namespace Sample

section Crash

variable [Sha256]

omit [Sha256] in
theorem passesIds : PassesIds localConfig := fun _ _ _ => rfl

theorem actionable : Actionable (fun _ => none) localInventory remediation evidence where
  gate := rfl
  fingerprint := rfl
  target := ⟨rfl, rfl⟩
  unchanged := Table.get_put_self ..
  action := ⟨none, rfl, rfl⟩
  unclaimed := rfl

/-- The approved run, about to be resumed. -/
abbrev approvedStart : LocalSolo Nat :=
  ⟨⟨⟨localStore .approved approvedCheckpoint, []⟩, localInventory, []⟩, 0⟩

theorem poised : Poised (localEnvironment 10 10) (uid 1) localInventory approvedStart
    { run with state := .approved, version := 6, version_pos := sixth_version } approvedCheckpoint 6
    60 := by
  refine ⟨∅, ⟨Table.get_put_self .., Table.get_put_self .., rfl, rfl, Nat.zero_le _⟩, ?_, ?_, ?_⟩
  · intro n _ _
    rfl
  · intro i j _ hij hj
    change j < 60 at hj
    intro heq
    have hij' := uid_injective (by omega) (by omega) heq
    omega
  · decide

/-- The loaded sample run. -/
abbrev approvedLoaded : Loaded :=
  ⟨{ run with state := .approved, version := 6, version_pos := sixth_version }, approvedCheckpoint,
    evidence, remediation⟩

theorem loaded : loadedOf (some approvedLoaded.run) (some approvedLoaded.checkpoint) =
    .succeeded approvedLoaded := by
  have hbound : prerequisitesBound approvedLoaded.run evidence remediation := by
    simp [prerequisitesBound, evidence, remediation, run]
  simp only [loadedOf, approvedCheckpoint]
  rw [if_pos hbound]
  rfl

/-- Client 1 resumes the approved run and crashes after the mutation. -/
theorem crashes : ∃ (c : Config Nat (LocalWorld Nat) Req Req.Ans PyExc Reply) (run : Run)
    (d : Checkpoint) (x : LocalExecutionReceipt) (k : Nat),
    LocalReachable (fun _ => none) localCalls approvedStart.world.world localInventory c ∧
    MutationDone c.world (uid 1) run d x ∧ run.state = .executing ∧ x.executedAt ≤ 10 ∧
    d.remediationProposal = some remediation ∧ d.localApproval = some localDecision ∧
    Poised (localEnvironment 10 10) (uid 1) c.world.inventory ⟨c.world, k⟩ run d 4 44 := by
  obtain ⟨w, hvisits, run, d, x, hdone, hs, hat, hp, ha, hpoised⟩ :
      Passes ((localEnvironment 10 10).respond 1) (resume localConfig (uid 1) operator) _ _ :=
    passes_mutation (l := approvedLoaded) (m := 44) (b := 4) poised (fun _ => rfl) passesIds rfl
      loaded rfl rfl rfl rfl actionable (show (2 : Time) ≤ 10 by decide)
      (show (10 : Time) ≤ 100 by decide)
  obtain ⟨q, hsteps⟩ := steps_visits (localAnswers fun _ => none) LocalSolo.world
    ((localEnvironment 10 10).localAnswers_respond 1) hvisits.bind_left
    (fun i => (localCalls i).flow) rfl
  exact ⟨_, run, d, x, w.tick, hsteps, hdone, hs, hat, hp, ha, hpoised⟩

theorem localReady : LocalReady (ι := Nat) ⟨localStore .approved approvedCheckpoint, []⟩
    localInventory where
  active r run hrun hs := by
    obtain ⟨-, rfl⟩ | ⟨-, hrun⟩ := Table.get_put_cases hrun
    · rcases hs with hs | hs <;> cases hs
    · cases hrun
  receipts r c x hc hx := by
    obtain ⟨-, rfl⟩ | ⟨-, hc⟩ := Table.get_put_cases hc
    · cases hx
    · cases hc

/-- Later environments of the crashed run. -/
theorem calm {w : LocalWorld Nat} {run : Run} {d : Checkpoint} {x : LocalExecutionReceipt} {k : Nat}
    {t : Time} {inv : Inventory} (h : Poised (localEnvironment 10 10) (uid 1) inv ⟨w, k⟩ run d 4 44)
    (hx : x.executedAt ≤ 10) (ht : 10 ≤ t) :
    Calm (localEnvironment (10 + k) t) w run x := by
  obtain ⟨log, h, hv⟩ := h
  refine ⟨h.updated.trans ht, fun _ => hx.trans ht, fun j hj => ?_⟩
  have hid := Table.key_of_get h.stored
  change run.runId = uid 1 at hid
  have hnone := hv.unused (k + j) (Nat.le_add_right ..) (by simp; omega)
  rw [← h.log, ← hid] at hnone
  change w.world.store.auditEvents.get (run.runId, uid (10 + k + j)) = none
  rw [Nat.add_assoc]
  exact hnone

end Crash

attribute [local instance] Sha256.standard in
/-- **Too late**: the sample run crashes after its mutation, and the `resume` that finds the approved
    proposal expired gives the run up. -/
theorem resume_too_late : ∃ (c : Config Nat (LocalWorld Nat) Req Req.Ans PyExc Reply) (run : Run)
    (d : Checkpoint) (x : LocalExecutionReceipt) (e : LocalEnvironment),
    LocalReady (ι := Nat) approvedStart.world.world localInventory ∧
    LocalReachable (fun _ => none) localCalls approvedStart.world.world localInventory c ∧
    MutationDone c.world (uid 1) run d x ∧ d.localApproval = some localDecision ∧
    localDecision.actorSessionId = operator.actorSessionId ∧ Calm e c.world run x ∧
    ¬e.Wp 2 (resume localConfig (uid 1) operator) (fun _ st => LocalClosed st.world (uid 1) x)
      ⟨c.world, 0⟩ := by
  obtain ⟨c, run, d, x, k, hc, hdone, hs, hat, hp, ha, hpoised⟩ := crashes
  have hcalm := calm (t := 200) hpoised hat (by decide)
  refine ⟨c, run, d, x, localEnvironment (10 + k) 200, localReady, hc, hdone, ha, rfl, hcalm,
    fun hclosed => ?_⟩
  have hdecides : (localEnvironment (10 + k) 200).Wp 2 (resume localConfig (uid 1) operator) _ _ :=
    resume_ends localConfig localReady hc hdone hp ha rfl hcalm
  exact absurd (hdecides.mp hclosed).1 (show ¬(200 : Time) ≤ 100 by decide)

attribute [local instance] Sha256.standard in
/-- In time, the same run is closed. -/
theorem resume_converges_sample : ∃ (c : Config Nat (LocalWorld Nat) Req Req.Ans PyExc Reply)
    (x : LocalExecutionReceipt) (e : LocalEnvironment),
    e.Wp 2 (resume localConfig (uid 1) operator) (fun _ st => LocalClosed st.world (uid 1) x)
      ⟨c.world, 0⟩ := by
  obtain ⟨c, run, d, x, k, hc, hdone, hs, hat, hp, ha, hpoised⟩ := crashes
  have hcalm := calm (t := 10) hpoised hat le_rfl
  refine ⟨c, x, localEnvironment (10 + k) 10, (resume_converges_iff localConfig localReady hc
    hdone hp ha rfl hcalm).mpr ⟨?_, fun _ => ?_⟩⟩
  · exact show (10 : Time) ≤ 100 by decide
  · obtain ⟨log, h, hv⟩ := hpoised
    have hroom := hv.room
    have hid := Table.key_of_get h.stored
    change run.runId = uid 1 at hid
    have hlog := h.log
    change c.world.world.store.auditEvents = log at hlog
    refine ⟨passesIds .., ?_⟩
    rw [hlog, hid]
    omega

end Sample

end CloudOpsAgent
