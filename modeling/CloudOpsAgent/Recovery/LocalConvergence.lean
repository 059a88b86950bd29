/-
  Convergence of `resume` after a crash.

  A run in `EXECUTING` or `VERIFYING` whose mutation is done (`MutationDone`) needs no more authority:
  the receipt of its intent is in the inventory, and all that is left is to record it, verify it and
  close the run.  `resume_converges_iff` says when one more `resume` does so.  It is not always: the
  expiry of the approved proposal is checked again before the receipt is looked for, so a run that
  was interrupted and is resumed late ends in `RECOVERY_REQUIRED`, its mutation applied and never
  verified.  The other way to be stopped is an audit log that is full.
-/
import CloudOpsAgent.Recovery.LocalRuns

namespace CloudOpsAgent

open ClientProg ClientProg.Prog LocalEnvironment LocalHitlExecutionFlow

variable [Sha256] {ι : Type}

/-! ## What a checkpoint holds -/

section Bindings

variable {c : Checkpoint} {p : RemediationProposal} {n : LocalExecutionIntent}
  {x : LocalExecutionReceipt} {v : LocalVerificationEvidence}

theorem CheckpointFields.receiptBound_iff {c : CheckpointFields} (h : c.receiptBound x) :
    ∃ n, c.localExecutionIntent = some n ∧ x.runId = c.runId ∧ x.proposalId = n.proposalId ∧
      x.idempotencyKey = n.idempotencyKey := by
  unfold CheckpointFields.receiptBound at h
  split at h
  · cases h
  · rename_i n hn
    simp only [Bool.and_eq_true, beq_iff_eq] at h
    obtain ⟨⟨⟨⟨⟨⟨⟨⟨⟨⟨h1, h2⟩, -⟩, -⟩, -⟩, -⟩, h7⟩, -⟩, -⟩, -⟩, -⟩ := h
    exact ⟨n, hn, h1, h2, h7⟩

/-- An intent is that of the approved proposal. -/
theorem Checkpoint.intent_bound (hn : c.localExecutionIntent = some n) :
    ∃ p a, c.remediationProposal = some p ∧ c.localApproval = some a ∧ a.decision = .approved ∧
      n.proposalId = p.proposalId := by
  obtain ⟨-, -, -, -, -, -, h, -, -⟩ := CheckpointFields.violation_eq_none _ |>.mp c.valid
  simp only [hn, Option.all_some, CheckpointFields.intentBound] at h
  split at h
  · rename_i p a hp ha
    simp only [Bool.and_eq_true, beq_iff_eq] at h
    obtain ⟨⟨⟨⟨⟨⟨⟨⟨⟨⟨⟨h1, -⟩, h3⟩, -⟩, -⟩, -⟩, -⟩, -⟩, -⟩, -⟩, -⟩, -⟩ := h
    exact ⟨p, a, hp, ha, h1, h3⟩
  · cases h

theorem Checkpoint.receipt_bound (hx : c.localExecutionReceipt = some x) : c.receiptBound x := by
  obtain ⟨-, -, -, -, -, -, -, h, -⟩ := CheckpointFields.violation_eq_none _ |>.mp c.valid
  simpa only [hx, Option.all_some] using h

theorem Checkpoint.proposal_runId (hp : c.remediationProposal = some p) : p.runId = c.runId := by
  obtain ⟨-, -, -, h, -⟩ := CheckpointFields.violation_eq_none _ |>.mp c.valid
  simp only [hp, Option.all_some, CheckpointFields.proposalBound] at h
  split at h
  · cases h
  · simp only [Bool.and_eq_true, beq_iff_eq] at h
    exact h.1.1.1

/-- Receipt and verification of a checkpoint prove the success of its proposal. -/
theorem Store.localProofValid_of {s : Store} {r : UUID} (hc : s.checkpoints.get r = some c)
    (hp : c.remediationProposal = some p) (hx : c.localExecutionReceipt = some x)
    (hv : c.localVerification = some v) : s.localProofValid r p.proposalId := by
  have hid := Table.key_of_get hc
  change c.runId = r at hid
  obtain ⟨n, hn, hxr, hxp, -⟩ := CheckpointFields.receiptBound_iff (c.receipt_bound hx)
  obtain ⟨p', -, hp', -, -, hnp⟩ := c.intent_bound hn
  rw [hp] at hp'
  cases hp'
  obtain ⟨-, -, -, -, -, -, -, -, h⟩ := CheckpointFields.violation_eq_none _ |>.mp c.valid
  simp only [hv, Option.all_some, CheckpointFields.verificationBound, hx, Bool.and_eq_true,
    beq_iff_eq] at h
  obtain ⟨⟨⟨⟨⟨⟨⟨h1, h2⟩, h3⟩, -⟩, -⟩, -⟩, -⟩, -⟩ := h
  simp [Store.localProofValid, hc, hp, hx, hv, c.proposal_runId hp, hid, hxr, hxp, hnp, h1, h2, h3]

/-- A receipt bound to the intent may be added to a checkpoint without one. -/
theorem Checkpoint.accepts_receipt (hx : c.receiptBound x) (hnone : c.localExecutionReceipt = none)
    (t : Time) (m : Dict String Json) :
    { c.toCheckpointFields with
      localExecutionReceipt := some x, createdAt := t, lastSafeState := .approved,
      resumeMetadata := m, version := c.version + 1 }.violation = none := by
  obtain ⟨-, -, h1, h2, h3, h4, h5, -, -⟩ := CheckpointFields.violation_eq_none _ |>.mp c.valid
  have hverification : c.localVerification = none := by
    have h := c.chain.1
    rw [hnone] at h
    simpa using h
  refine CheckpointFields.violation_eq_none _ |>.mpr
    ⟨Nat.succ_ne_zero _, by simp, h1, h2, h3, h4, h5, hx, ?_⟩
  simp [hverification]

/-- What its receipt shows may be added to a checkpoint. -/
theorem Checkpoint.accepts_verification (hx : c.localExecutionReceipt = some x)
    (hv : Inventory.Verifies x v) (ht : x.executedAt ≤ v.verifiedAt) (t : Time)
    (m : Dict String Json) :
    { c.toCheckpointFields with
      localVerification := some v, createdAt := t, lastSafeState := .approved,
      resumeMetadata := m, version := c.version + 1 }.violation = none := by
  obtain ⟨-, -, h1, h2, h3, h4, h5, h6, -⟩ := CheckpointFields.violation_eq_none _ |>.mp c.valid
  obtain ⟨-, -, hrun, -⟩ := CheckpointFields.receiptBound_iff (c.receipt_bound hx)
  refine CheckpointFields.violation_eq_none _ |>.mpr
    ⟨Nat.succ_ne_zero _, by simp, h1, h2, h3, h4, h5, h6, ?_⟩
  simp [CheckpointFields.verificationBound, hx, hv.runId, hrun, hv.proposalId, hv.receiptHash,
    hv.operation, hv.targetType, hv.targetId, hv.observed, ht]

end Bindings

/-! ## The stages, on a mutation that is done -/

namespace LocalHitlExecutionFlow

variable {e : LocalEnvironment} {r : UUID} {inv : Inventory} {log : AuditLog} {st : LocalSolo ι}
  {run : Run} {c : Checkpoint} {who : ι} {x : LocalExecutionReceipt} {n : LocalExecutionIntent}

/-- The receipt is found, in the checkpoint or in the inventory. -/
theorem wp_obtainReceipt (h : Stages e r inv log st run c) (l : Loaded)
    (a : LocalApprovalDecisionRecord) (hx : inv.receipts.get n.idempotencyKey = some x)
    (hsame : ∀ y, c.localExecutionReceipt = some y → y = x) :
    e.Wp who (obtainReceipt l a n c) (fun o st' => o = .ok x ∧ st'.tick ≤ st.tick + 2 ∧
      Stages e r inv log st' run c) st := by
  unfold obtainReceipt
  split
  · rename_i y hy
    exact wp_ret ⟨congrArg Except.ok (hsame y hy), by omega, h⟩
  · refine wp_getReceipt_bind ?_
    rw [h.inventory, hx]
    exact wp_ret ⟨rfl, by simp, h.next⟩

theorem wp_recordReceipt (h : Stages e r inv log st run c) (hb : c.receiptBound x)
    (hsame : ∀ y, c.localExecutionReceipt = some y → y = x) :
    e.Wp who (recordReceipt c x) (fun o st' => ∃ c', o = .ok c' ∧
      c'.localExecutionReceipt = some x ∧ c'.remediationProposal = c.remediationProposal ∧
      st'.tick ≤ st.tick + 2 ∧ Stages e r inv log st' run c') st := by
  unfold recordReceipt
  split
  · rename_i hnone
    have hnone := Option.isNone_iff_eq_none.mp hnone
    refine (wp_saveNext h rfl fun t m => c.accepts_receipt hb hnone t m).mono fun o st' hs => ?_
    obtain ⟨c', t, m, ho, hf, htick, h'⟩ := hs
    exact ⟨c', ho, by rw [hf], by rw [hf], htick.le, h'⟩
  · rename_i hsome
    cases hy : c.localExecutionReceipt with
    | none => exact absurd (by rw [hy]; rfl) hsome
    | some y =>
      obtain rfl := hsame y hy
      exact wp_ret ⟨c, rfl, hy, rfl, by omega, h⟩

/-- An error of the repository or of a validator ends a stage and changes nothing. -/
theorem executionHandler_store (run : Run) {y : PyExc} (h : y.isStorage || y.isValueError) :
    ∃ z, executionHandler run y = some (.ret (.inl z)) := by
  cases y <;> first | exact ⟨_, rfl⟩ | simp [PyExc.isStorage, PyExc.isValueError] at h

theorem verificationHandler_store (run : Run) {y : PyExc} (h : y.isStorage || y.isValueError) :
    ∃ z, verificationHandler run y = some (.ret (.inl z)) := by
  cases y <;> first | exact ⟨_, rfl⟩ | simp [PyExc.isStorage, PyExc.isValueError] at h

/-- The run as it is after a stage. -/
structure Left (e : LocalEnvironment) (r : UUID) (inv : Inventory) (x : LocalExecutionReceipt)
    (p : RemediationProposal) (state : WorkflowState) (st : LocalSolo ι) (run : Run)
    (c : Checkpoint) : Prop where
  stands : ∃ log, Stages e r inv log st run c
  state : run.state = state
  receipt : c.localExecutionReceipt = some x
  proposal : c.remediationProposal = some p

/-- **`EXECUTING`**, the mutation being done: the run is `VERIFYING` afterwards with the receipt in
    its checkpoint, and the call goes on if the audit log has room. -/
theorem wp_executeIntent (hs : run.state = .executing) (cfg : LocalHitlConfig) (l : Loaded)
    (a : LocalApprovalDecisionRecord) (hn : c.localExecutionIntent = some n)
    (hp : c.remediationProposal = some l.proposal)
    (hobtain : e.Wp who (obtainReceipt l a n c) (fun o st' => o = .ok x ∧
      st'.tick ≤ st.tick + 2 ∧ Stages e r inv log st' run c) st) (hb : c.receiptBound x)
    (hsame : ∀ y, c.localExecutionReceipt = some y → y = x)
    (hunused : ∀ k, st.tick ≤ k → k < st.tick + 9 → log.get (r, e.ids k) = none) :
    e.Wp who (executeIntent cfg l a run c) (fun o st' => ∃ run' c',
      Left e r inv x l.proposal .verifying st' run' c' ∧
      (o = .ok (.inr (run', c')) ∧ (st.tick < st'.tick ∧ st'.tick ≤ st.tick + 9) ∧ AuditRoom cfg log run
          (Dict.ofPairs [("proposal_id", l.proposal.proposalId.str)]) ∨
        (∃ y, o = .ok (.inl y)) ∧ ¬AuditRoom cfg log run
          (Dict.ofPairs [("proposal_id", l.proposal.proposalId.str)]))) st := by
  unfold executeIntent
  rw [if_neg (not_not.mpr hs), hn]
  refine ends_try (R := fun o st' => ∃ run' c', Left e r inv x l.proposal .verifying st' run' c' ∧
      (o = .ok (run', c') ∧ (st.tick < st'.tick ∧ st'.tick ≤ st.tick + 9) ∧ AuditRoom cfg log run
          (Dict.ofPairs [("proposal_id", l.proposal.proposalId.str)]) ∨
        ∃ y, o = .error y ∧ (y.isStorage || y.isValueError) ∧ ¬AuditRoom cfg log run
          (Dict.ofPairs [("proposal_id", l.proposal.proposalId.str)])))
    ?_ (fun a st' h' => ?_) fun y st' h' => ?_
  · refine .bind (wp_later hobtain) (fun y st1 h1 => ?_) fun y st1 h1 => ?_
    · obtain ⟨⟨hy, ht1', h1⟩, ht1⟩ := h1
      cases hy
      refine .bind (wp_later (wp_recordReceipt h1 hb hsame)) (fun c1 st2 h2 => ?_)
        fun y st2 h2 => ?_
      · obtain ⟨⟨c', hc', hreceipt, hproposal, ht2', h2⟩, ht2⟩ := h2
        cases hc'
        obtain ⟨run', s, hmove, hm, h3⟩ := h2.move who hs (v := none)
          (show WorkflowState.verifying ∈ ALLOWED_WORKFLOW_TRANSITIONS .executing by decide) rfl rfl
        refine wp_clock_bind (wp_op_bind hmove ?_)
        have hid := Table.key_of_get h3.stored
        change run'.runId = r at hid
        have hroom : AuditRoom cfg log run' = AuditRoom cfg log run := by
          funext m
          simp only [AuditRoom, hm.runId, hm.traceId, hm.correlationId]
        have hleft {st4 : LocalSolo ι} (hlog : ∃ log', Stages e r inv log' st4 run' c1) :
            Left e r inv x l.proposal .verifying st4 run' c1 :=
          ⟨hlog, hm.state, hreceipt, hproposal.trans hp⟩
        refine .bind (wp_appendEvent h3 hid _ _ _) (fun _ st4 h4 => ?_) fun y st4 h4 => ?_
        · obtain ⟨-, hr, event, -, ht4, h4⟩ | ⟨y, hy, -⟩ := h4
          · refine ⟨run', c1, hleft ⟨_, h4⟩, .inl ⟨rfl, ?_, hroom ▸ hr⟩⟩
            change st.tick < st4.tick ∧ st4.tick ≤ st.tick + 9
            simp only [LocalSolo.applied_tick, LocalSolo.next_tick] at ht4
            omega
          · cases hy
        · obtain ⟨hy, -⟩ | ⟨z, hz, hstore, h4, hr⟩ := h4
          · cases hy
          · cases hz
            refine ⟨run', c1, hleft ⟨_, h4⟩, .inr ⟨y, rfl, hstore, hroom ▸ hr (hunused _ ?_ ?_)⟩⟩
            · simp only [LocalSolo.applied_tick, LocalSolo.next_tick]
              omega
            · simp only [LocalSolo.applied_tick, LocalSolo.next_tick]
              omega
      · obtain ⟨⟨c', hc', -⟩, -⟩ := h2
        cases hc'
    · obtain ⟨⟨hy, -⟩, -⟩ := h1
      cases hy
  · obtain ⟨run', c', hleft, ⟨ho, ht, hr⟩ | ⟨y, ho, -⟩⟩ := h'
    · cases ho
      exact ⟨run', c', hleft, .inl ⟨rfl, ht, hr⟩⟩
    · cases ho
  · obtain ⟨run', c', hleft, ⟨ho, -⟩ | ⟨z, ho, hz, hr⟩⟩ := h'
    · cases ho
    · cases ho
      obtain ⟨z, hhandler⟩ := executionHandler_store run hz
      rw [hhandler]
      exact ⟨run', c', hleft, .inr ⟨⟨z, rfl⟩, hr⟩⟩

/-- The verification is found in the checkpoint, or made from the inventory. -/
theorem wp_obtainVerification {p : RemediationProposal} (h : Stages e r inv log st run c)
    (hx : c.localExecutionReceipt = some x) (hp : c.remediationProposal = some p)
    (hget : inv.receipts.get x.idempotencyKey = some x)
    (hafter : inv.observed x = x.afterResource) (ht : x.executedAt ≤ e.executorNow st.tick) :
    e.Wp who (obtainVerification x c) (fun o st' => ∃ v c', o = .ok (v, c') ∧
      c'.localVerification = some v ∧ c'.localExecutionReceipt = some x ∧
      c'.remediationProposal = some p ∧ Stages e r inv log st' run c') st := by
  unfold obtainVerification
  split
  · rename_i v hv
    exact wp_ret ⟨v, c, rfl, hv, hx, hp, h⟩
  obtain ⟨v, hv, hverifies, hat⟩ := Inventory.verify_of_unchanged hget hafter (e.executorNow st.tick)
  rw [← h.inventory] at hv
  refine wp_verify_bind hv ?_
  refine .bind (wp_saveNext h.next rfl fun t m =>
    c.accepts_verification hx hverifies (hat ▸ ht) t m) (fun c1 st2 h2 => ?_) fun y st2 h2 => ?_
  · obtain ⟨c', t, m, ho, hf, -, h2⟩ := h2
    cases ho
    exact wp_ret ⟨v, c1, rfl, by rw [hf], by rw [hf, hx], by rw [hf, hp], h2⟩
  · obtain ⟨c', t, m, ho, -⟩ := h2
    cases ho

/-- **`VERIFYING`**, the receipt being recorded: the run is closed afterwards. -/
theorem wp_verifyReceipt {l : Loaded} (hleft : Left e r inv x l.proposal .verifying st run c)
    (cfg : LocalHitlConfig) (hget : inv.receipts.get x.idempotencyKey = some x)
    (hafter : inv.observed x = x.afterResource) (ht : x.executedAt ≤ e.executorNow st.tick) :
    e.Wp who (verifyReceipt cfg l run c) (fun o st' => (∃ y, o = .ok y) ∧ ∃ run' c' v,
      Left e r inv x l.proposal .successWithEvidence st' run' c' ∧
      c'.localVerification = some v) st := by
  obtain ⟨⟨log, h⟩, hs, hx, hp⟩ := hleft
  unfold verifyReceipt
  rw [if_neg (not_not.mpr hs), hx]
  refine ends_try (R := fun o st' => (∀ y, o = .error y → y.isStorage || y.isValueError) ∧
      ∃ run' c' v, Left e r inv x l.proposal .successWithEvidence st' run' c' ∧
        c'.localVerification = some v)
    ?_ (fun a st' h' => ⟨⟨_, rfl⟩, h'.2⟩) fun y st' h' => ?_
  · refine .bind (wp_obtainVerification h hx hp hget hafter ht) (fun y st1 h1 => ?_)
      fun y st1 h1 => ?_
    · obtain ⟨v, c1, ho, hv, hx1, hp1, h1⟩ := h1
      cases ho
      have hproof : st1.store.successCheck r .successWithEvidence (some l.proposal.proposalId) =
          .ok () := by
        have hlocal := Store.localProofValid_of h1.saved hp1 hx1 hv
        simp [Store.successCheck, hlocal]
      obtain ⟨run', s, hmove, hm, h2⟩ := h1.move who hs (by decide) rfl hproof
      refine wp_clock_bind (wp_op_bind hmove ?_)
      refine .bind (wp_saveNext h2 rfl fun t m => c1.validate_update m c1.toolResultHashes
        (by decide) t) (fun c2 st3 h3 => ?_) fun y st3 h3 => ?_
      · obtain ⟨c', t, m, ho, hf, -, h3⟩ := h3
        cases ho
        have hclosed {st4 : LocalSolo ι} (hlog : ∃ log', Stages e r inv log' st4 run' c2) :
            ∃ run' c' v, Left e r inv x l.proposal .successWithEvidence st4 run' c' ∧
              c'.localVerification = some v :=
          ⟨run', c2, v, ⟨hlog, hm.state, by rw [hf]; exact hx1, by rw [hf]; exact hp1⟩,
            by rw [hf]; exact hv⟩
        have hid := Table.key_of_get h3.stored
        refine .bind (wp_appendEvent h3 hid _ _ _) (fun _ st4 h4 => ?_) fun y st4 h4 => ?_
        · obtain ⟨-, -, event, -, -, h4⟩ | ⟨z, hz, -⟩ := h4
          · exact ⟨fun _ hy => (by cases hy), hclosed ⟨_, h4⟩⟩
          · cases hz
        · obtain ⟨hz, -⟩ | ⟨z, hz, hstore, h4, -⟩ := h4
          · cases hz
          · cases hz
            refine ⟨fun y hy => ?_, hclosed ⟨_, h4⟩⟩
            cases hy
            exact hstore
      · obtain ⟨c', t, m, ho, -⟩ := h3
        cases ho
    · obtain ⟨v, c1, ho, -⟩ := h1
      cases ho
  · obtain ⟨hstore, hclosed⟩ := h'
    obtain ⟨z, hz⟩ := verificationHandler_store run (hstore y rfl)
    rw [hz]
    exact ⟨⟨_, rfl⟩, hclosed⟩

/-- The stages one after the other: the run is closed, or there was no room for the acknowledgement
    of its mutation and it is left in `VERIFYING`. -/
theorem wp_drive {l : Loaded} (h : Stages e r inv log st run c) (hs : run.state.protectedExecution)
    (cfg : LocalHitlConfig) (a : LocalApprovalDecisionRecord)
    (hn : c.localExecutionIntent = some n) (hp : c.remediationProposal = some l.proposal)
    (hkey : x.idempotencyKey = n.idempotencyKey) (hb : c.receiptBound x)
    (hsame : ∀ y, c.localExecutionReceipt = some y → y = x)
    (hrecorded : run.state = .verifying → c.localExecutionReceipt.isSome)
    (hget : inv.receipts.get x.idempotencyKey = some x)
    (hafter : inv.observed x = x.afterResource) (ht : ∀ k, x.executedAt ≤ e.executorNow k)
    (hunused : ∀ k, st.tick ≤ k → k < st.tick + 9 → log.get (r, e.ids k) = none) :
    e.Wp who (drive cfg l a run c) (fun _ st' =>
      (∃ run' c' v, Left e r inv x l.proposal .successWithEvidence st' run' c' ∧
        c'.localVerification = some v) ∧ (run.state = .executing → AuditRoom cfg log run
          (Dict.ofPairs [("proposal_id", l.proposal.proposalId.str)])) ∨
      (∃ run' c', Left e r inv x l.proposal .verifying st' run' c') ∧ run.state = .executing ∧
        ¬AuditRoom cfg log run (Dict.ofPairs [("proposal_id", l.proposal.proposalId.str)])) st := by
  have happroved : run.state ≠ .approved := by
    rcases hs with hs | hs <;> rw [hs] <;> decide
  refine .bind (R := fun o st1 => o = .ok (.inr (run, c)) ∧ st1 = st) ?_
    (fun y st1 h1 => ?_) fun y st1 h1 => by cases h1.1
  · unfold establishOwnership
    rw [if_pos happroved]
    exact wp_ret ⟨rfl, rfl⟩
  obtain ⟨ho, rfl⟩ := h1
  cases ho
  -- the last stage closes every run that reaches it
  have closes {run' : Run} {c' : Checkpoint} {st2 : LocalSolo ι}
      (hleft : Left e r inv x l.proposal .verifying st2 run' c')
      (hroom : run.state = .executing → AuditRoom cfg log run
        (Dict.ofPairs [("proposal_id", l.proposal.proposalId.str)])) :
      e.Wp who (verifyReceipt cfg l run' c') (fun o st3 => (∃ y, o = .ok y) ∧
        (∃ run' c' v, Left e r inv x l.proposal .successWithEvidence st3 run' c' ∧
          c'.localVerification = some v) ∧ (run.state = .executing → AuditRoom cfg log run
            (Dict.ofPairs [("proposal_id", l.proposal.proposalId.str)]))) st2 :=
    (wp_verifyReceipt hleft cfg hget hafter (ht _)).mono fun o st3 h3 => ⟨h3.1, h3.2, hroom⟩
  rcases hs with hs | hs
  · refine .bind (wp_executeIntent hs cfg l a hn hp
      (wp_obtainReceipt h l a (hkey ▸ hget) hsame) hb hsame hunused)
      (fun y st2 h2 => ?_) fun y st2 h2 => ?_
    · obtain ⟨run', c', hleft, ⟨ho, -, hroom⟩ | ⟨⟨z, ho⟩, hroom⟩⟩ := h2
      · cases ho
        refine .bind (closes hleft fun _ => hroom) (fun y st3 h3 => ?_) fun y st3 h3 => ?_
        · cases y with
          | inl z => exact .inl h3.2
          | inr z => exact ends_ofExcept (.inl h3.2)
        · obtain ⟨⟨_, ho⟩, -⟩ := h3
          cases ho
      · cases ho
        exact .inr ⟨⟨run', c', hleft⟩, hs, hroom⟩
    · obtain ⟨run', c', hleft, ⟨ho, -⟩ | ⟨⟨z, ho⟩, -⟩⟩ := h2 <;> cases ho
  · have hne : run.state ≠ .executing := by rw [hs]; decide
    obtain ⟨y, hy⟩ := Option.isSome_iff_exists.mp (hrecorded hs)
    obtain rfl := hsame y hy
    refine .bind (R := fun o st2 => o = .ok (.inr (run, c)) ∧ Stages e r inv log st2 run c) ?_
      (fun z st2 h2 => ?_) fun z st2 h2 => by cases h2.1
    · unfold executeIntent
      rw [if_pos hne]
      exact wp_ret ⟨rfl, h⟩
    obtain ⟨ho, h2⟩ := h2
    cases ho
    refine .bind (closes ⟨⟨log, h2⟩, hs, hy, hp⟩ fun h => absurd h hne) (fun z st3 h3 => ?_)
      fun z st3 h3 => ?_
    · cases z with
      | inl z => exact .inl h3.2
      | inr z => exact ends_ofExcept (.inl h3.2)
    · obtain ⟨⟨_, ho⟩, -⟩ := h3
      cases ho

/-! ## One more `resume` -/

/-- An approved run that is too late is given up. -/
theorem wp_markRecoveryRequired (h : Stages e r inv log st run c)
    (hs : run.state.protectedExecution) (code message : String) :
    e.Wp who (markRecoveryRequired run code message)
      (fun _ st' => ∃ run', Stages e r inv log st' run' c ∧ run'.state = .recoveryRequired) st := by
  have hne : run.state ≠ .recoveryRequired := by
    rcases hs with hs | hs <;> rw [hs] <;> decide
  have hn : WorkflowState.recoveryRequired ∈ ALLOWED_WORKFLOW_TRANSITIONS run.state := by
    rcases hs with hs | hs <;> rw [hs] <;> decide
  obtain ⟨run', s, hmove, hm, h'⟩ := h.move who (a := none) (v := none) rfl hn rfl rfl
  refine ends_try (R := fun o st' => o = .ok () ∧ Stages e r inv log st' run' c) ?_
    (fun _ st' h' => ⟨run', h'.2, hm.state⟩) fun y st' h' => ?_
  · rw [if_pos hne]
    exact wp_clock_bind (wp_op_bind hmove ⟨rfl, h'⟩)
  · cases h'.1

/-- A `resume` by the deciding session of an approved run in protected execution: it reads the clock
    once for the expiry, after the two reads of `load`. -/
theorem wp_resume {Q : Except PyExc (ControlResult LocalExecutionCompletion) → LocalSolo ι → Prop}
    {cfg : LocalHitlConfig} {principal : LocalOperatorPrincipal} {l : Loaded}
    {a : LocalApprovalDecisionRecord} (h : Stages e r inv log st l.run l.checkpoint)
    (hs : l.run.state.protectedExecution)
    (hl : loadedOf (some l.run) (some l.checkpoint) = .succeeded l)
    (ha : l.checkpoint.localApproval = some a) (hdecision : a.decision = .approved)
    (hsession : a.actorSessionId = principal.actorSessionId)
    (hlate : l.proposal.expiresAt < e.now (st.tick + 2) → ∀ st',
      Stages e r inv log st' l.run l.checkpoint → e.Wp who (markRecoveryRequired l.run
        "LOCAL_APPROVAL_EXPIRED_BEFORE_EXECUTION"
        "Approved proposal expired before protected execution") Q st')
    (hdrive : e.now (st.tick + 2) ≤ l.proposal.expiresAt → ∀ st', st'.tick = st.tick + 3 →
      Stages e r inv log st' l.run l.checkpoint →
        e.Wp who (drive cfg l a l.run l.checkpoint) Q st') :
    e.Wp who (resume cfg r principal) Q st := by
  refine .bind (wp_load h) (fun found st1 h1 => ?_) fun y st1 h1 => ?_
  · obtain ⟨ho, htick, h1⟩ := h1
    rw [hl] at ho
    cases ho
    have hdenied : a.decision ≠ .denied := by rw [hdecision]; decide
    have hsuccess : l.run.state ≠ .successWithEvidence := by
      rcases hs with hs | hs <;> rw [hs] <;> decide
    have hawaiting : l.run.state ≠ .awaitingApproval := by
      rcases hs with hs | hs <;> rw [hs] <;> decide
    simp only [resumeLoaded, ha, hsession, ne_eq, not_true, if_false, hdenied, hsuccess,
      resumeApproved, applyIfAwaiting, hawaiting]
    refine wp_clock_bind ?_
    rw [htick]
    split
    · rename_i hexpired
      exact hlate hexpired _ h1.next
    · rename_i hexpired
      exact hdrive (not_lt.mp hexpired) _ (by simp [htick]) h1.next
  · cases h1.1

end LocalHitlExecutionFlow

/-! ## Convergence -/

/-- Where a history of the local workflow may begin: a run in protected execution has the chain that
    brought it there, and a receipt in a checkpoint is the inventory's. -/
structure LocalReady (v : World ι) (s : Inventory) : Prop where
  active : ∀ r run, v.store.runs.get r = some run → run.state.protectedExecution →
    Chained v.store run run.state
  receipts : ∀ r c x, v.store.checkpoints.get r = some c → c.localExecutionReceipt = some x →
    s.receipts.get x.idempotencyKey = some x

/-- A run in protected execution whose mutation is done and undisturbed. -/
structure MutationDone (w : LocalWorld ι) (r : UUID) (run : Run) (c : Checkpoint)
    (x : LocalExecutionReceipt) : Prop where
  stored : w.world.store.runs.get r = some run
  active : run.state.protectedExecution
  saved : w.world.store.checkpoints.get r = some c
  bound : c.receiptBound x
  receipt : w.inventory.receipts.get x.idempotencyKey = some x
  unchanged : w.inventory.observed x = x.afterResource

/-- Clocks that have not been turned back, and new identifiers: `resume` draws the one its
    acknowledgement needs within twelve requests. -/
structure Calm (e : LocalEnvironment) (w : LocalWorld ι) (run : Run) (x : LocalExecutionReceipt) :
    Prop where
  updated : run.updatedAt ≤ e.now 0
  executed : ∀ k, x.executedAt ≤ e.executorNow k
  unused : ∀ k < 12, w.world.store.auditEvents.get (run.runId, e.ids k) = none

/-- The run is closed, with the receipt and its verification in the checkpoint. -/
def LocalClosed (w : LocalWorld ι) (r : UUID) (x : LocalExecutionReceipt) : Prop :=
  ∃ run c v, w.world.store.runs.get r = some run ∧ run.state = .successWithEvidence ∧
    w.world.store.checkpoints.get r = some c ∧ c.localExecutionReceipt = some x ∧
    c.localVerification = some v

section Convergence

variable [DecidableEq ι] {parse : Json → Option SecurityGroupRule} {calls : ι → LocalCall}
  {v : World ι} {s : Inventory} {c : Config ι (LocalWorld ι) Req Req.Ans PyExc Reply} {r : UUID}
  {run : Run} {d : Checkpoint} {x : LocalExecutionReceipt} {p : RemediationProposal}
  {a : LocalApprovalDecisionRecord} {e : LocalEnvironment} {who : ι}
  {principal : LocalOperatorPrincipal}

omit [DecidableEq ι] in
theorem MutationDone.stages (h : MutationDone c.world r run d x) (he : Calm e c.world run x) :
    Stages e r c.world.inventory c.world.world.store.auditEvents ⟨c.world, 0⟩ run d :=
  ⟨h.stored, h.saved, rfl, rfl, he.updated⟩

omit [DecidableEq ι] in
theorem Stages.not_closed {inv : Inventory} {log : AuditLog} {st : LocalSolo ι} {run' : Run}
    {c' : Checkpoint} (h : Stages e r inv log st run' c') (hs : run'.state ≠ .successWithEvidence) :
    ¬LocalClosed st.world r x := by
  rintro ⟨run, -, -, hrun, hsuccess, -⟩
  have hstored := h.stored
  rw [hrun] at hstored
  cases hstored
  exact hs hsuccess

/-- One more `resume` closes the run or not, and the condition decides which. -/
theorem resume_ends (cfg : LocalHitlConfig) (hready : LocalReady v s)
    (hc : LocalReachable parse calls v s c) (hdone : MutationDone c.world r run d x)
    (hp : d.remediationProposal = some p) (ha : d.localApproval = some a)
    (hsession : a.actorSessionId = principal.actorSessionId) (he : Calm e c.world run x) :
    e.Wp who (resume cfg r principal) (fun _ st => LocalClosed st.world r x ↔
      e.now 2 ≤ p.expiresAt ∧ (run.state = .executing → AuditRoom cfg
        c.world.world.store.auditEvents run (Dict.ofPairs [("proposal_id", p.proposalId.str)])))
      ⟨c.world, 0⟩ := by
  have hinv : LocalInv calls v.store True c.world :=
    (hc.safe (.start v s (fun _ => hready.receipts) fun _ => hready.active)).1
  have hid := Table.key_of_get hdone.stored
  change run.runId = r at hid
  -- what the run was brought here with
  obtain ⟨d', ev, p', hd', hev, hp', hbound, -, hrecorded⟩ :=
    (hinv.active trivial r run hdone.stored hdone.active).checkpoint
  rw [hid, hdone.saved] at hd'
  cases hd'
  rw [hp] at hp'
  cases hp'
  obtain ⟨n, hn, -, -, hkey⟩ := CheckpointFields.receiptBound_iff hdone.bound
  obtain ⟨-, a', -, ha', hdecision, -⟩ := d.intent_bound hn
  rw [ha] at ha'
  cases ha'
  -- a receipt in the checkpoint is this one, because the inventory has one receipt of a key
  have hsame : ∀ y, d.localExecutionReceipt = some y → y = x := by
    intro y hy
    have hget := hinv.receipts trivial r d y hdone.saved hy
    obtain ⟨n', hn', -, -, hkey'⟩ := CheckpointFields.receiptBound_iff (d.receipt_bound hy)
    rw [hn] at hn'
    cases hn'
    rw [hkey', ← hkey, hdone.receipt] at hget
    cases hget
    rfl
  have hl : loadedOf (some run) (some d) = .succeeded ⟨run, d, ev, p⟩ := by
    simp only [loadedOf, hev, hp, hbound, if_true]
  have hstages := hdone.stages he
  refine wp_resume (l := ⟨run, d, ev, p⟩) hstages hdone.active hl ha hdecision hsession
    (fun hlate st' h => ?_) fun hintime st' htick h => ?_
  · refine (wp_markRecoveryRequired h hdone.active _ _).mono fun o st1 h1 => ?_
    obtain ⟨run', h1, hs⟩ := h1
    refine iff_of_false (h1.not_closed (hs ▸ by decide)) fun hcond => ?_
    exact absurd hcond.1 (not_le.mpr hlate)
  · refine (wp_drive h hdone.active cfg a hn hp hkey hdone.bound hsame hrecorded hdone.receipt
      hdone.unchanged he.executed fun k _ hk => hid ▸ he.unused k (by simp at htick; omega)).mono
      fun o st1 h1 => ?_
    obtain ⟨⟨run', c', v', hleft, hv⟩, hroom⟩ | ⟨⟨run', c', hleft⟩, hs, hroom⟩ := h1
    · obtain ⟨log, h1⟩ := hleft.stands
      exact iff_of_true ⟨run', c', v', h1.stored, hleft.state, h1.saved, hleft.receipt, hv⟩
        ⟨hintime, hroom⟩
    · obtain ⟨log, h1⟩ := hleft.stands
      exact iff_of_false (h1.not_closed (hleft.state ▸ by decide)) fun hcond => hroom (hcond.2 hs)

/-- **`resume` converges** after a crash, whenever the approved proposal has not expired meanwhile
    and, if the mutation is not acknowledged yet, the audit log has room for that. -/
theorem resume_converges_iff (cfg : LocalHitlConfig) (hready : LocalReady v s)
    (hc : LocalReachable parse calls v s c) (hdone : MutationDone c.world r run d x)
    (hp : d.remediationProposal = some p) (ha : d.localApproval = some a)
    (hsession : a.actorSessionId = principal.actorSessionId) (he : Calm e c.world run x) :
    e.Wp who (resume cfg r principal) (fun _ st => LocalClosed st.world r x) ⟨c.world, 0⟩ ↔
      e.now 2 ≤ p.expiresAt ∧ (run.state = .executing → AuditRoom cfg
        c.world.world.store.auditEvents run (Dict.ofPairs [("proposal_id", p.proposalId.str)])) :=
  resume_ends cfg hready hc hdone hp ha hsession he

end Convergence

end CloudOpsAgent
