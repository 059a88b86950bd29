/-
  How an execution leaves a run to recovery.

  1. **Claiming** — from an approved run nobody has claimed (`Claimable`), alone: the action is
     registered, the run enters `EXECUTING`, the executor is called.

  2. **A crash after the registration** — a duplicate delivery and a recovery close a run that was
     never `EXECUTING`.

  3. **An acknowledgement** — it is recorded and the run is `VERIFYING`: what the faults of
     `Recovery.Convergence` strike.
-/
import CloudOpsAgent.Nz.Sha256
import CloudOpsAgent.Recovery.Convergence

namespace CloudOpsAgent

open ClientProg ClientProg.Prog Environment

section Execution

variable [Sha256] {ι : Type}

/-! ## Claiming -/

/-- An approved run whose action nobody has claimed, and what the environment has to offer. -/
structure Claimable (e : Environment) (p : ActionProposal) (m : List ι) (st : Solo ι) (r : Run)
    (c : Checkpoint) (b : Nat) : Prop where
  proposal : st.world.store.proposals.get p.proposalId = some p
  awaiting : p.state = .awaitingApproval
  approval : ∃ a, st.world.store.approvals.get p.proposalId = some a ∧ a.decision = .approved ∧
    a.Binds p
  run : st.world.store.runs.get p.runId = some r
  approved : r.state = .approved
  unclaimed : st.world.store.idempotency.get (deriveIdempotencyKey p) = none
  evidence : st.world.store.verificationEvidence.get (p.runId, p.proposalId) = none
  checkpoint : st.world.store.checkpoints.get p.runId = some c
  safe : c.lastSafeState = .approved
  retained : c.toolResultHashes.lookup "build_remediation_evidence" = some p.evidenceHash
  movers : movers p.runId st.world.log = m
  fresh : ∀ n, st.tick ≤ n → n < st.tick + b → Unused st.world.store p.runId (e.ids n)
  distinct : ∀ m n, st.tick ≤ m → m < n → n < st.tick + b → e.ids m ≠ e.ids n
  room : st.world.store.countAuditEvents p.runId + b ≤ MAX_AUDIT_EVENTS_PER_RUN
  updated : r.updatedAt ≤ e.now st.tick
  range : e.now (st.tick + b) + seconds 300 ≤ Time.datetimeMax

variable {e : Environment} {p : ActionProposal} {m : List ι} {st : Solo ι} {x : Picture} {b n : Nat}
  {who : ι} {fault : Fault} {r : Run} {c : Checkpoint}

namespace Claimable

theorem next (h : Claimable e p m st r c (b + 1)) : Claimable e p m st.next r c b :=
  { h with
    fresh := fun n h1 h2 => h.fresh n (by simp at h1; omega) (by simp at h2; omega)
    distinct := fun k n h1 h2 h3 => h.distinct k n (by simp at h1; omega) h2 (by simp at h3; omega)
    room := (Nat.le_succ _).trans h.room
    updated := h.updated.trans (e.now_mono (Nat.le_succ _))
    range := by
      rw [Solo.next_tick, Nat.succ_add_eq_add_succ]
      exact h.range }

theorem read (who : ι) (h : Claimable e p m st r c (b + 1)) (op : Op)
    (hop : op.entersExecuting = none) :
    Claimable e p m (st.applied who op st.world.store) r c b :=
  { h.next with
    movers := by
      rw [Solo.applied_world, movers_applied, hop, if_neg (fun h => by cases h), List.append_nil]
      exact h.movers }

theorem getProposal (h : Claimable e p m st r c b) :
    (Op.getProposal p.proposalId).run st.world.store = .ok (some p, st.world.store) :=
  congrArg (fun v => Except.ok (v, st.world.store)) h.proposal

theorem getIdempotency (h : Claimable e p m st r c b) :
    (Op.getIdempotency (deriveIdempotencyKey p)).run st.world.store = .ok (none, st.world.store) :=
  congrArg (fun v => Except.ok (v, st.world.store)) h.unclaimed

/-- The registration of the action. -/
theorem registered (who : ι) (h : Claimable e p m st r c (b + 1)) {t : Time}
    (ht : t ≤ e.now (st.tick + 1)) :
    ∃ record s, buildIdempotencyRecord p t = .ok record ∧
      (Op.registerIdempotency record).run st.world.store = .ok (record, s) ∧
      record.status = .registered ∧ record.executionAcknowledgement = none ∧
      record.proposalId = p.proposalId ∧
      Stands e p m (st.applied who (.registerIdempotency record) s) ⟨r, record, none, c⟩ b := by
  obtain ⟨a, ha, hdecision, hbinds⟩ := h.approval
  have hbuild : ∃ record, buildIdempotencyRecord p t = .ok record ∧ record.status = .registered ∧
      record.executionAcknowledgement = none ∧ record.idempotencyKey = deriveIdempotencyKey p ∧
      record.proposalId = p.proposalId ∧ record.actionFingerprint = deriveActionFingerprint p ∧
      record.registeredAt = t := by
    simp only [buildIdempotencyRecord, h.awaiting, ne_eq, not_true, if_false]
    exact ⟨_, rfl, rfl, rfl, rfl, rfl, rfl, rfl⟩
  obtain ⟨record, hrecord, hstatus, hack, hkey, hpid, hfinger, hat⟩ := hbuild
  refine ⟨record, { st.world.store with idempotency := st.world.store.idempotency.put record },
    hrecord, ?_, hstatus, hack, hpid, ?_⟩
  · simp only [Op.run, Store.registerIdempotency, hkey, h.unclaimed, Store.registrationProposal,
      hpid, h.proposal, Option.filter_some, h.awaiting, hfinger, beq_self_eq_true, Bool.and_self,
      if_true, ha, Option.any_some, hdecision, h.run, h.approved, Bool.not_true, Bool.false_eq_true,
      if_false]
    rfl
  · have hnext := h.next
    exact {
      proposal := h.proposal
      approval := h.approval
      run := h.run
      record := by
        rw [← hkey]
        exact Table.get_put_self _ _
      evidence := h.evidence
      checkpoint := h.checkpoint
      movers := by
        rw [Solo.applied_world, movers_applied, if_neg (fun h => by cases h), List.append_nil]
        exact h.movers
      fresh := fun n h1 h2 =>
        let hu := hnext.fresh n h1 h2
        ⟨hu.event, hu.evidence⟩
      distinct := hnext.distinct
      room := hnext.room
      updated := hnext.updated
      registered := hat.le.trans ht
      range := hnext.range }

end Claimable

/-- The transition into `EXECUTING`. -/
theorem Stands.executing (who : ι) (h : Stands e p m st x (b + 1)) (hs : x.run.state = .approved)
    {t : Time} (ht : x.run.updatedAt ≤ t) (ht' : t ≤ e.now (st.tick + 1)) :
    ∃ run s, (Op.transitionRun x.run.runId .executing .approved x.run.version t none none).run
        st.world.store = .ok (run, s) ∧ x.run.MovedTo .executing t run ∧
      Stands e p (m ++ [who]) (st.applied who (.transitionRun x.run.runId .executing .approved
        x.run.version t none none) s) { x with run := run } b := by
  obtain ⟨run, hrun⟩ : ∃ run, transitionRun x.run .executing t = .ok run := by
    have : WorkflowState.executing ∈ ALLOWED_WORKFLOW_TRANSITIONS .approved := by decide
    simp [transitionRun, validateWorkflowTransition, hs, this, ht]
  obtain ⟨-, -, h1, -, h2, h3, h4, h5, -⟩ := transitionRun_ok hrun
  have hnext := h.next
  refine ⟨run, { st.world.store with runs := st.world.store.runs.put run }, ?_,
    ⟨h1, h2, h3, h4, h5⟩, ?_⟩
  · rw [h.run_id]
    simp only [Op.run, Store.transitionRun, h.run, Option.elim_some, bind, Except.bind, hs,
      Store.decisionCheck, Store.successCheck, hrun, not_true, or_self, ne_eq, if_false,
      reduceCtorEq]
    rfl
  · exact {
      proposal := h.proposal
      approval := h.approval
      run := by
        rw [← h.run_id, ← h3]
        exact Table.get_put_self _ _
      record := h.record
      evidence := h.evidence
      checkpoint := h.checkpoint
      movers := by
        have hop : (Op.transitionRun x.run.runId .executing .approved x.run.version t none
            none).entersExecuting = some p.runId := congrArg some h.run_id
        rw [Solo.applied_world, movers_applied, if_pos hop]
        exact congrArg (· ++ [who]) h.movers
      fresh := fun n hn hn' =>
        let hu := hnext.fresh n hn hn'
        ⟨hu.event, hu.evidence⟩
      distinct := hnext.distinct
      room := hnext.room
      updated := h2.le.trans ht'
      registered := hnext.registered
      range := hnext.range }

namespace StopSandboxInstanceCoordinator

theorem wp_appendEvent (h : Stands e p m st x (b + 3)) {run : Run} (hr : run.runId = p.runId)
    {type : AuditEventType} {hash : Sha256Digest} {metadata : Dict String String} :
    e.Wp who (appendEvent run type hash metadata)
      (fun o st' => o = .ok () ∧ Stands e p m st' x b) st :=
  wp_of_audited (fwp_audit h (fun _ _ => hr) fun _ _ => rfl)

/-- The prerequisite reads of an action nobody has claimed. -/
theorem wp_requireApprovedRecords (h : Claimable e p m st r c (b + 3)) :
    e.Wp who (requireApprovedRecords p.proposalId) (fun o st' => (∃ a, o = .ok (r, p, a)) ∧
      Claimable e p m st' r c b) st := by
  obtain ⟨a, ha, hdecision, -⟩ := h.approval
  unfold requireApprovedRecords
  have h1 := h.read who (.getProposal p.proposalId) rfl
  have h2 := h1.read who (.getApproval p.proposalId) rfl
  have h3 := h2.read who (.getRun p.runId) rfl
  refine wp_op_bind (v := some p) (congrArg (fun v => Except.ok (v, _)) h.proposal) ?_
  dsimp only
  rw [if_neg (by simp [h.awaiting])]
  refine wp_op_bind (v := some a) (congrArg (fun v => Except.ok (v, _)) ha) ?_
  dsimp only
  rw [if_neg (by simp [hdecision])]
  refine wp_op_bind (v := some r) (congrArg (fun v => Except.ok (v, _)) h2.run) ?_
  dsimp only
  rw [if_neg (by simp [h.approved])]
  exact wp_ret ⟨⟨a, rfl⟩, h3⟩

/-- The prerequisite reads of a registered action. -/
theorem wp_requireApprovedRecords_registered (h : Stands e p m st x (b + 3))
    (hawaiting : p.state = .awaitingApproval) (hs : x.run.state = .approved) :
    e.Wp who (requireApprovedRecords p.proposalId) (fun o st' => (∃ a, o = .ok (x.run, p, a)) ∧
      Stands e p m st' x b) st := by
  unfold requireApprovedRecords
  refine wp_read_bind h rfl h.getProposal fun st1 h1 => ?_
  dsimp only
  rw [if_neg (by simp [hawaiting])]
  obtain ⟨a, ha, hdecision, -⟩ := h1.approval
  refine wp_read_bind (v := some a) h1 rfl (congrArg (fun v => Except.ok (v, _)) ha) fun st2 h2 => ?_
  dsimp only
  rw [if_neg (by simp [hdecision])]
  refine wp_read_bind h2 rfl h2.getRun fun st3 h3 => ?_
  dsimp only
  rw [if_neg (by simp [hs])]
  exact wp_ret ⟨⟨a, rfl⟩, h3⟩

theorem wp_loadExecutionPrerequisites (h : Stands e p m st x (b + 5))
    (hawaiting : p.state = .awaitingApproval) (hs : x.run.state = .approved)
    (hreg : x.record.status = .registered) (hpid : x.record.proposalId = p.proposalId)
    (hsafe : x.checkpoint.lastSafeState = .approved) (hretained :
      x.checkpoint.toolResultHashes.lookup "build_remediation_evidence" = some p.evidenceHash) :
    e.Wp who (loadExecutionPrerequisites p.proposalId) (fun o st' =>
      (∃ a, o = .ok ⟨x.run, p, a, x.record, x.checkpoint⟩) ∧ Stands e p m st' x b) st := by
  unfold loadExecutionPrerequisites
  refine wp_bind (wp_requireApprovedRecords_registered (b := b + 2) h hawaiting hs) ?_ ?_
  · rintro ⟨run, proposal, approval⟩ st1 ⟨⟨a, ha⟩, h1⟩
    cases ha
    refine wp_read_bind h1 rfl h1.getIdempotency fun st2 h2 => ?_
    dsimp only
    rw [if_neg (by simp [hpid, hreg])]
    refine wp_read_bind h2 rfl (h2.run_id ▸ h2.getCheckpoint) fun st3 h3 => ?_
    dsimp only
    rw [if_neg (by simp [hsafe]), if_neg (by simp [hretained])]
    exact wp_ret ⟨⟨_, rfl⟩, h3⟩
  · rintro y st1 ⟨⟨a, ha⟩, -⟩
    cases ha

/-- A claim succeeds: the action is registered, the run is `EXECUTING`. -/
theorem wp_claim (h : Claimable e p m st r c (b + 16)) :
    e.Wp who (claim p p.proposalId) (fun o st' => ∃ claimed x, o = .ok claimed ∧
      Stands e p (m ++ [who]) st' x b ∧ x.run = claimed.run ∧ x.run.state = .executing ∧
      x.record.status = .registered ∧ x.record.executionAcknowledgement = none ∧
      x.record.proposalId = p.proposalId ∧ x.evidence = none ∧ x.checkpoint = c ∧ claimed.command.proposalId = p.proposalId ∧
      claimed.command.runId = p.runId ∧ claimed.command.target = p.target ∧
      claimed.idempotency.idempotencyKey = deriveIdempotencyKey p) st := by
  unfold claim
  refine wp_clock_bind (wp_bind (R := fun o st' => ∃ record : IdempotencyRecord, o = .ok record ∧
    record.status = .registered ∧ record.executionAcknowledgement = none ∧
    record.proposalId = p.proposalId ∧ Stands e p m st' ⟨r, record, none, c⟩ (b + 11)) ?_ ?_ ?_)
  · unfold registerApprovedAction
    refine wp_bind ((wp_requireApprovedRecords (b := b + 12) h.next).and (wp_tick _ _)) ?_ ?_
    · rintro ⟨run, proposal, approval⟩ st1 ⟨⟨⟨a, ha⟩, h1⟩, htick⟩
      cases ha
      obtain ⟨record, s, hbuild, hs, hstatus, hack, hpid, h2⟩ := h1.registered who
        (t := e.now st.tick) (e.now_mono (by simp at htick; omega))
      simp only [hbuild, ofExcept_ok]
      exact wp_op hs ⟨record, rfl, hstatus, hack, hpid, h2⟩
    · rintro y st1 ⟨⟨⟨a, ha⟩, -⟩, -⟩
      cases ha
  · rintro record st1 ⟨record', hrecord, hstatus, hack, hpid, h1⟩
    cases hrecord
    refine wp_bind (wp_loadExecutionPrerequisites (b := b + 6) h1 h.awaiting h.approved hstatus hpid
      h.safe h.retained) ?_ ?_
    · rintro prerequisites st2 ⟨⟨a, ha⟩, h2⟩
      cases ha
      refine wp_clock_bind ?_
      obtain ⟨run, s, hop, hmoved, h3⟩ := h2.next.executing who h.approved
        (t := e.now st2.tick) h2.updated (e.now_mono (Nat.le_add_right _ 2))
      refine wp_op_bind hop (wp_clock_bind ?_)
      refine wp_bind (wp_appendEvent (b := b) h3.next (hmoved.runId.trans h2.run_id)) ?_ ?_
      · rintro - st4 ⟨-, h4⟩
        exact wp_ret ⟨_, _, rfl, h4, rfl, hmoved.state, hstatus, hack, hpid, rfl, rfl, rfl, h2.run_id, rfl,
          h2.record_key⟩
      · rintro y st4 ⟨hy, -⟩
        cases hy
    · rintro y st2 ⟨⟨a, ha⟩, -⟩
      cases ha
  · rintro y st1 ⟨record, hy, -⟩
    cases hy

/-- The prerequisite reads, before the fault. -/
theorem fwp_requireApprovedRecords (h : Claimable e p m st r c (b + 3)) :
    e.FWp who fault (requireApprovedRecords p.proposalId) (some (n + 3)) (fun o => ∃ a,
      o.outcome = some (.ok (r, p, a)) ∧ o.left = some n ∧ o.final.tick = st.tick + 3 ∧
      Claimable e p m o.final r c b) st := by
  obtain ⟨a, ha, hdecision, -⟩ := h.approval
  unfold requireApprovedRecords
  have h1 := h.read who (.getProposal p.proposalId) rfl
  have h2 := h1.read who (.getApproval p.proposalId) rfl
  have h3 := h2.read who (.getRun p.runId) rfl
  refine fwp_later_bind (v := some p) (congrArg (fun v => Except.ok (v, _)) h.proposal) ?_
  dsimp only
  rw [if_neg (by simp [h.awaiting])]
  refine fwp_later_bind (v := some a) (congrArg (fun v => Except.ok (v, _)) ha) ?_
  dsimp only
  rw [if_neg (by simp [hdecision])]
  refine fwp_later_bind (v := some r) (congrArg (fun v => Except.ok (v, _)) h2.run) ?_
  dsimp only
  rw [if_neg (by simp [h.approved])]
  exact fwp_ret ⟨a, rfl, rfl, rfl, h3⟩

/-- **A crash right after the registration**: the run is `APPROVED`, the action is registered, and
    nothing was executed. -/
theorem fwp_execute_registered (h : Claimable e p m st r c (b + 7))
    (hmode : fault.mode = .crashesAfter) :
    e.FWp who fault (execute p.proposalId) (some 5) (fun o => ∃ record : IdempotencyRecord,
      record.status = .registered ∧ record.executionAcknowledgement = none ∧
      record.proposalId = p.proposalId ∧ Stands e p m o.final ⟨r, record, none, c⟩ b) st := by
  unfold execute
  refine fwp_later_try h.getProposal ?_
  have h1 := h.read who (.getProposal p.proposalId) rfl
  refine fwp_later_try h1.getIdempotency ?_
  have h2 := h1.read who (.getIdempotency (deriveIdempotencyKey p)) rfl
  refine fwp_try (R := fun o => o.outcome = none ∧ ∃ record : IdempotencyRecord,
      record.status = .registered ∧ record.executionAcknowledgement = none ∧
      record.proposalId = p.proposalId ∧ Stands e p m o.final ⟨r, record, none, c⟩ b) ?_ ?_ ?_ ?_
  · unfold claim
    refine fwp_clock_bind (fwp_bind (R := fun o => o.outcome = none ∧ ∃ record : IdempotencyRecord,
      record.status = .registered ∧ record.executionAcknowledgement = none ∧
      record.proposalId = p.proposalId ∧ Stands e p m o.final ⟨r, record, none, c⟩ b) ?_ ?_ ?_ ?_)
    · unfold registerApprovedAction
      refine fwp_bind (fwp_requireApprovedRecords (n := 0) (b := b + 1) h2.next) ?_ ?_ ?_
      · rintro ⟨run, proposal, approval⟩ l st3 ⟨a, ha, hl, htick, h3⟩
        cases ha
        obtain rfl : l = some 0 := hl
        obtain ⟨record, s, hbuild, hs, hstatus, hack, hpid, h4⟩ := h3.registered who
          (t := e.now (st.tick + 1 + 1))
          (e.now_mono (by simp at htick ⊢; omega))
        simp only [Solo.applied_tick, hbuild, ofExcept_ok]
        refine fwp_op hs (fun _ => ⟨?_, record, hstatus, hack, hpid, ?_⟩) fun k hk => by omega
        · simp only [Fault.outcome, hmode, FaultMode.crashes, if_true]
          rfl
        · simpa only [Fault.struck, hmode] using h4
      · rintro y l st3 ⟨a, ha, -⟩
        cases ha
      · rintro l st3 ⟨a, ha, -⟩
        cases ha
    · rintro a l st3 ⟨hx, -⟩
      cases hx
    · rintro y l st3 ⟨hx, -⟩
      cases hx
    · exact fun l st3 h' => ⟨rfl, h'.2⟩
  · rintro a l st' ⟨hx, -⟩
    cases hx
  · rintro y l st' ⟨hx, -⟩
    cases hx
  · rintro l st' ⟨-, h'⟩
    exact h'

/-- A duplicate finds the action registered and unresolved, and moves the run to
    `RECOVERY_REQUIRED`. -/
theorem wp_reconcileExisting (h : Stands e p m st x (b + 3))
    (hs : x.run.state = .approved ∨ x.run.state = .executing)
    (hreg : x.record.status = .registered) (hack : x.record.executionAcknowledgement = none)
    (hpid : x.record.proposalId = p.proposalId) :
    e.Wp who (reconcileExisting p (deriveIdempotencyKey p) x.record) (fun o st' =>
      (∃ r, o = .ok r) ∧ ∃ run, run.state = .recoveryRequired ∧
        Stands e p m st' { x with run := run } b) st := by
  unfold reconcileExisting
  rw [if_neg (by simp [hpid, h.record_key])]
  simp only [hack, hreg, if_true]
  unfold markRecoveryRequired
  refine wp_try (R := fun o st' => o = .ok () ∧ ∃ run, run.state = .recoveryRequired ∧
    Stands e p m st' { x with run := run } b) ?_ ?_ ?_
  · refine wp_read_bind h rfl h.getRun fun st3 h3 => ?_
    simp only [hs, if_true]
    refine wp_clock_bind ?_
    have hn : .recoveryRequired ∈ ALLOWED_WORKFLOW_TRANSITIONS x.run.state := by
      rcases hs with hs | hs <;> rw [hs] <;> decide
    obtain ⟨run, s, hop, hmoved, h'⟩ := h3.next.transition who x.run.state
      .recoveryRequired rfl rfl rfl hn (by decide) (by decide)
      (t := e.now st3.tick) h3.updated (e.now_mono (Nat.le_add_right _ 2))
      none (fun h => by cases h)
    exact wp_op_bind hop ⟨rfl, run, hmoved.state, h'⟩
  · rintro a st3 ⟨-, h3⟩
    exact wp_ret ⟨⟨_, rfl⟩, h3⟩
  · rintro y st3 ⟨hy, -⟩
    cases hy

/-- A duplicate delivery of a registered action. -/
theorem wp_execute_duplicate (h : Stands e p m st x (b + 5)) (hs : x.run.state = .approved)
    (hreg : x.record.status = .registered) (hack : x.record.executionAcknowledgement = none)
    (hpid : x.record.proposalId = p.proposalId) :
    e.Wp who (execute p.proposalId) (fun _ st' => ∃ run, run.state = .recoveryRequired ∧
      Stands e p m st' { x with run := run } b) st := by
  unfold execute
  refine wp_try (R := fun o st' => o = .ok (some p) ∧ Stands e p m st' x (b + 4))
    (wp_op h.getProposal ⟨rfl, h.read _ _ rfl⟩) ?_ ?_
  · rintro a st1 ⟨ha, h1⟩
    cases ha
    refine wp_try (R := fun o st' => o = .ok (some x.record) ∧ Stands e p m st' x (b + 3))
      (wp_op h1.getIdempotency ⟨rfl, h1.read _ _ rfl⟩) ?_ ?_
    · rintro a st2 ⟨ha, h2⟩
      cases ha
      exact (wp_reconcileExisting h2 (.inl hs) hreg hack hpid).mono fun _ _ h => h.2
    · rintro y st2 ⟨hy, -⟩
      cases hy
  · rintro y st1 ⟨hy, -⟩
    cases hy

end StopSandboxInstanceCoordinator

/-- **A registration is enough for success.**  A delivery that crashes right after it has registered
    the action, a duplicate, and a recovery close the run, and none of them moved it into
    `EXECUTING`. -/
theorem closed_without_execution [DecidableEq ι] {calls : ι → Call}
    {c₀ : Config ι (World ι) Req Req.Ans PyExc Reply} (hreach : Reachable calls c₀)
    (hclaim : Claimable e p m ⟨c₀.world, 0⟩ r c (b + 50)) (he : e.Stopped) {setup : RecoverySetup}
    (hcover : setup.Covers p) (hfree : ∀ t, c.Free p t) {i j k : ι} (hij : j ≠ i) (hjk : k ≠ j)
    (hik : k ≠ i) (hi : c₀.threads i = (Call.execute p.proposalId).flow)
    (hj : c₀.threads j = (Call.execute p.proposalId).flow)
    (hk : c₀.threads k = (Call.recover setup ⟨p.runId, some p.proposalId⟩).flow) :
    ∃ c', Reachable calls c' ∧ c'.world.store.Closed p ∧ movers p.runId c'.world.log = m := by
  let fault : Fault := ⟨.crashesAfter, .storageDependency "", rfl⟩
  -- the crash
  obtain ⟨q, hreach1⟩ := hreach.struck e i fault (some 5)
  obtain ⟨record, hreg, hack, hpid, h1⟩ : ∃ record : IdempotencyRecord,
      record.status = .registered ∧ record.executionAcknowledgement = none ∧
      record.proposalId = p.proposalId ∧
      Stands e p m (e.faulty i fault (c₀.threads i) (some 5) ⟨c₀.world, 0⟩).final
        ⟨r, record, none, c⟩ (b + 43) := by
    rw [hi]
    exact fwp_bind (Q := fun o => ∃ record : IdempotencyRecord,
        record.status = .registered ∧ record.executionAcknowledgement = none ∧
        record.proposalId = p.proposalId ∧ Stands e p m o.final ⟨r, record, none, c⟩ (b + 43))
      (StopSandboxInstanceCoordinator.fwp_execute_registered hclaim rfl)
      (fun _ _ _ h => h) (fun _ _ _ h => h) fun _ _ h => h
  generalize (e.faulty i fault (c₀.threads i) (some 5) ⟨c₀.world, 0⟩).final = st1 at h1 hreach1
  -- the duplicate
  have hreach2 := hreach1.ran (e.after st1.tick) j
  simp only [Function.update_of_ne hij, hj] at hreach2
  obtain ⟨run, hrun, h2⟩ : (e.after st1.tick).Wp j (Call.execute p.proposalId).flow
      (fun _ st' => ∃ run : Run, run.state = .recoveryRequired ∧
        Stands (e.after st1.tick) p m st' ⟨run, record, none, c⟩ (b + 38)) ⟨st1.world, 0⟩ :=
    wp_bind (StopSandboxInstanceCoordinator.wp_execute_duplicate (b := b + 38) h1.after hclaim.approved
      hreg hack hpid) (fun _ _ h => h) fun _ _ h => h
  generalize ((Call.execute p.proposalId).flow.run ((e.after st1.tick).respond j)
    ⟨st1.world, 0⟩) = o2 at h2 hreach2
  -- the recovery
  have hreach3 := hreach2.ran ((e.after st1.tick).after o2.2.tick) k
  simp only [Function.update_of_ne hjk, Function.update_of_ne hik, hk] at hreach3
  have hconsistent : Picture.Consistent p ⟨run, record, none, c⟩ :=
    ⟨fun ack h => (by rw [hack] at h; cases h), .inl ⟨hreg, .inr (.inr hrun)⟩⟩
  obtain ⟨x', h3, hiff⟩ : ((e.after st1.tick).after o2.2.tick).Wp k
      (Call.recover setup ⟨p.runId, some p.proposalId⟩).flow (fun _ st' => ∃ x',
        Stands ((e.after st1.tick).after o2.2.tick) p m st' x' b ∧
        (x'.Recovered ↔ Picture.Recoverable ⟨run, record, none, c⟩)) ⟨o2.2.world, 0⟩ :=
    wp_bind (RecoveryCoordinator.wp_recover _ (e := (e.after st1.tick).after o2.2.tick) (b := b)
      (fun n => he _) hcover h2.after hconsistent (hfree _)) (fun _ _ h => h) fun _ _ h => h
  refine ⟨_, hreach3, h3.toShows.closed_iff.mpr (hiff.mpr (.inr ⟨rfl, .inr ?_⟩)), h3.movers⟩
  rw [hrun]
  decide

/-! ## An acknowledgement -/

/-- The acknowledgement of the executor is recorded once. -/
theorem Stands.acknowledged (who : ι) (h : Stands e p m st x (b + 1))
    (hreg : x.record.status = .registered) (hnone : x.record.executionAcknowledgement = none)
    (hpid : x.record.proposalId = p.proposalId) {ack : ExecutionAcknowledgement} (hfor : ack.For p) :
    ∃ r s, (Op.recordExecutionAcknowledgement (deriveIdempotencyKey p) ack .registered).run
        st.world.store = .ok (r, s) ∧ r.status = .registered ∧
      r.executionAcknowledgement = some ack ∧ Stands e p m (st.applied who
        (.recordExecutionAcknowledgement (deriveIdempotencyKey p) ack .registered) s)
        { x with record := r } b := by
  have hkey : x.record.idempotencyKey = deriveIdempotencyKey p := h.record_key
  have howner : ack.proposalId = x.record.proposalId := hfor.1.trans hpid.symm
  let record : IdempotencyRecord := { x.record with executionAcknowledgement := some ack }
  refine ⟨record, { st.world.store with idempotency := st.world.store.idempotency.put record }, ?_,
    hreg, rfl, h.applied rfl rfl rfl h.run ?_ h.evidence h.checkpoint
    (fun _ _ _ hu => ⟨hu.event, hu.evidence⟩) (Nat.le_succ _)
    (h.updated.trans (e.now_mono (Nat.le_succ _))) rfl⟩
  · have hstatus : ¬x.record.status ≠ .registered := not_not.mpr hreg
    simp only [Op.run, Store.recordExecutionAcknowledgement, h.record, if_neg hstatus, hnone, howner,
      ne_eq, not_true, if_false]
    rfl
  · rw [← hkey]
    exact Table.get_put_self _ _

/-- A call of the executor leaves the records alone. -/
theorem Stands.called (h : Stands e p m st x (b + 1)) {command : StopExecutionCommand} :
    Stands e p m ⟨st.world.logged (.executed who command st.world.store), st.tick + 1⟩ x b where
  proposal := h.proposal
  approval := h.approval
  run := h.run
  record := h.record
  evidence := h.evidence
  checkpoint := h.checkpoint
  movers := by
    rw [World.logged_log, movers_append]
    simpa [CloudOpsAgent.movers] using h.movers
  fresh := h.next.fresh
  distinct := h.next.distinct
  room := h.next.room
  updated := h.next.updated
  registered := h.next.registered
  range := h.next.range

namespace StopSandboxInstanceCoordinator

theorem wp_recordAcknowledgement (h : Stands e p m st x (b + 6)) (hs : x.run.state = .executing)
    (hreg : x.record.status = .registered) (hnone : x.record.executionAcknowledgement = none)
    (hpid : x.record.proposalId = p.proposalId) {ack : ExecutionAcknowledgement} (hfor : ack.For p) :
    e.Wp who (recordAcknowledgement x.run p.proposalId (deriveIdempotencyKey p) ack)
      (fun _ st' => ∃ run record, run.state = .verifying ∧ record.status = .registered ∧
        record.executionAcknowledgement = some ack ∧
        Stands e p m st' { x with run := run, record := record } b) st := by
  unfold recordAcknowledgement
  refine wp_try (R := fun o st' => o = .ok () ∧ ∃ run record, run.state = .verifying ∧
    record.status = .registered ∧ record.executionAcknowledgement = some ack ∧
    Stands e p m st' { x with run := run, record := record } b) ?_ ?_ ?_
  · obtain ⟨record, s1, hop1, hstatus, hack, h1⟩ := h.acknowledged who hreg hnone hpid hfor
    refine wp_op_bind hop1 (wp_clock_bind ?_)
    obtain ⟨run, s2, hop2, hmoved, h2⟩ := h1.next.transition who .executing .verifying rfl hs rfl
      (by decide) (by decide) (by decide) h1.updated (e.now_mono (Nat.le_add_right _ 2)) none
      (fun h => by cases h)
    refine wp_op_bind hop2 ?_
    refine (wp_appendEvent (b := b) h2 (hmoved.runId.trans h.run_id)).mono ?_
    rintro o st3 ⟨ho, h3⟩
    exact ⟨ho, run, record, hmoved.state, hstatus, hack, h3⟩
  · rintro a st1 ⟨-, h1⟩
    exact wp_ret h1
  · rintro y st1 ⟨hy, -⟩
    cases hy

/-- Alone, an execution that is acknowledged leaves the run `VERIFYING` with its acknowledgement. -/
theorem wp_execute_acknowledged (h : Claimable e p m st r c (b + 25))
    (hack : ∀ command, command.proposalId = p.proposalId → command.runId = p.runId →
      command.target = p.target → ∃ ack, e.acknowledge command = .ok ack ∧ ack.For p) :
    e.Wp who (execute p.proposalId) (fun _ st' => ∃ run record ack, run.state = .verifying ∧
      record.status = .registered ∧ record.executionAcknowledgement = some ack ∧ ack.For p ∧
      Stands e p (m ++ [who]) st' ⟨run, record, none, c⟩ b) st := by
  unfold execute
  have h1 := h.read who (.getProposal p.proposalId) rfl
  have h2 := h1.read who (.getIdempotency (deriveIdempotencyKey p)) rfl
  refine wp_try (R := fun o st' => o = .ok (some p) ∧ Claimable e p m st' r c (b + 24))
    (wp_op h.getProposal ⟨rfl, h1⟩) ?_ ?_
  · rintro a st1 ⟨ha, h1⟩
    cases ha
    refine wp_try (R := fun o st' => o = .ok none ∧ Claimable e p m st' r c (b + 23))
      (wp_op h1.getIdempotency ⟨rfl, h1.read who _ rfl⟩) ?_ ?_
    · rintro a st2 ⟨ha, h2⟩
      cases ha
      refine wp_try (wp_claim (b := b + 7) h2) ?_ ?_
      · rintro claimed st3 ⟨claimed', x, hclaimed, h3, hrun, hs, hreg, hnone, hpid, hev, hcp, hcmd,
          hcmdrun, hcmdtarget, hkey⟩
        cases hclaimed
        -- the executor answers
        obtain ⟨ack, hanswer, hfor⟩ := hack _ hcmd hcmdrun hcmdtarget
        unfold callExecutor
        refine wp_try (R := fun o st' => o = .ok ack ∧ Stands e p (m ++ [who]) st' x (b + 6))
          (wp_stop ⟨hanswer, h3.called⟩) ?_ ?_
        · rintro a st4 ⟨ha, h4⟩
          cases ha
          rw [← hrun, hkey]
          refine (wp_recordAcknowledgement h4 hs hreg hnone hpid hfor).mono ?_
          rintro o st5 ⟨run, record, hstate, hstatus, hrecorded, h5⟩
          rw [hev, hcp] at h5
          exact ⟨run, record, ack, hstate, hstatus, hrecorded, hfor, h5⟩
        · rintro y st4 ⟨hy, -⟩
          cases hy
      · rintro y st3 ⟨claimed', x, hy, -⟩
        cases hy
    · rintro y st2 ⟨hy, -⟩
      cases hy
  · rintro y st1 ⟨hy, -⟩
    cases hy

end StopSandboxInstanceCoordinator

/-- A client executes the action, alone: the run is `VERIFYING` and acknowledged. -/
theorem Reachable.executed [DecidableEq ι] {calls : ι → Call}
    {c₀ : Config ι (World ι) Req Req.Ans PyExc Reply} (hreach : Reachable calls c₀)
    (hclaim : Claimable e p m ⟨c₀.world, 0⟩ r c (b + 25))
    (hack : ∀ command, command.proposalId = p.proposalId → command.runId = p.runId →
      command.target = p.target → ∃ ack, e.acknowledge command = .ok ack ∧ ack.For p) {i : ι}
    (hi : c₀.threads i = (Call.execute p.proposalId).flow) :
    ∃ c' k run record ack, Reachable calls c' ∧ run.state = .verifying ∧
      record.status = .registered ∧ record.executionAcknowledgement = some ack ∧ ack.For p ∧
      Stands (e.after k) p (m ++ [i]) ⟨c'.world, 0⟩ ⟨run, record, none, c⟩ b := by
  have hreach' := hreach.ran e i
  rw [hi] at hreach'
  obtain ⟨run, record, ack, hstate, hstatus, hrecorded, hfor, h⟩ :
      e.Wp i (Call.execute p.proposalId).flow (fun _ st' => ∃ (run : Run)
        (record : IdempotencyRecord) (ack : ExecutionAcknowledgement),
        run.state = .verifying ∧ record.status = .registered ∧
        record.executionAcknowledgement = some ack ∧ ack.For p ∧
        Stands e p (m ++ [i]) st' ⟨run, record, none, c⟩ b) ⟨c₀.world, 0⟩ :=
    wp_bind (StopSandboxInstanceCoordinator.wp_execute_acknowledged hclaim hack)
      (fun _ _ h => h) fun _ _ h => h
  exact ⟨_, _, run, record, ack, hreach', hstate, hstatus, hrecorded, hfor, h.after⟩

/-- After a fault in a closing call there is an environment for a recovery. -/
theorem Stands.recoverable (who : ι) (fault : Fault) (n : ℕ) {w : World ι} {call : ClosingCall} (h : Stands e p m ⟨w, 0⟩ x 56)
    (hfits : call.Fits x) (hx : x.Consistent p) (hreg : x.record.status = .registered)
    (hnone : x.evidence = none) :
    ∃ k, (e.after k).Ready p
      (e.faulty who fault (call.flow p) (some n) ⟨w, 0⟩).final.world.store 38 := by
  obtain ⟨x', h', -⟩ := ClosingCall.fwp_flow who fault n (b := 38) h hfits hx hreg hnone
  exact ⟨_, h'.after.ready⟩

end Execution

/-! ## The sample run -/

namespace Sample

attribute [local instance] Sha256.standard

/-- After the sample approval the action can be claimed. -/
theorem claimable (x : StopExecutionCommand → Except PyExc ExecutionAcknowledgement) :
    ∃ r c, Claimable (environment 10 x) proposal [] ⟨start.world, 0⟩ r c 90 ∧
      c.resumeMetadata.lookup "proposal_id" = some (.str proposal.proposalId.str) ∧
      c.resumeMetadata.lookup "recovery_lease_expires_at" = none := by
  have hrun : (start.world.store.runs.get (uid 1)).any
      (fun r => decide (r.state = .approved ∧ r.updatedAt ≤ 10)) = true := by decide +kernel
  have hcheck : (start.world.store.checkpoints.get (uid 1)).any (fun c =>
      decide (c.lastSafeState = .approved ∧
        c.toolResultHashes.lookup "build_remediation_evidence" = some ⟨0⟩ ∧
        (c.resumeMetadata.lookup "proposal_id").bind Json.str? = some (uid 4).str ∧
        (c.resumeMetadata.lookup "recovery_lease_expires_at").isNone)) = true := by decide +kernel
  have hevents : start.world.store.auditEvents.keys = ∅ := by decide +kernel
  have hevidence : start.world.store.verificationEvidence.keys = ∅ := by decide +kernel
  have hrecords : start.world.store.idempotency.keys = ∅ := by decide +kernel
  obtain ⟨r, hr, hr'⟩ := (Option.any_eq_true ..).mp hrun
  obtain ⟨c, hc, hc'⟩ := (Option.any_eq_true ..).mp hcheck
  obtain ⟨happroved, hupdated⟩ := of_decide_eq_true hr'
  obtain ⟨hsafe, hretained, hproposal, hlease⟩ := of_decide_eq_true hc'
  refine ⟨r, c, {
    proposal := by decide +kernel
    awaiting := rfl
    approval := ⟨approval, by decide +kernel, rfl, rfl, rfl, rfl, rfl, rfl⟩
    run := hr
    approved := happroved
    unclaimed := Table.get_of_keys_empty hrecords _
    evidence := Table.get_of_keys_empty hevidence _
    checkpoint := hc
    safe := hsafe
    retained := hretained
    movers := by decide +kernel
    fresh := fun n _ _ => ⟨Table.get_of_keys_empty hevents _, fun pid v hv => ?_⟩
    distinct := fun k n _ hk hn h => ?_
    room := ?_
    updated := hupdated
    range := by
      show (10 + (0 + 90) : Nat) + seconds 300 ≤ Time.datetimeMax
      decide }, ?_, by simpa using hlease⟩
  · rw [Table.get_of_keys_empty hevidence] at hv
    cases hv
  · change n < 0 + 90 at hn
    have := uid_injective (by omega) (by omega) h
    omega
  · simp only [Store.countAuditEvents, Table.countKeys, hevents]
    decide
  · obtain ⟨j, hj, hj'⟩ := Option.bind_eq_some_iff.mp hproposal
    rw [hj]
    exact congrArg some (Json.eq_str hj')

theorem acknowledges_for (command : StopExecutionCommand)
    (h1 : command.proposalId = proposal.proposalId) (h2 : command.runId = proposal.runId)
    (h3 : command.target = proposal.target) :
    ∃ ack, (environment 10 acknowledges).acknowledge command = .ok ack ∧ ack.For proposal :=
  ⟨_, rfl, h1, h2, h3⟩

theorem covers : recovery.Covers proposal :=
  ⟨⟨sandbox, rfl, rfl, rfl, rfl, rfl⟩, _, sandbox, rfl, rfl, rfl, rfl, rfl⟩

theorem free {checkpoint : Checkpoint} (hproposal :
      checkpoint.resumeMetadata.lookup "proposal_id" = some (.str proposal.proposalId.str))
    (hlease : checkpoint.resumeMetadata.lookup "recovery_lease_expires_at" = none) (t : Time) :
    checkpoint.Free proposal t := by
  constructor
  · intro j hj
    rw [hproposal] at hj
    exact .inr (Option.some.inj hj).symm
  · intro t' _
    simp [RecoveryCoordinator.leaseFailure, hlease]

/-- What the read-backs of the sample show. -/
def observation : VerificationObservation :=
  ⟨uid 4, uid 1, uid 2, uid 3, target, .stopped, 0, 1, ⟨0⟩, ⟨0⟩, Nat.one_pos⟩

/-- After the sample execution by client 10, its verification can begin to close the run. -/
theorem executed : ∃ c k x ack, Reachable calls c ∧ x.Consistent proposal ∧
    (ClosingCall.persistSuccess x.run ack observation).Fits x ∧ x.record.status = .registered ∧
    x.evidence = none ∧ (∀ t, x.checkpoint.Free proposal t) ∧
    Stands ((environment 10 acknowledges).after k) proposal [10] ⟨c.world, 0⟩ x 56 := by
  obtain ⟨r, checkpoint, hclaim, hproposal, hlease⟩ := claimable acknowledges
  have hthread : start.threads 10 = (calls 10).flow := play_threads _ _ (by simp) _
  obtain ⟨c, k, run, record, ack, hreach, hstate, hstatus, hrecorded, hfor, h⟩ :=
    Reachable.executed (b := 65) (reachable_play ..) hclaim acknowledges_for hthread
  have hx : Picture.Consistent proposal ⟨run, record, none, checkpoint⟩ := by
    refine ⟨fun ack' hack' => ?_, .inl ⟨hstatus, .inr (.inl hstate)⟩⟩
    rw [hrecorded] at hack'
    cases hack'
    exact hfor
  exact ⟨c, k, _, ack, hreach, hx, ⟨rfl, hstate, hrecorded⟩, hstatus, rfl, free hproposal hlease,
    h.mono (by decide)⟩

end Sample

end CloudOpsAgent
