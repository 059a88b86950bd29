/-
  A DENIED EXECUTION, and what it leaves behind.

  `execute` registers the action before it has seen the checkpoint: `register_approved_action` asks
  for the proposal, the approval and the run, and writes the idempotency record;
  `load_execution_prerequisites` asks for the same three again, then for the record, then for the
  checkpoint.

  1. **The stages** — each function alone, on any store: what it returns or raises, and the store
     it leaves.  The three records are `ApprovedRecords`, the checkpoint is `RetainsEvidence`.

  2. **The claim** — denied by the records, nothing is written; denied by the checkpoint, the
     registration stays.

  3. **The execution** — a denial leaves the store as it was except after a registration that is
     not followed by the checkpoint, and that registration sends the next attempt to recovery.
-/
import CloudOpsAgent.Recovery.Unknown

namespace CloudOpsAgent

open ClientProg ClientProg.Prog Environment

section Denial

variable [Sha256] {ι : Type} {e : Environment} {who : ι} {st : Solo ι} {s : Store} {proposalId : UUID}
  {x y : Run × ActionProposal × Approval}

/-! ## The prerequisites -/

/-- What `_require_approved_records` asks for. -/
structure ApprovedRecords (s : Store) (proposalId : UUID) (x : Run × ActionProposal × Approval) :
    Prop where
  proposal : s.proposals.get proposalId = some x.2.1
  awaiting : x.2.1.state = .awaitingApproval
  approval : s.approvals.get x.2.1.proposalId = some x.2.2
  approved : x.2.2.decision = .approved
  run : s.runs.get x.2.1.runId = some x.1
  state : x.1.state = .approved

/-- The store names one proposal, one approval, one run. -/
theorem ApprovedRecords.unique (h : ApprovedRecords s proposalId x)
    (h' : ApprovedRecords s proposalId y) : x = y := by
  obtain ⟨run, p, a⟩ := x
  obtain ⟨run', p', a'⟩ := y
  have hp : p = p' := Option.some.inj (h.proposal.symm.trans h'.proposal)
  subst hp
  have ha : a = a' := Option.some.inj (h.approval.symm.trans h'.approval)
  have hr : run = run' := Option.some.inj (h.run.symm.trans h'.run)
  rw [ha, hr]

/-- The checkpoint `load_execution_prerequisites` asks for. -/
def Store.RetainsEvidence (s : Store) (p : ActionProposal) : Prop :=
  ∃ c, s.checkpoints.get p.runId = some c ∧ c.lastSafeState = .approved ∧
    c.toolResultHashes.lookup "build_remediation_evidence" = some p.evidenceHash

/-- The action can be registered, and its checkpoint is not the one an execution asks for. -/
def Store.RegistersThenDenies (s : Store) (proposalId : UUID) : Prop :=
  ∃ x, ApprovedRecords s proposalId x ∧ s.idempotency.get (deriveIdempotencyKey x.2.1) = none ∧
    ¬s.RetainsEvidence x.2.1

/-- `DurablePrerequisiteError`, with some message. -/
def Lacks {α : Type} (o : Except PyExc α) : Prop := ∃ m, o = .error (.durablePrerequisite m)

/-! ## The stages -/

/-- Reading the approved records finds exactly them, and writes nothing. -/
theorem wp_requireApprovedRecords_found : e.Wp who (requireApprovedRecords proposalId) (fun o st' =>
    st'.world.store = st.world.store ∧ ((∃ x, o = .ok x ∧ ApprovedRecords st.world.store proposalId x) ∨
      Lacks o ∧ ∀ x, ¬ApprovedRecords st.world.store proposalId x)) st := by
  unfold requireApprovedRecords
  refine wp_read (o := .getProposal proposalId) rfl fun p hp => ?_
  rcases p with _ | p
  · exact wp_raise ⟨rfl, .inr ⟨⟨_, rfl⟩, fun x hx => by rw [hx.proposal] at hp; cases hp⟩⟩
  -- from here on the proposal is the one the records would name
  have named (x) (hx : ApprovedRecords st.world.store proposalId x) : x.2.1 = p := by
    rw [hx.proposal] at hp
    exact (Option.some.inj hp).symm
  dsimp only
  split
  · rename_i hstate
    exact wp_raise ⟨rfl, .inr ⟨⟨_, rfl⟩, fun x hx => hstate (named x hx ▸ hx.awaiting)⟩⟩
  rename_i hstate
  refine wp_read (o := .getApproval p.proposalId) rfl fun a ha => ?_
  rcases a with _ | a
  · refine wp_raise ⟨rfl, .inr ⟨⟨_, rfl⟩, fun x hx => ?_⟩⟩
    have := hx.approval
    rw [named x hx] at this
    cases ha.trans this
  dsimp only
  split
  · rename_i hdecision
    refine wp_raise ⟨rfl, .inr ⟨⟨_, rfl⟩, fun x hx => hdecision ?_⟩⟩
    have := hx.approval
    rw [named x hx] at this
    cases ha.trans this
    exact hx.approved
  rename_i hdecision
  refine wp_read (o := .getRun p.runId) rfl fun run hrun => ?_
  rcases run with _ | run
  · refine wp_raise ⟨rfl, .inr ⟨⟨_, rfl⟩, fun x hx => ?_⟩⟩
    have := hx.run
    rw [named x hx] at this
    cases hrun.trans this
  dsimp only
  split
  · rename_i happroved
    refine wp_raise ⟨rfl, .inr ⟨⟨_, rfl⟩, fun x hx => happroved ?_⟩⟩
    have := hx.run
    rw [named x hx] at this
    cases hrun.trans this
    exact hx.state
  · rename_i happroved
    exact wp_ret ⟨rfl, .inl ⟨_, rfl, hp.symm, not_not.mp hstate, ha.symm, not_not.mp hdecision,
      hrun.symm, not_not.mp happroved⟩⟩

/-- What a fresh registration files. -/
structure RegistrationOf (p : ActionProposal) (record : IdempotencyRecord) : Prop where
  key : record.idempotencyKey = deriveIdempotencyKey p
  proposal : record.proposalId = p.proposalId
  status : record.status = .registered
  unacknowledged : record.executionAcknowledgement = none

/-- `s` with a record filed. -/
def Store.registering (s : Store) (record : IdempotencyRecord) : Store :=
  { s with idempotency := s.idempotency.put record }

theorem Store.registering_ne {record : IdempotencyRecord}
    (h : s.idempotency.get record.idempotencyKey = none) : s.registering record ≠ s := by
  intro heq
  have hget := congrArg (·.idempotency.get record.idempotencyKey) heq
  simp only [registering, Table.get_put_self, h] at hget
  cases hget

/-- A registration alone: the records are there and the record is filed, or nothing is written. -/
theorem wp_registerApprovedAction_found {t : Time} (hfree : ∀ x, ApprovedRecords st.world.store proposalId x →
      st.world.store.idempotency.get (deriveIdempotencyKey x.2.1) = none) :
    e.Wp who (registerApprovedAction proposalId t) (fun o st' =>
      (∃ x record, o = .ok record ∧ ApprovedRecords st.world.store proposalId x ∧
        RegistrationOf x.2.1 record ∧ st'.world.store = st.world.store.registering record) ∨
      Lacks o ∧ (∀ x, ¬ApprovedRecords st.world.store proposalId x) ∧
        st'.world.store = st.world.store) st := by
  refine wp_bind wp_requireApprovedRecords_found ?_ ?_
  · rintro x st1 ⟨hst1, ⟨x', hx, h⟩ | ⟨⟨m, hm⟩, -⟩⟩
    swap
    · cases hm
    cases hx
    obtain ⟨run, p, a⟩ := x
    have hid : p.proposalId = proposalId := Table.key_of_get h.proposal
    have hnone := hfree _ h
    obtain ⟨record, hbuild, hrecord, hfinger⟩ : ∃ record, buildIdempotencyRecord p t = .ok record ∧
        RegistrationOf p record ∧ record.actionFingerprint = deriveActionFingerprint p := by
      have hawaiting : p.state = .awaitingApproval := h.awaiting
      simp only [buildIdempotencyRecord, hawaiting, ne_eq, not_true, if_false]
      exact ⟨_, rfl, ⟨rfl, rfl, rfl, rfl⟩, rfl⟩
    have hop : (Op.registerIdempotency record).run st1.world.store =
        .ok (record, st1.world.store.registering record) := by
      have hproposal : st.world.store.proposals.get p.proposalId = some p := hid ▸ h.proposal
      have hawaiting : p.state = .awaitingApproval := h.awaiting
      have happroval : st.world.store.approvals.get p.proposalId = some a := h.approval
      have hdecision : a.decision = .approved := h.approved
      have hrun : st.world.store.runs.get p.runId = some run := h.run
      have hstate : run.state = .approved := h.state
      simp only [hst1, Op.run, Store.registerIdempotency, hrecord.key, hnone,
        Store.registrationProposal, hrecord.proposal, hproposal, Option.filter_some, hawaiting,
        hfinger, beq_self_eq_true, Bool.and_self, if_true, happroval, Option.any_some, hdecision,
        hrun, hstate, Bool.not_true, Bool.false_eq_true, if_false]
      rfl
    dsimp only
    rw [hbuild]
    refine wp_op hop (.inl ⟨_, record, rfl, h, hrecord, ?_⟩)
    rw [Solo.applied_world, World.applied_store, hst1]
  · rintro y st1 ⟨hst1, ⟨x, hx, -⟩ | ⟨⟨m, hm⟩, hno⟩⟩
    · cases hx
    · cases hm
      exact .inr ⟨⟨m, rfl⟩, hno, hst1⟩

/-- With a registration of its own, loading depends on the checkpoint alone, and writes nothing. -/
theorem wp_loadExecutionPrerequisites_found (h : ApprovedRecords st.world.store proposalId x)
    {record : IdempotencyRecord} (hrecord : RegistrationOf x.2.1 record)
    (hget : st.world.store.idempotency.get (deriveIdempotencyKey x.2.1) = some record) :
    e.Wp who (loadExecutionPrerequisites proposalId) (fun o st' =>
      st'.world.store = st.world.store ∧
        ((∃ prerequisites, o = .ok prerequisites) ∧ st.world.store.RetainsEvidence x.2.1 ∨
          Lacks o ∧ ¬st.world.store.RetainsEvidence x.2.1)) st := by
  refine wp_bind wp_requireApprovedRecords_found ?_ ?_
  · rintro x' st1 ⟨hst1, ⟨x'', hx, h'⟩ | ⟨⟨m, hm⟩, -⟩⟩
    swap
    · cases hm
    cases hx
    cases h.unique h'
    obtain ⟨run, p, a⟩ := x
    have hid : run.runId = p.runId := Table.key_of_get h.run
    have hchecks {c : Checkpoint} : st.world.store.RetainsEvidence p →
        st.world.store.checkpoints.get p.runId = some c → c.lastSafeState = .approved ∧
          c.toolResultHashes.lookup "build_remediation_evidence" = some p.evidenceHash := by
      rintro ⟨c', hc', hsafe⟩ hc
      cases hc'.symm.trans hc
      exact hsafe
    dsimp only
    refine wp_read (o := .getIdempotency (deriveIdempotencyKey p)) (v := some record) ?_
      fun found hfound => ?_
    · rw [hst1]
      exact congrArg (fun v => Except.ok (v, st.world.store)) hget
    cases hfound
    dsimp only
    rw [if_neg fun hbad => hbad.elim (fun hne => hne hrecord.proposal) fun hne => hne hrecord.status]
    refine wp_read (o := .getCheckpoint run.runId) rfl fun c hc => ?_
    rw [Solo.applied_world, World.applied_store, hst1, hid] at hc
    rcases c with _ | c
    · refine wp_raise ⟨hst1, .inr ⟨⟨_, rfl⟩, ?_⟩⟩
      rintro ⟨c, hc', -⟩
      cases hc.trans hc'
    dsimp only
    split
    · rename_i hsafe
      exact wp_raise ⟨hst1, .inr ⟨⟨_, rfl⟩, fun hretains => hsafe (hchecks hretains hc.symm).1⟩⟩
    rename_i hsafe
    split
    · rename_i hhash
      exact wp_raise ⟨hst1, .inr ⟨⟨_, rfl⟩, fun hretains => hhash (hchecks hretains hc.symm).2⟩⟩
    · rename_i hhash
      exact wp_ret ⟨hst1, .inl ⟨⟨_, rfl⟩, c, hc.symm, not_not.mp hsafe, not_not.mp hhash⟩⟩
  · rintro y st1 ⟨-, ⟨x', hx, -⟩ | ⟨-, hno⟩⟩
    · cases hx
    · exact absurd h (hno x)

/-! ### What the repository raises -/

omit [Sha256] in
theorem Lacks.bind {α β : Type} {a : Except PyExc α} {f : α → Except PyExc β} (h : Lacks (a >>= f)) :
    Lacks a ∨ ∃ v, a = .ok v ∧ Lacks (f v) := by
  obtain ⟨m, hm⟩ := h
  cases a with
  | error y => exact .inl ⟨m, congrArg Except.error (Except.error.inj hm)⟩
  | ok v => exact .inr ⟨v, rfl, m, hm⟩

omit [Sha256] in
theorem transitionRun_not_lacks {run : Run} {next : WorkflowState} {t : Time} :
    ¬Lacks (transitionRun run next t) := by
  rintro ⟨m, hm⟩
  unfold transitionRun validateWorkflowTransition at hm
  split at hm
  · rename_i h
    split at h
    · cases h
    · cases h
      cases hm
  · split at hm <;> cases hm

theorem Store.transitionRun_not_lacks {runId : UUID} {next expected : WorkflowState} {version : Nat}
    {t : Time} {approvalId verificationId : Option UUID} :
    ¬Lacks (s.transitionRun runId next expected version t approvalId verificationId) := by
  intro h
  obtain ⟨m, hm⟩ | ⟨run, -, h⟩ := h.bind
  · cases hrun : s.runs.get runId <;> rw [hrun] at hm <;> cases hm
  split at h
  · obtain ⟨m, hm⟩ := h
    cases hm
  obtain ⟨m, hm⟩ | ⟨_, -, h⟩ := h.bind
  · unfold Store.decisionCheck at hm
    grind
  obtain ⟨m, hm⟩ | ⟨_, -, h⟩ := h.bind
  · unfold Store.successCheck at hm
    grind
  obtain h | ⟨_, -, m, hm⟩ := h.bind
  · exact CloudOpsAgent.transitionRun_not_lacks h
  · cases hm

theorem Store.appendAuditEvent_not_lacks {event : AuditEvent} : ¬Lacks (s.appendAuditEvent event) := by
  rintro ⟨m, hm⟩
  unfold Store.appendAuditEvent at hm
  split at hm
  · cases hm
  · split at hm <;> cases hm

namespace StopSandboxInstanceCoordinator

theorem wp_appendEvent_not_lacks {run : Run} {type : AuditEventType} {hash : Sha256Digest}
    {metadata : Dict String String} :
    e.Wp who (appendEvent run type hash metadata) (fun o _ => ¬Lacks o) st := by
  have returned {st' : Solo ι} : e.Wp who (.ret () : Flow Unit) (fun o _ => ¬Lacks o) st' :=
    wp_ret fun ⟨m, hm⟩ => by cases hm
  refine wp_freshId_bind (wp_clock_bind (wp_op_cases (fun _ _ _ => returned) fun y hy => ?_))
  rintro ⟨m, hm⟩
  cases hm
  exact Store.appendAuditEvent_not_lacks ⟨m, hy⟩

/-! ## The claim -/

/-- What a claim of an unregistered action comes to: it is denied by the records and writes nothing,
    or by the checkpoint and has registered, or not at all. -/
theorem wp_claim_denial {p : ActionProposal}
    (hp : st.world.store.proposals.get proposalId = some p)
    (hfree : st.world.store.idempotency.get (deriveIdempotencyKey p) = none) :
    e.Wp who (claim p proposalId) (fun o st' =>
      (Lacks o ∧ (∀ x, ¬ApprovedRecords st.world.store proposalId x) ∧
        st'.world.store = st.world.store) ∨
      (Lacks o ∧ st.world.store.RegistersThenDenies proposalId ∧ ∃ record, RegistrationOf p record ∧
        st'.world.store = st.world.store.registering record) ∨
      ¬Lacks o ∧ ¬st.world.store.RegistersThenDenies proposalId) st := by
  have named (x) (hx : ApprovedRecords st.world.store proposalId x) : x.2.1 = p := by
    have := hx.proposal
    rw [hp] at this
    exact (Option.some.inj this).symm
  refine wp_clock_bind (wp_bind (wp_registerApprovedAction_found fun x hx => ?_) ?_ ?_)
  · rw [named x hx]
    exact hfree
  · rintro registered st1 (⟨x, record, hregistered, h, hrecord, hst1⟩ | ⟨⟨m, hm⟩, -⟩)
    swap
    · cases hm
    have hx : x.2.1 = p := named x h
    have h1 : ApprovedRecords st1.world.store proposalId x := by
      rw [hst1]
      exact ⟨h.proposal, h.awaiting, h.approval, h.approved, h.run, h.state⟩
    have hget : st1.world.store.idempotency.get (deriveIdempotencyKey x.2.1) = some record := by
      rw [hst1, ← hrecord.key]
      exact Table.get_put_self _ _
    -- a registration leaves the checkpoints alone
    have hretains : st1.world.store.RetainsEvidence x.2.1 ↔ st.world.store.RetainsEvidence x.2.1 := by
      rw [hst1]
      exact Iff.rfl
    refine wp_bind (wp_loadExecutionPrerequisites_found h1 hrecord hget) ?_ ?_
    · rintro prerequisites st2 ⟨-, ⟨-, hok⟩ | ⟨⟨m, hm⟩, -⟩⟩
      swap
      · cases hm
      have hnot : ¬st.world.store.RegistersThenDenies proposalId := by
        rintro ⟨y, hy, -, hno⟩
        cases h.unique hy
        exact hno (hretains.mp hok)
      -- from here on nothing is denied any more
      refine Wp.mono (Q := fun o _ => ¬Lacks o) (fun o _ ho => .inr (.inr ⟨ho, hnot⟩)) ?_
      refine wp_clock_bind (wp_op_cases (fun run s _ => wp_clock_bind ?_) fun y hy => ?_)
      · refine wp_bind wp_appendEvent_not_lacks (fun _ _ _ => ?_) fun y _ hy => ?_
        · exact wp_ret fun ⟨m, hm⟩ => by cases hm
        · rintro ⟨m, hm⟩
          cases hm
          exact hy ⟨m, rfl⟩
      · rintro ⟨m, hm⟩
        cases hm
        exact Store.transitionRun_not_lacks ⟨m, hy⟩
    · rintro y st2 ⟨hst2, ⟨⟨_, hy⟩, -⟩ | ⟨⟨m, hm⟩, hno⟩⟩
      · cases hy
      cases hm
      refine .inr (.inl ⟨⟨m, rfl⟩, ⟨x, h, ?_, fun hok => hno (hretains.mpr hok)⟩, record, hx ▸ hrecord,
        hst2.trans hst1⟩)
      rw [hx]
      exact hfree
  · rintro y st1 (⟨x, record, hy, -⟩ | ⟨⟨m, hm⟩, hno, hst1⟩)
    · cases hy
    · cases hm
      exact .inl ⟨⟨m, rfl⟩, hno, hst1⟩

/-! ## The execution -/

/-- The failure `EXECUTION_PREREQUISITES_DENIED`. -/
def Denied (o : Except PyExc (ControlResult ExecutionAcknowledgement)) : Prop :=
  ∃ f, o = .ok (.failed f) ∧ f.code = "EXECUTION_PREREQUISITES_DENIED"

omit [Sha256] in
theorem executionFailure_code (y : PyExc) :
    (executionFailure y).1.code ≠ "EXECUTION_PREREQUISITES_DENIED" := by
  cases y <;> simp [executionFailure]

/-- A result that is no denial. -/
def NotDenied (r : ControlResult ExecutionAcknowledgement) : Prop :=
  ∀ f, r = .failed f → f.code ≠ "EXECUTION_PREREQUISITES_DENIED"

omit [Sha256] in
theorem notDenied_failed {f : FailureDetail} (h : f.code ≠ "EXECUTION_PREREQUISITES_DENIED") :
    NotDenied (.failed f) := by
  intro f' hf
  cases hf
  exact h

/-- Whatever `markRecoveryRequired` is told to report, it reports. -/
theorem markRecoveryRequired_returns {runId : UUID} {code message : String} :
    (markRecoveryRequired runId code message).Returns
      (· = .failed ⟨.recoveryRequirement, code, message, false⟩) :=
  Flow.returns_catching rfl fun _ => rfl

theorem markRecoveryRequired_notDenied {runId : UUID} {code message : String}
    (h : code ≠ "EXECUTION_PREREQUISITES_DENIED") :
    (markRecoveryRequired runId code message).Returns NotDenied :=
  markRecoveryRequired_returns.mono fun r hr => hr ▸ notDenied_failed h

/-- From the executor call on no outcome is a denial. -/
theorem callExecutor_notDenied {c : Claimed} : (callExecutor proposalId c).Returns NotDenied := by
  refine Flow.returns_tryExcept (fun y q hq => ?_) fun acknowledgement => ?_
  · cases hq
    exact Flow.returns_catching (notDenied_failed (by decide))
      fun _ => notDenied_failed (executionFailure_code y)
  · refine Flow.returns_catching (markRecoveryRequired_notDenied (by decide)) fun _ => ?_
    intro f hf
    cases hf

/-- The handlers of the claim: only a lacking prerequisite is a denial. -/
theorem claimHandler_notDenied {runId : UUID} {y : PyExc} (hy : ¬Lacks (.error y : Except PyExc Claimed)) :
    ((claimHandler runId y).getD (.raise y)).Returns NotDenied := by
  cases y with
  | durablePrerequisite m => exact absurd ⟨m, rfl⟩ hy
  | storageConflict m => exact markRecoveryRequired_notDenied (by decide)
  | storageDependency m => exact notDenied_failed (by decide)
  | _ => trivial

/-- A known action is reconciled: a denial is the failure recorded for it, and nothing is written. -/
theorem wp_reconcileExisting_denial {p : ActionProposal} {key : String} {existing : IdempotencyRecord} :
    e.Wp who (reconcileExisting p key existing)
      (fun o st' => Denied o → st'.world.store = st.world.store) st := by
  have other {q : Flow (ControlResult ExecutionAcknowledgement)} (hq : q.Returns NotDenied)
      {st' : Solo ι} : e.Wp who q (fun o st' => Denied o → st'.world.store = st.world.store) st' := by
    refine (wp_returns hq).mono ?_
    rintro o st'' ho ⟨f, rfl, hf⟩
    exact absurd hf (ho _ rfl f rfl)
  unfold reconcileExisting
  split
  · exact wp_ret fun _ => rfl
  split
  · refine wp_try (R := fun o _ => ∃ run, o = .ok run) (wp_op rfl ⟨_, rfl⟩) ?_ ?_
    · rintro run st1 -
      split
      · exact wp_ret fun ⟨f, hf, _⟩ => by cases hf
      · exact other (markRecoveryRequired_notDenied (by decide))
    · rintro y st1 ⟨_, hy⟩
      cases hy
  split
  · exact other (markRecoveryRequired_notDenied (by decide))
  split
  · exact wp_ret fun _ => rfl
  · exact wp_ret fun _ => rfl

/-- A denial that has left a registration behind. -/
def LeavesRegistration (s s' : Store) (proposalId : UUID) : Prop :=
  ∃ p record, s.proposals.get proposalId = some p ∧ RegistrationOf p record ∧
    s.idempotency.get (deriveIdempotencyKey p) = none ∧ s' = s.registering record

/-- Every way an execution can be denied. -/
theorem wp_execute_denial : e.Wp who (execute proposalId) (fun o st' =>
    (st.world.store.RegistersThenDenies proposalId →
      Denied o ∧ LeavesRegistration st.world.store st'.world.store proposalId) ∧
    (¬st.world.store.RegistersThenDenies proposalId → Denied o →
      st'.world.store = st.world.store)) st := by
  unfold execute
  refine wp_try (R := fun o st1 => o = .ok (st.world.store.proposals.get proposalId) ∧
    st1.world.store = st.world.store) (wp_op rfl ⟨rfl, rfl⟩) ?_ ?_
  swap
  · rintro y st1 ⟨hy, -⟩
    cases hy
  rintro found st1 ⟨hfound, hst1⟩
  cases hfound
  cases hp : st.world.store.proposals.get proposalId with
  | none =>
    refine wp_ret ⟨?_, fun _ _ => hst1⟩
    rintro ⟨x, hx, -⟩
    cases hp.symm.trans hx.proposal
  | some p =>
    refine wp_try (R := fun o st2 => o = .ok (st.world.store.idempotency.get (deriveIdempotencyKey p)) ∧
      st2.world.store = st.world.store) (wp_op rfl ⟨by rw [← hst1], hst1⟩) ?_ ?_
    swap
    · rintro y st2 ⟨hy, -⟩
      cases hy
    rintro found st2 ⟨hfound, hst2⟩
    cases hfound
    cases hget : st.world.store.idempotency.get (deriveIdempotencyKey p) with
    | some existing =>
      refine wp_reconcileExisting_denial.mono fun o st3 h => ⟨?_, fun _ hd => (h hd).trans hst2⟩
      rintro ⟨x, hx, hnone, -⟩
      cases Option.some.inj (hp.symm.trans hx.proposal)
      cases hget.symm.trans hnone
    | none =>
      rw [← hst2] at hp hget ⊢
      refine wp_try (wp_claim_denial hp hget) ?_ ?_
      · rintro claimed st3 (⟨⟨_, hl⟩, -⟩ | ⟨⟨_, hl⟩, -⟩ | ⟨-, hnot⟩)
        · cases hl
        · cases hl
        refine (wp_returns callExecutor_notDenied).mono ?_
        rintro o st4 ho
        refine ⟨fun h => absurd h hnot, ?_⟩
        rintro - ⟨f, rfl, hf⟩
        exact absurd hf (ho _ rfl f rfl)
      · rintro y st3 (⟨⟨m, hm⟩, hno, hst3⟩ | ⟨⟨m, hm⟩, hlate, record, hrecord, hst3⟩ | ⟨hy, hnot⟩)
        · cases hm
          refine wp_ret ⟨?_, fun _ _ => hst3⟩
          rintro ⟨x, hx, -⟩
          exact absurd hx (hno x)
        · cases hm
          exact wp_ret ⟨fun _ => ⟨⟨_, rfl, rfl⟩, p, record, hp, hrecord, hget, hst3⟩,
            fun hnot => absurd hlate hnot⟩
        · refine (wp_returns (claimHandler_notDenied hy)).mono ?_
          rintro o st4 ho
          refine ⟨fun h => absurd h hnot, ?_⟩
          rintro - ⟨f, rfl, hf⟩
          exact absurd hf (ho _ rfl f rfl)

theorem LeavesRegistration.ne {s' : Store} (h : LeavesRegistration s s' proposalId) : s' ≠ s := by
  obtain ⟨p, record, -, hrecord, hnone, rfl⟩ := h
  exact Store.registering_ne (hrecord.key ▸ hnone)

/-- A registration left behind sends the next attempt to recovery, whatever else has been repaired. -/
theorem wp_execute_registered {p : ActionProposal} {record : IdempotencyRecord}
    (hp : st.world.store.proposals.get proposalId = some p) (hrecord : RegistrationOf p record)
    (hget : st.world.store.idempotency.get (deriveIdempotencyKey p) = some record) :
    e.Wp who (execute proposalId) (fun o _ => ∀ r, o = .ok r → r = .failed ⟨.recoveryRequirement,
      "IDEMPOTENCY_IN_PROGRESS", "Unresolved in-progress mutation must not be blindly replayed",
      false⟩) st := by
  unfold execute
  refine wp_try (R := fun o st1 => o = .ok (some p) ∧ st1.world.store = st.world.store)
    (wp_op rfl ⟨congrArg Except.ok hp, rfl⟩) ?_ ?_
  swap
  · rintro y st1 ⟨hy, -⟩
    cases hy
  rintro found st1 ⟨hfound, hst1⟩
  cases hfound
  refine wp_try (R := fun o st2 => o = .ok (some record))
    (wp_op rfl (congrArg Except.ok (hst1 ▸ hget))) ?_ ?_
  swap
  · rintro y st2 hy
    cases hy
  rintro found st2 hfound
  cases hfound
  have hown : ¬(record.proposalId ≠ p.proposalId ∨ record.idempotencyKey ≠ deriveIdempotencyKey p) :=
    fun h => h.elim (· hrecord.proposal) (· hrecord.key)
  simp only [reconcileExisting, if_neg hown, hrecord.unacknowledged, hrecord.status, if_true]
  exact wp_returns markRecoveryRequired_returns

end StopSandboxInstanceCoordinator

/-- After such a denial the proposal is never executed: the next attempt is taken for a duplicate. -/
theorem denied_attempt_blocks (h : st.world.store.RegistersThenDenies proposalId) :
    e.Wp who (StopSandboxInstanceCoordinator.execute proposalId) (fun _ st' =>
      e.Wp who (StopSandboxInstanceCoordinator.execute proposalId) (fun o _ => ∀ r, o = .ok r →
        r = .failed ⟨.recoveryRequirement, "IDEMPOTENCY_IN_PROGRESS",
          "Unresolved in-progress mutation must not be blindly replayed", false⟩) st') st := by
  refine StopSandboxInstanceCoordinator.wp_execute_denial.mono fun o st' ⟨hlate, _⟩ => ?_
  obtain ⟨-, p, record, hp, hrecord, -, hst'⟩ := hlate h
  refine StopSandboxInstanceCoordinator.wp_execute_registered (p := p) ?_ hrecord ?_
  · rw [hst']
    exact hp
  · rw [hst', ← hrecord.key]
    exact Table.get_put_self _ _

/-- **A denied execution leaves the store as it was exactly when** it has not registered the action
    before it looks at the checkpoint. -/
theorem denied_unchanged_iff (e : Environment) (who : ι) (proposalId : UUID) (st : Solo ι) :
    e.Wp who (StopSandboxInstanceCoordinator.execute proposalId)
      (fun o st' => StopSandboxInstanceCoordinator.Denied o →
        st'.world.store = st.world.store) st ↔
      ¬st.world.store.RegistersThenDenies proposalId := by
  have h : e.Wp who (StopSandboxInstanceCoordinator.execute proposalId) _ st :=
    StopSandboxInstanceCoordinator.wp_execute_denial
  obtain ⟨hlate, hotherwise⟩ := h
  constructor
  · intro h hregisters
    obtain ⟨hdenied, hleft⟩ := hlate hregisters
    exact hleft.ne (h hdenied)
  · exact hotherwise

end Denial

/-! ## The sample run without its checkpoint -/

namespace Sample

section Unchecked

variable [Sha256]

/-- The approved sample run, whose checkpoint has not been saved. -/
def unchecked : Store where
  runs := (∅ : Table _).put { run with state := .approved }
  proposals := (∅ : Table _).put proposal
  approvals := (∅ : Table _).put approval

theorem unchecked_registers : unchecked.RegistersThenDenies (uid 4) := by
  refine ⟨({ run with state := .approved }, proposal, approval), ⟨rfl, rfl, rfl, rfl, rfl, rfl⟩,
    Table.get_empty _, ?_⟩
  rintro ⟨c, hc, -⟩
  cases hc

end Unchecked

open StopSandboxInstanceCoordinator in
attribute [local instance] Sha256.standard in
/-- **Denied, and registered**: the sample run has no checkpoint, its execution is denied and leaves a
    registration. -/
theorem denied_changes_store : (environment 10 acknowledges).Wp 0 (execute (uid 4))
    (fun o st' => Denied o ∧ st'.world.store ≠ unchecked)
    (⟨⟨unchecked, []⟩, 0⟩ : Solo Nat) := by
  refine wp_execute_denial.mono fun o st' ⟨hlate, _⟩ => ?_
  obtain ⟨hdenied, hleft⟩ := hlate unchecked_registers
  exact ⟨hdenied, hleft.ne⟩

end Sample

end CloudOpsAgent
