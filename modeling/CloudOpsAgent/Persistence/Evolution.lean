/-
  What an operation of the repository can do.

  1. **Inversion** — for each writing method, everything a successful call has checked and done
     (`Store.transitionRun_ok`, …).  Later proofs cite these and never unfold a method.

  2. **What is written** — `Write s op s'`, the same in one place: which record an operation files
     and what it has checked.  A proof about all operations is a case analysis of it.

  3. **Evolution** — `s.Evolves s'`, the order every store moves along: runs keep their identity
     and gain versions, proposals keep their content, approvals, evidence and audit events are
     never changed, records keep their owner and their acknowledgement, checkpoints are versioned.
     `Op.evolves`: any successful operation moves the store along it.

  4. **What evolution gives a reader** — a fact read from an older store that still holds.
-/
import CloudOpsAgent.Persistence.Memory

namespace CloudOpsAgent

/-! ## Later versions of a record -/

/-- A later version of a run. -/
structure RunEvolves (r r' : Run) : Prop where
  traceId : r'.traceId = r.traceId
  correlationId : r'.correlationId = r.correlationId
  version_le : r.version ≤ r'.version
  eq_of_version : r'.version = r.version → r' = r
  updatedAt_le : r.updatedAt ≤ r'.updatedAt
  terminal : r.state ∈ TERMINAL_WORKFLOW_STATES → r'.state = r.state
  beforeExecuting : r'.state.beforeExecuting → r.state.beforeExecuting
  beforeApproved : r'.state.beforeApproved → r.state.beforeApproved

theorem RunEvolves.refl (r : Run) : RunEvolves r r :=
  ⟨rfl, rfl, le_rfl, fun _ => rfl, le_rfl, fun _ => rfl, id, id⟩

theorem RunEvolves.trans {r r' r'' : Run} (h : RunEvolves r r') (h' : RunEvolves r' r'') :
    RunEvolves r r'' where
  traceId := h'.traceId.trans h.traceId
  correlationId := h'.correlationId.trans h.correlationId
  version_le := h.version_le.trans h'.version_le
  eq_of_version hv := by
    have h1 := h.version_le
    have h2 := h'.version_le
    have e' := h'.eq_of_version (by omega)
    subst e'
    exact h.eq_of_version hv
  updatedAt_le := h.updatedAt_le.trans h'.updatedAt_le
  terminal ht := by
    have hs := h.terminal ht
    rw [h'.terminal (hs ▸ ht), hs]
  beforeExecuting hb := h.beforeExecuting (h'.beforeExecuting hb)
  beforeApproved hb := h.beforeApproved (h'.beforeApproved hb)

/-- The same registration, possibly acknowledged or resolved since. -/
structure RecordEvolves (r r' : IdempotencyRecord) : Prop where
  proposalId : r'.proposalId = r.proposalId
  actionFingerprint : r'.actionFingerprint = r.actionFingerprint
  registeredAt : r'.registeredAt = r.registeredAt
  acknowledgement : ∀ a, r.executionAcknowledgement = some a → r'.executionAcknowledgement = some a

theorem RecordEvolves.refl (r : IdempotencyRecord) : RecordEvolves r r :=
  ⟨rfl, rfl, rfl, fun _ h => h⟩

theorem RecordEvolves.trans {r r' r'' : IdempotencyRecord} (h : RecordEvolves r r')
    (h' : RecordEvolves r' r'') : RecordEvolves r r'' where
  proposalId := h'.proposalId.trans h.proposalId
  actionFingerprint := h'.actionFingerprint.trans h.actionFingerprint
  registeredAt := h'.registeredAt.trans h.registeredAt
  acknowledgement a ha := h'.acknowledgement a (h.acknowledgement a ha)

theorem RunEvolves.of_transition {run run' : Run} {next : WorkflowState} {t : Time}
    (h : CloudOpsAgent.transitionRun run next t = .ok run') : RunEvolves run run' := by
  obtain ⟨hn, ht, hs, hv, hu, -, htr, hco, -⟩ := transitionRun_ok h
  refine ⟨htr, hco, by omega, by omega, hu ▸ ht, ?_, ?_, ?_⟩
  · exact fun hterm => absurd hn (terminal_allows_nothing hterm)
  · exact fun hb => beforeExecuting_of_allowed hn (hs ▸ hb)
  · exact fun hb => beforeApproved_of_allowed hn (hs ▸ hb)

variable [Sha256]

/-! ## Inversion -/

namespace Store

variable {s s' : Store}

theorem createRun_ok {run x : Run} (h : s.createRun run = .ok (x, s')) :
    x = run ∧ run.version = 1 ∧ run.state = .received ∧ s.runs.get run.runId = none ∧
      s.runs.size < MAX_DURABLE_RUNS ∧ s' = { s with runs := s.runs.put run } := by
  unfold createRun at h
  split at h
  · cases h
  split at h
  · cases h
  split at h
  · cases h
  · rename_i h1 h2 h3
    cases h
    rw [not_or, not_not, not_not] at h1
    exact ⟨rfl, h1.1, h1.2, by simpa using h2, Nat.lt_of_not_le h3, rfl⟩

theorem transitionRun_ok {runId : UUID} {next expected : WorkflowState} {version : Nat} {t : Time}
    {approvalId verificationId : Option UUID} {x : Run}
    (h : s.transitionRun runId next expected version t approvalId verificationId = .ok (x, s')) :
    ∃ current, s.runs.get runId = some current ∧ current.state = expected ∧
      current.version = version ∧ s.decisionCheck runId next approvalId = .ok () ∧
      s.successCheck runId next verificationId = .ok () ∧
      CloudOpsAgent.transitionRun current next t = .ok x ∧
      s' = { s with runs := s.runs.put x } := by
  unfold transitionRun at h
  cases hc : s.runs.get runId with
  | none => simp [hc, bind, Except.bind] at h
  | some current =>
    simp only [hc, Option.elim_some, bind, Except.bind] at h
    split at h
    · cases h
    · rename_i hne
      rw [not_or, not_not, not_not] at hne
      cases hd : s.decisionCheck runId next approvalId with
      | error e => simp [hd] at h
      | ok u =>
        cases hv : s.successCheck runId next verificationId with
        | error e => simp [hd, hv] at h
        | ok u' =>
          cases ht : CloudOpsAgent.transitionRun current next t with
          | error e => simp [hd, hv, ht] at h
          | ok updated =>
            simp only [hd, hv, ht, Except.ok.injEq, Prod.mk.injEq] at h
            obtain ⟨rfl, rfl⟩ := h
            exact ⟨current, rfl, hne.1, hne.2, rfl, rfl, ht, rfl⟩

theorem createProposal_ok {p x : ActionProposal} (h : s.createProposal p = .ok (x, s')) :
    x = p ∧ p.state = .proposed ∧ s.proposals.get p.proposalId = none ∧
      s' = { s with proposals := s.proposals.put p } := by
  unfold createProposal at h
  split at h
  · cases h
  split at h
  · cases h
  · rename_i h1 h2
    cases h
    exact ⟨rfl, not_not.mp h1, by simpa using h2, rfl⟩

theorem updateRunBudget_ok {runId : UUID} {budget : BudgetCounters} {version : Nat} {t : Time}
    {x : Run} (h : s.updateRunBudget runId budget version t = .ok (x, s')) :
    ∃ current, s.runs.get runId = some current ∧ current.version = version ∧
      budgetMonotonic current budget ∧ current.updatedAt ≤ t ∧ x.runId = current.runId ∧
      x.traceId = current.traceId ∧ x.correlationId = current.correlationId ∧
      x.state = current.state ∧ x.version = current.version + 1 ∧ x.updatedAt = t ∧
      x.budget = budget ∧ s' = { s with runs := s.runs.put x } := by
  unfold updateRunBudget at h
  split at h
  · cases h
  split at h
  · cases h
  · rename_i current hc
    split at h
    · cases h
    split at h
    · rename_i hv hb
      cases h
      exact ⟨current, hc, not_not.mp hv, hb.1, hb.2, rfl, rfl, rfl, rfl, rfl, rfl, rfl, rfl⟩
    · cases h

theorem transitionProposal_ok {proposalId : UUID} {next expected : ProposalState}
    {x : ActionProposal} (h : s.transitionProposal proposalId next expected = .ok (x, s')) :
    ∃ current, s.proposals.get proposalId = some current ∧ current.state = expected ∧
      next ∈ current.state.allowed ∧ x = { current with state := next } ∧
      s' = { s with proposals := s.proposals.put x } := by
  unfold transitionProposal at h
  split at h
  · cases h
  · rename_i current hc
    split at h
    · cases h
    · rename_i hs
      unfold transitionedProposal at h
      split at h
      · rename_i hn
        cases h
        exact ⟨current, hc, not_not.mp hs, hn, rfl, rfl⟩
      · cases h

theorem createApproval_ok {a x : Approval} (h : s.createApproval a = .ok (x, s')) :
    x = a ∧ ∃ p, s.proposals.get a.proposalId = some p ∧ p.state = .awaitingApproval ∧
      a.Binds p ∧ (s.approvals.get a.proposalId = some a ∧ s' = s ∨
        s.approvals.get a.proposalId = none ∧ s' = { s with approvals := s.approvals.put a }) := by
  unfold createApproval at h
  split at h
  · cases h
  · rename_i p hp
    split at h
    · cases h
    · rename_i hs
      unfold validateApprovalBinding at h
      split at h
      · rename_i hb
        simp only [bind, Except.bind] at h
        split at h
        · rename_i existing he
          split at h
          · rename_i heq
            subst heq
            cases h
            exact ⟨rfl, p, hp, not_not.mp hs, hb, .inl ⟨he, rfl⟩⟩
          · cases h
        · rename_i he
          cases h
          exact ⟨rfl, p, hp, not_not.mp hs, hb, .inr ⟨he, rfl⟩⟩
      · cases h

theorem registerIdempotency_ok {r x : IdempotencyRecord}
    (h : s.registerIdempotency r = .ok (x, s')) :
    (s.idempotency.get r.idempotencyKey = some x ∧ x.proposalId = r.proposalId ∧
        x.actionFingerprint = r.actionFingerprint ∧ s' = s) ∨
      (x = r ∧ s.idempotency.get r.idempotencyKey = none ∧
        (∃ p run a, s.proposals.get r.proposalId = some p ∧ p.state = .awaitingApproval ∧
          r.actionFingerprint = deriveActionFingerprint p ∧
          r.idempotencyKey = deriveIdempotencyKey p ∧
          s.approvals.get r.proposalId = some a ∧ a.decision = .approved ∧
          s.runs.get p.runId = some run ∧ run.state = .approved) ∧
        s' = { s with idempotency := s.idempotency.put r }) := by
  unfold registerIdempotency at h
  split at h
  · rename_i existing he
    split at h
    · cases h
    · rename_i hne
      rw [not_or, not_not, not_not] at hne
      cases h
      exact .inl ⟨he, hne.1, hne.2, rfl⟩
  · rename_i hnone
    split at h
    · cases h
    · rename_i p hp
      rw [registrationProposal, Option.filter_eq_some_iff] at hp
      obtain ⟨hp, hcond⟩ := hp
      simp only [Bool.and_eq_true, beq_iff_eq] at hcond
      split at h
      · cases h
      split at h
      · cases h
      · rename_i ha hr
        simp only [Bool.not_eq_true', Bool.not_eq_false, Option.any_eq_true, beq_iff_eq] at ha hr
        obtain ⟨a, ha, had⟩ := ha
        obtain ⟨run, hrun, hrs⟩ := hr
        cases h
        exact .inr ⟨rfl, hnone, ⟨p, run, a, hp, hcond.1.1, hcond.1.2, hcond.2, ha, had, hrun, hrs⟩,
          rfl⟩

theorem completeIdempotency_ok {key : String} {result : ActionResult} {t : Time}
    {expected : IdempotencyStatus} {x : IdempotencyRecord}
    (h : s.completeIdempotency key result t expected = .ok (x, s')) :
    ∃ current, s.idempotency.get key = some current ∧ current.status = expected ∧
      x.idempotencyKey = current.idempotencyKey ∧ x.proposalId = current.proposalId ∧
      x.actionFingerprint = current.actionFingerprint ∧
      x.executionAcknowledgement = current.executionAcknowledgement ∧
      x.registeredAt = current.registeredAt ∧ x.status = completedIdempotencyStatus result ∧
      x.actionResult = some result ∧ current.registeredAt ≤ t ∧
      s' = { s with idempotency := s.idempotency.put x } := by
  unfold completeIdempotency at h
  split at h
  · cases h
  · rename_i current hc
    split at h
    · cases h
    · rename_i hs
      unfold IdempotencyRecord.complete at h
      split at h
      · rename_i ht
        cases h
        exact ⟨current, hc, not_not.mp hs, rfl, rfl, rfl, rfl, rfl, rfl, rfl, ht, rfl⟩
      · cases h

theorem recordExecutionAcknowledgement_ok {key : String} {ack : ExecutionAcknowledgement}
    {expected : IdempotencyStatus} {x : IdempotencyRecord}
    (h : s.recordExecutionAcknowledgement key ack expected = .ok (x, s')) :
    ∃ current, s.idempotency.get key = some current ∧ current.status = expected ∧
      (current.executionAcknowledgement = some ack ∧ x = current ∧ s' = s ∨
        current.executionAcknowledgement = none ∧ ack.proposalId = current.proposalId ∧
          x = { current with executionAcknowledgement := some ack } ∧
          s' = { s with idempotency := s.idempotency.put x }) := by
  unfold recordExecutionAcknowledgement at h
  split at h
  · cases h
  · rename_i current hc
    split at h
    · cases h
    · rename_i hs
      split at h
      · rename_i recorded hr
        split at h
        · rename_i heq
          subst heq
          cases h
          exact ⟨_, hc, not_not.mp hs, .inl ⟨hr, rfl, rfl⟩⟩
        · cases h
      · rename_i hr
        split at h
        · cases h
        · rename_i hp
          cases h
          exact ⟨current, hc, not_not.mp hs, .inr ⟨hr, not_not.mp hp, rfl, rfl⟩⟩

theorem saveCheckpoint_ok {c x : Checkpoint} {expected : Option Nat}
    (h : s.saveCheckpoint c expected = .ok (x, s')) :
    x = c ∧ s' = { s with checkpoints := s.checkpoints.put c } ∧
      (s.checkpoints.get c.runId = none ∧ expected = none ∧ c.version = 1 ∨
        ∃ current, s.checkpoints.get c.runId = some current ∧ expected = some current.version ∧
          c.version = current.version + 1) := by
  unfold saveCheckpoint at h
  split at h
  · rename_i hn
    split at h
    · cases h
    · rename_i hne
      rw [not_or, not_not, not_not] at hne
      cases h
      exact ⟨rfl, rfl, .inl ⟨hn, hne.1, hne.2⟩⟩
  · rename_i current hc
    split at h
    · cases h
    · rename_i hne
      rw [not_or, not_not, not_not] at hne
      cases h
      exact ⟨rfl, rfl, .inr ⟨current, hc, hne.1, hne.2⟩⟩

theorem appendAuditEvent_ok {e x : AuditEvent} (h : s.appendAuditEvent e = .ok (x, s')) :
    x = e ∧ s.auditEvents.get (e.runId, e.eventId) = none ∧
      s.countAuditEvents e.runId < MAX_AUDIT_EVENTS_PER_RUN ∧
      s' = { s with auditEvents := s.auditEvents.put e } := by
  unfold appendAuditEvent at h
  split at h
  · cases h
  split at h
  · cases h
  · rename_i h1 h2
    cases h
    exact ⟨rfl, by simpa using h1, Nat.lt_of_not_le h2, rfl⟩

theorem createVerificationEvidence_ok {e x : VerificationEvidence}
    (h : s.createVerificationEvidence e = .ok (x, s')) :
    x = e ∧ (s.verificationEvidence.get (e.runId, e.proposalId) = some e ∧ s' = s ∨
      s.verificationEvidence.get (e.runId, e.proposalId) = none ∧ s.evidenceMatches e ∧
        s' = { s with verificationEvidence := s.verificationEvidence.put e }) := by
  unfold createVerificationEvidence at h
  split at h
  · rename_i existing he
    split at h
    · rename_i heq
      subst heq
      cases h
      exact ⟨rfl, .inl ⟨he, rfl⟩⟩
    · cases h
  · rename_i hn
    split at h
    · cases h
    · rename_i hm
      cases h
      exact ⟨rfl, .inr ⟨hn, by simpa using hm, rfl⟩⟩

end Store

/-! ## What an operation writes -/

/-- The operations that can succeed without changing anything: reads, and repeats of a write that
    is already there. -/
def Op.repeatable : Op → Bool
  | .createRun _ | .transitionRun .. | .updateRunBudget .. | .createProposal _
  | .transitionProposal .. | .completeIdempotency .. | .saveCheckpoint .. | .appendAuditEvent _ =>
    false
  | _ => true

/-- **What a successful operation does to the store**: the one record it files, and what it has
    checked about the records that were there. -/
inductive Write (s : Store) : Op → Store → Prop where
  | unchanged {op : Op} (h : op.repeatable) : Write s op s
  | createRun {run : Run} (hn : s.runs.get run.runId = none) (hs : run.state = .received) :
    Write s (.createRun run) { s with runs := s.runs.put run }
  | transitionRun {current run : Run} {next : WorkflowState} {t : Time}
      {approvalId verificationId : Option UUID}
      (hc : s.runs.get current.runId = some current)
      (hd : s.decisionCheck current.runId next approvalId = .ok ())
      (hv : s.successCheck current.runId next verificationId = .ok ())
      (ht : CloudOpsAgent.transitionRun current next t = .ok run) :
    Write s (.transitionRun current.runId next current.state current.version t approvalId
      verificationId) { s with runs := s.runs.put run }
  | updateRunBudget {current run : Run} {budget : BudgetCounters} {t : Time}
      (hc : s.runs.get current.runId = some current) (hid : run.runId = current.runId)
      (hev : RunEvolves current run) (hs : run.state = current.state) :
    Write s (.updateRunBudget current.runId budget current.version t)
      { s with runs := s.runs.put run }
  | createProposal {p : ActionProposal} (hn : s.proposals.get p.proposalId = none)
      (hs : p.state = .proposed) :
    Write s (.createProposal p) { s with proposals := s.proposals.put p }
  | transitionProposal {current : ActionProposal} {next : ProposalState}
      (hc : s.proposals.get current.proposalId = some current)
      (hn : next ∈ current.state.allowed) :
    Write s (.transitionProposal current.proposalId next current.state)
      { s with proposals := s.proposals.put { current with state := next } }
  | createApproval {a : Approval} {p : ActionProposal}
      (hp : s.proposals.get a.proposalId = some p) (hs : p.state = .awaitingApproval)
      (hb : a.Binds p) (hn : s.approvals.get a.proposalId = none) :
    Write s (.createApproval a) { s with approvals := s.approvals.put a }
  | registerIdempotency {r : IdempotencyRecord} {p : ActionProposal} {run : Run} {a : Approval}
      (hn : s.idempotency.get r.idempotencyKey = none)
      (hp : s.proposals.get r.proposalId = some p) (hs : p.state = .awaitingApproval)
      (hf : r.actionFingerprint = deriveActionFingerprint p)
      (hk : r.idempotencyKey = deriveIdempotencyKey p)
      (ha : s.approvals.get r.proposalId = some a) (had : a.decision = .approved)
      (hr : s.runs.get p.runId = some run) (hrs : run.state = .approved) :
    Write s (.registerIdempotency r) { s with idempotency := s.idempotency.put r }
  | completeIdempotency {current r : IdempotencyRecord} {result : ActionResult} {t : Time}
      (hc : s.idempotency.get current.idempotencyKey = some current)
      (hk : r.idempotencyKey = current.idempotencyKey) (hev : RecordEvolves current r)
      (ha : r.executionAcknowledgement = current.executionAcknowledgement)
      (hs : r.status = completedIdempotencyStatus result) (hr : r.actionResult = some result) :
    Write s (.completeIdempotency current.idempotencyKey result t current.status)
      { s with idempotency := s.idempotency.put r }
  | recordExecutionAcknowledgement {current : IdempotencyRecord} {ack : ExecutionAcknowledgement}
      (hc : s.idempotency.get current.idempotencyKey = some current)
      (hn : current.executionAcknowledgement = none)
      (hp : ack.proposalId = current.proposalId) :
    Write s (.recordExecutionAcknowledgement current.idempotencyKey ack current.status)
      { s with idempotency :=
          s.idempotency.put { current with executionAcknowledgement := some ack } }
  | saveCheckpoint {c : Checkpoint} {expected : Option Nat}
      (h : s.checkpoints.get c.runId = none ∧ expected = none ∧ c.version = 1 ∨
        ∃ current, s.checkpoints.get c.runId = some current ∧ expected = some current.version ∧
          c.version = current.version + 1) :
    Write s (.saveCheckpoint c expected) { s with checkpoints := s.checkpoints.put c }
  | appendAuditEvent {e : AuditEvent} (hn : s.auditEvents.get (e.runId, e.eventId) = none) :
    Write s (.appendAuditEvent e) { s with auditEvents := s.auditEvents.put e }
  | createVerificationEvidence {e : VerificationEvidence}
      (hn : s.verificationEvidence.get (e.runId, e.proposalId) = none)
      (hm : s.evidenceMatches e) :
    Write s (.createVerificationEvidence e)
      { s with verificationEvidence := s.verificationEvidence.put e }

theorem Op.write {op : Op} {s s' : Store} {x : op.Result} (h : op.run s = .ok (x, s')) :
    Write s op s' := by
  have read {α : Type} {a b : α} {o : Op} {t t' : Store} (hr : o.repeatable)
      (h : (.ok (a, t) : Except PyExc (α × Store)) = .ok (b, t')) : Write t o t' := by
    cases h
    exact .unchanged hr
  cases op with
  | createRun run =>
    obtain ⟨-, -, hs, hn, -, rfl⟩ := Store.createRun_ok h
    exact .createRun hn hs
  | getRun runId => exact read rfl h
  | transitionRun runId next expected version t approvalId verificationId =>
    obtain ⟨current, hc, rfl, rfl, hd, hv, ht, rfl⟩ := Store.transitionRun_ok h
    obtain rfl := Table.key_of_get hc
    exact .transitionRun hc hd hv ht
  | updateRunBudget runId budget version t =>
    obtain ⟨current, hc, rfl, -, ht, hid, htr, hco, hst, hver, hup, -, rfl⟩ :=
      Store.updateRunBudget_ok h
    obtain rfl := Table.key_of_get hc
    exact .updateRunBudget hc hid ⟨htr, hco, by omega, by omega, hup ▸ ht, fun _ => hst,
      fun hb => hst ▸ hb, fun hb => hst ▸ hb⟩ hst
  | createProposal p =>
    obtain ⟨-, hs, hn, rfl⟩ := Store.createProposal_ok h
    exact .createProposal hn hs
  | getProposal proposalId => exact read rfl h
  | transitionProposal proposalId next expected =>
    obtain ⟨current, hc, rfl, hn, rfl, rfl⟩ := Store.transitionProposal_ok h
    obtain rfl := Table.key_of_get hc
    exact .transitionProposal hc hn
  | createApproval a =>
    obtain ⟨-, p, hp, hs, hb, ⟨-, rfl⟩ | ⟨hn, rfl⟩⟩ := Store.createApproval_ok h
    · exact .unchanged rfl
    · exact .createApproval hp hs hb hn
  | getApproval proposalId => exact read rfl h
  | registerIdempotency r =>
    obtain ⟨-, -, -, rfl⟩ | ⟨-, hn, ⟨p, run, a, hp, hs, hf, hk, ha, had, hr, hrs⟩, rfl⟩ :=
      Store.registerIdempotency_ok h
    · exact .unchanged rfl
    · exact .registerIdempotency hn hp hs hf hk ha had hr hrs
  | getIdempotency key => exact read rfl h
  | completeIdempotency key result t expected =>
    obtain ⟨current, hc, rfl, hk, hp, hf, ha, hr, hs, hres, -, rfl⟩ := Store.completeIdempotency_ok h
    obtain rfl := Table.key_of_get hc
    exact .completeIdempotency hc hk ⟨hp, hf, hr, fun a h => ha ▸ h⟩ ha hs hres
  | recordExecutionAcknowledgement key ack expected =>
    obtain ⟨current, hc, rfl, ⟨-, -, rfl⟩ | ⟨hn, hp, rfl, rfl⟩⟩ :=
      Store.recordExecutionAcknowledgement_ok h
    · exact .unchanged rfl
    · obtain rfl := Table.key_of_get hc
      exact .recordExecutionAcknowledgement hc hn hp
  | saveCheckpoint c expected =>
    obtain ⟨-, rfl, hcur⟩ := Store.saveCheckpoint_ok h
    exact .saveCheckpoint hcur
  | getCheckpoint runId => exact read rfl h
  | appendAuditEvent e =>
    obtain ⟨-, hn, -, rfl⟩ := Store.appendAuditEvent_ok h
    exact .appendAuditEvent hn
  | getAuditEvent runId eventId => exact read rfl h
  | createVerificationEvidence e =>
    obtain ⟨-, ⟨-, rfl⟩ | ⟨hn, hm, rfl⟩⟩ := Store.createVerificationEvidence_ok h
    · exact .unchanged rfl
    · exact .createVerificationEvidence hn hm
  | getVerificationEvidence runId proposalId => exact read rfl h

/-! ## Evolution -/

/-- A later version of a checkpoint. -/
structure CheckpointEvolves (c c' : Checkpoint) : Prop where
  version_le : c.version ≤ c'.version
  eq_of_version : c'.version = c.version → c' = c

theorem CheckpointEvolves.refl (c : Checkpoint) : CheckpointEvolves c c :=
  ⟨le_rfl, fun _ => rfl⟩

theorem CheckpointEvolves.trans {c c' c'' : Checkpoint} (h : CheckpointEvolves c c')
    (h' : CheckpointEvolves c' c'') : CheckpointEvolves c c'' where
  version_le := h.version_le.trans h'.version_le
  eq_of_version hv := by
    have h1 := h.version_le
    have h2 := h'.version_le
    have e' := h'.eq_of_version (by omega)
    subst e'
    exact h.eq_of_version hv

/-- The order along which every operation moves the store. -/
structure Store.Evolves (s s' : Store) : Prop where
  runs : s.runs.Evolves RunEvolves s'.runs
  proposals : s.proposals.Evolves ActionProposal.SameContent s'.proposals
  approvals : s.approvals.Evolves Eq s'.approvals
  idempotency : s.idempotency.Evolves RecordEvolves s'.idempotency
  checkpoints : s.checkpoints.Evolves CheckpointEvolves s'.checkpoints
  auditEvents : s.auditEvents.Evolves Eq s'.auditEvents
  verificationEvidence : s.verificationEvidence.Evolves Eq s'.verificationEvidence

namespace Store.Evolves

theorem refl (s : Store) : s.Evolves s where
  runs := .refl RunEvolves.refl _
  proposals := .refl ActionProposal.SameContent.refl _
  approvals := .refl (fun _ => rfl) _
  idempotency := .refl RecordEvolves.refl _
  checkpoints := .refl CheckpointEvolves.refl _
  auditEvents := .refl (fun _ => rfl) _
  verificationEvidence := .refl (fun _ => rfl) _

theorem trans {s s' s'' : Store} (h : s.Evolves s') (h' : s'.Evolves s'') : s.Evolves s'' where
  runs := h.runs.trans (fun _ _ _ h1 h2 => h1.trans h2) h'.runs
  proposals := h.proposals.trans (fun _ _ _ h1 h2 => h1.trans h2) h'.proposals
  approvals := h.approvals.trans_eq h'.approvals
  idempotency := h.idempotency.trans (fun _ _ _ h1 h2 => h1.trans h2) h'.idempotency
  checkpoints := h.checkpoints.trans (fun _ _ _ h1 h2 => h1.trans h2) h'.checkpoints
  auditEvents := h.auditEvents.trans_eq h'.auditEvents
  verificationEvidence := h.verificationEvidence.trans_eq h'.verificationEvidence

variable {s : Store}

/-- A new or a later version of a run is filed. -/
theorem put_run {run : Run} (h : ∀ r, s.runs.get run.runId = some r → RunEvolves r run) :
    s.Evolves { s with runs := s.runs.put run } :=
  { refl s with runs := Table.evolves_put RunEvolves.refl h }

theorem put_proposal {p : ActionProposal}
    (h : ∀ q, s.proposals.get p.proposalId = some q → q.SameContent p) :
    s.Evolves { s with proposals := s.proposals.put p } :=
  { refl s with proposals := Table.evolves_put ActionProposal.SameContent.refl h }

theorem put_record {r : IdempotencyRecord}
    (h : ∀ q, s.idempotency.get r.idempotencyKey = some q → RecordEvolves q r) :
    s.Evolves { s with idempotency := s.idempotency.put r } :=
  { refl s with idempotency := Table.evolves_put RecordEvolves.refl h }

end Store.Evolves

theorem Write.evolves {op : Op} {s s' : Store} (h : Write s op s') : s.Evolves s' := by
  cases h with
  | unchanged h => exact .refl s
  | createRun hn hs => exact .put_run fun r hr => by rw [hn] at hr; cases hr
  | transitionRun hc hd hv ht =>
    refine .put_run fun r hr => ?_
    rw [(transitionRun_ok ht).2.2.2.2.2.1, hc] at hr
    cases hr
    exact .of_transition ht
  | updateRunBudget hc hid hev hs =>
    refine .put_run fun r hr => ?_
    rw [hid, hc] at hr
    cases hr
    exact hev
  | createProposal hn hs => exact .put_proposal fun q hq => by rw [hn] at hq; cases hq
  | transitionProposal hc hn =>
    refine .put_proposal fun q hq => ?_
    simp only [hc] at hq
    cases hq
    rfl
  | createApproval hp hs hb hn =>
    exact { Store.Evolves.refl s with
      approvals := Table.evolves_put (fun _ => rfl) fun b hb => by rw [hn] at hb; cases hb }
  | registerIdempotency hn => exact .put_record fun q hq => by rw [hn] at hq; cases hq
  | completeIdempotency hc hk hev ha hs hr =>
    refine .put_record fun q hq => ?_
    rw [hk, hc] at hq
    cases hq
    exact hev
  | recordExecutionAcknowledgement hc hn hp =>
    refine .put_record fun q hq => ?_
    simp only [hc] at hq
    cases hq
    exact ⟨rfl, rfl, rfl, fun a ha => by rw [hn] at ha; cases ha⟩
  | saveCheckpoint h =>
    refine { Store.Evolves.refl s with
      checkpoints := Table.evolves_put CheckpointEvolves.refl fun d hd => ?_ }
    obtain ⟨hn, -⟩ | ⟨current, hcur, -, hv⟩ := h
    · rw [hn] at hd; cases hd
    · rw [hcur] at hd
      cases hd
      exact ⟨by omega, by omega⟩
  | appendAuditEvent hn =>
    exact { Store.Evolves.refl s with
      auditEvents := Table.evolves_put (fun _ => rfl) fun f hf => by rw [hn] at hf; cases hf }
  | createVerificationEvidence hn hm =>
    exact { Store.Evolves.refl s with
      verificationEvidence := Table.evolves_put (fun _ => rfl) fun f hf => by
        rw [hn] at hf; cases hf }

/-- Only `save_checkpoint` touches the checkpoints. -/
theorem Write.checkpoints {op : Op} {s s' : Store} (h : Write s op s') :
    s'.checkpoints = s.checkpoints ∨ ∃ c expected, op = .saveCheckpoint c expected ∧
      s'.checkpoints = s.checkpoints.put c ∧
      (s.checkpoints.get c.runId = none ∧ expected = none ∧ c.version = 1 ∨
        ∃ current, s.checkpoints.get c.runId = some current ∧ expected = some current.version ∧
          c.version = current.version + 1) := by
  cases h with
  | saveCheckpoint h => exact .inr ⟨_, _, rfl, rfl, h⟩
  | _ => exact .inl rfl

/-- A saved checkpoint is the first of its run or the successor of the stored one. -/
theorem Write.saved {c : Checkpoint} {expected : Option Nat} {s s' : Store}
    (h : Write s (.saveCheckpoint c expected) s') : s'.checkpoints = s.checkpoints.put c ∧
      (s.checkpoints.get c.runId = none ∧ expected = none ∧ c.version = 1 ∨
        ∃ current, s.checkpoints.get c.runId = some current ∧ expected = some current.version ∧
          c.version = current.version + 1) := by
  cases h with
  | saveCheckpoint h => exact ⟨rfl, h⟩
  | unchanged h => cases h

/-- A run found after a write was there in the same state, is new, or was moved by a legal
    transition. -/
theorem Write.run {op : Op} {s s' : Store} (h : Write s op s') {r : UUID} {run : Run}
    (hr : s'.runs.get r = some run) :
    (∃ old, s.runs.get r = some old ∧ run.state = old.state) ∨ run.state = .received ∨
      ∃ old expected version t a v, s.runs.get r = some old ∧ old.state = expected ∧
        op = .transitionRun r run.state expected version t a v ∧
        run.state ∈ ALLOWED_WORKFLOW_TRANSITIONS old.state := by
  cases h with
  | createRun hn hs =>
    obtain ⟨-, rfl⟩ | ⟨-, hr⟩ := Table.get_put_cases hr
    · exact .inr (.inl hs)
    · exact .inl ⟨run, hr, rfl⟩
  | transitionRun hc hd hv ht =>
    obtain ⟨hid, rfl⟩ | ⟨-, hr⟩ := Table.get_put_cases hr
    · obtain ⟨hn, -, hs, -, -, hk, -⟩ := transitionRun_ok ht
      rw [hk] at hid
      subst hid hs
      exact .inr (.inr ⟨_, _, _, _, _, _, hc, rfl, rfl, hn⟩)
    · exact .inl ⟨run, hr, rfl⟩
  | updateRunBudget hc hid hev hs =>
    obtain ⟨hk, rfl⟩ | ⟨-, hr⟩ := Table.get_put_cases hr
    · rw [hid] at hk
      subst hk
      exact .inl ⟨_, hc, hs⟩
    · exact .inl ⟨run, hr, rfl⟩
  | _ => exact .inl ⟨run, hr, rfl⟩

/-- **Every successful operation moves the store along its order.** -/
theorem Op.evolves {op : Op} {s s' : Store} {x : op.Result} (h : op.run s = .ok (x, s')) :
    s.Evolves s' := (Op.write h).evolves

/-! ## What evolution gives a reader -/

/-- The run was read from an earlier store. -/
abbrev Store.KnowsRun (s : Store) (run : Run) : Prop := s.runs.Known RunEvolves run

/-- The proposal was read from an earlier store. -/
abbrev Store.KnowsProposal (s : Store) (p : ActionProposal) : Prop :=
  s.proposals.Known ActionProposal.SameContent p

namespace Store.Evolves

variable {s s' : Store} (h : s.Evolves s')
include h

theorem knowsRun {run : Run} (hr : s.KnowsRun run) : s'.KnowsRun run :=
  hr.evolves (fun _ _ _ h1 h2 => h1.trans h2) h.runs

theorem knowsProposal {p : ActionProposal} (hp : s.KnowsProposal p) : s'.KnowsProposal p :=
  hp.evolves (fun _ _ _ h1 h2 => h1.trans h2) h.proposals

theorem evidence {k : UUID × UUID} {e : VerificationEvidence}
    (he : s.verificationEvidence.get k = some e) : s'.verificationEvidence.get k = some e :=
  h.verificationEvidence.get_eq he

theorem approval {k : UUID} {a : Approval} (ha : s.approvals.get k = some a) :
    s'.approvals.get k = some a := h.approvals.get_eq ha

end Store.Evolves

theorem Store.knowsRun_of_get {s : Store} {k : UUID} {run : Run} (h : s.runs.get k = some run) :
    s.KnowsRun run := .of_get RunEvolves.refl h

theorem Store.knowsProposal_of_get {s : Store} {k : UUID} {p : ActionProposal}
    (h : s.proposals.get k = some p) : s.KnowsProposal p := .of_get ActionProposal.SameContent.refl h

/-- A terminal state that was read is still the run's state. -/
theorem Store.KnowsRun.terminal {s : Store} {run : Run} (h : s.KnowsRun run)
    (ht : run.state ∈ TERMINAL_WORKFLOW_STATES) :
    ∃ run', s.runs.get run.runId = some run' ∧ run'.state = run.state := by
  obtain ⟨run', hr, hev⟩ := h
  exact ⟨run', hr, hev.terminal ht⟩

/-- The run a successful transition returns is stored, in the state asked for. -/
theorem Store.transitionRun_stored {s s' : Store} {runId : UUID} {next expected : WorkflowState}
    {version : Nat} {t : Time} {approvalId verificationId : Option UUID} {x : Run}
    (h : s.transitionRun runId next expected version t approvalId verificationId = .ok (x, s')) :
    x.state = next ∧ x.runId = runId ∧ s'.runs.get runId = some x := by
  obtain ⟨current, hc, -, -, -, -, ht, rfl⟩ := Store.transitionRun_ok h
  obtain ⟨-, -, hs, -, -, hid, -⟩ := CloudOpsAgent.transitionRun_ok ht
  obtain rfl := Table.key_of_get hc
  refine ⟨hs, hid, ?_⟩
  rw [← hid]
  exact Table.get_put_self _ _

end CloudOpsAgent
