/-
  The durable truth repository, as `InMemoryTestDurableTruthRepository` computes it.

  `Store` holds the seven tables.  Every repository method is a function of the store under the
  source's name: a read returns what it finds, a write returns `.ok (result, store')` or the error
  it raises, and a write that raises leaves no store.

  `Op` is the same interface as data — one constructor per method of `DurableTruthRepository`, with
  `Op.Result` its return type and `Op.run` its meaning — so that clients can be programs over
  repository operations and an operation can be interleaved, refused or repeated.

  The semantic idempotency derivations and the durable prerequisites of an execution, which are
  functions of one store or of the records read from it, are here as well.
-/
import CloudOpsAgent.Lib.Table
import CloudOpsAgent.Nz.LocalContracts

namespace CloudOpsAgent

def MAX_DURABLE_RUNS : Nat := 2048
def MAX_AUDIT_EVENTS_PER_RUN : Nat := 1024

/-! ## Semantic idempotency -/

/-- `derive_action_fingerprint`: the logical action, without its random identifier. -/
def deriveActionFingerprint [Sha256] (p : ActionProposal) : Sha256Digest :=
  canonicalDigest <| .obj [("run_id", .str p.runId.str), ("action", .str p.action.value),
    ("target", p.target.toJson), ("expected_precondition", p.expectedPrecondition.toJson),
    ("authority", .str p.authority.value), ("evidence_hash", .str p.evidenceHash.hex)]

/-- `derive_idempotency_key`. -/
def deriveIdempotencyKey [Sha256] (p : ActionProposal) : String :=
  "action/" ++ (deriveActionFingerprint p).hex

theorem deriveActionFingerprint_congr [Sha256] {p q : ActionProposal} (h : p.SameContent q) :
    deriveActionFingerprint q = deriveActionFingerprint p := by
  obtain ⟨-, h2, h3, h4, h5, h6, h7, -⟩ := h.fields
  rw [deriveActionFingerprint, h2, h3, h4, h5, h6, h7, deriveActionFingerprint]

theorem deriveIdempotencyKey_congr [Sha256] {p q : ActionProposal} (h : p.SameContent q) :
    deriveIdempotencyKey q = deriveIdempotencyKey p := by
  rw [deriveIdempotencyKey, deriveActionFingerprint_congr h, deriveIdempotencyKey]

/-- `build_idempotency_record`. -/
def buildIdempotencyRecord [Sha256] (p : ActionProposal) (registeredAt : Time) :
    Except PyExc IdempotencyRecord :=
  if p.state ≠ .awaitingApproval then
    .error (.durablePrerequisite "proposal must be durably awaiting approval")
  else
    .ok {
      idempotencyKey := deriveIdempotencyKey p
      proposalId := p.proposalId
      actionFingerprint := deriveActionFingerprint p
      registeredAt := registeredAt
      status_payload := by simp [StatusPayload] }

/-! ## Provider-neutral record updates -/

/-- `validate_approval_binding`. -/
def validateApprovalBinding (p : ActionProposal) (a : Approval) : Except PyExc Unit :=
  if a.Binds p then .ok ()
  else .error (.storageConflict "human decision does not match the durable proposal")

/-- The small application-owned proposal-state policy. -/
def ProposalState.allowed : ProposalState → List ProposalState
  | proposed => [awaitingApproval, superseded]
  | awaitingApproval => [superseded]
  | superseded => []

/-- `transitioned_proposal`. -/
def transitionedProposal (p : ActionProposal) (next : ProposalState) :
    Except PyExc ActionProposal :=
  if next ∈ p.state.allowed then .ok { p with state := next }
  else .error <| .storageConflict
    ("illegal proposal transition: " ++ p.state.value ++ " -> " ++ next.value)

/-! ## The store -/

/-- The tables of the repository, each record filed under its own key. -/
structure Store [Sha256] where
  runs : Table Run.runId := ∅
  proposals : Table ActionProposal.proposalId := ∅
  approvals : Table Approval.proposalId := ∅
  idempotency : Table IdempotencyRecord.idempotencyKey := ∅
  checkpoints : Table (fun c : Checkpoint => c.runId) := ∅
  auditEvents : Table (fun e : AuditEvent => (e.runId, e.eventId)) := ∅
  verificationEvidence : Table (fun e : VerificationEvidence => (e.runId, e.proposalId)) := ∅

namespace Store

variable [Sha256] (s : Store)

def createRun (run : Run) : Except PyExc (Run × Store) :=
  if run.version ≠ 1 ∨ run.state ≠ .received then
    .error (.storageConflict "new durable run must start at RECEIVED version 1")
  else if (s.runs.get run.runId).isSome then
    .error (.storageConflict "durable run already exists")
  else if MAX_DURABLE_RUNS ≤ s.runs.size then
    .error (.storageConflict "durable run capacity is exhausted")
  else .ok (run, { s with runs := s.runs.put run })

/-- A decision recorded in the approvals table supports the transition. -/
def legacyDecisionValid (runId proposalId : UUID) (decision : ApprovalDecision) : Bool :=
  match s.proposals.get proposalId, s.approvals.get proposalId with
  | some p, some a => p.runId == runId && p.state == .awaitingApproval && a.decision == decision
  | _, _ => false

/-- A decision recorded in the run's checkpoint supports the transition. -/
def localDecisionValid (runId proposalId : UUID) (decision : ApprovalDecision) : Bool :=
  match s.checkpoints.get runId with
  | none => false
  | some c =>
    match c.remediationProposal, c.localApproval with
    | some p, some a => p.proposalId == proposalId && p.runId == runId &&
        p.status == .awaitingApproval && a.proposalId == proposalId && a.runId == runId &&
        a.decision == decision
    | _, _ => false

/-- Stored evidence together with the completed idempotency record that carries its hash. -/
def legacyProofValid (runId proposalId : UUID) : Bool :=
  match s.proposals.get proposalId, s.verificationEvidence.get (runId, proposalId) with
  | some p, some e =>
    match s.idempotency.get (deriveIdempotencyKey p) with
    | none => false
    | some r => e.runId == runId && r.status == .completed &&
        r.actionResult.any fun result => result.evidenceHash == some e.evidenceHash
  | _, _ => false

/-- Receipt and verification recorded in the run's checkpoint. -/
def localProofValid (runId proposalId : UUID) : Bool :=
  match s.checkpoints.get runId with
  | none => false
  | some c =>
    match c.remediationProposal, c.localExecutionReceipt, c.localVerification with
    | some p, some r, some v => p.proposalId == proposalId && p.runId == runId &&
        r.proposalId == proposalId && r.runId == runId && v.proposalId == proposalId &&
        v.runId == runId && v.receiptHash == r.receiptHash
    | _, _, _ => false

/-- The checks `transition_run` makes before a decision state. -/
def decisionCheck (runId : UUID) (next : WorkflowState) (approvalProposalId : Option UUID) :
    Except PyExc Unit :=
  if next = .approved ∨ next = .deniedByHuman then
    match approvalProposalId with
    | none => .error (.storageConflict "decision transition requires a durable proposal decision")
    | some pid =>
      let decision : ApprovalDecision := if next = .approved then .approved else .denied
      if s.legacyDecisionValid runId pid decision || s.localDecisionValid runId pid decision then
        .ok ()
      else .error (.storageConflict "decision transition requires matching durable human decision")
  else .ok ()

/-- The checks `transition_run` makes before `SUCCESS_WITH_EVIDENCE`. -/
def successCheck (runId : UUID) (next : WorkflowState) (verificationProposalId : Option UUID) :
    Except PyExc Unit :=
  if next = .successWithEvidence then
    match verificationProposalId with
    | none => .error (.storageConflict "SUCCESS_WITH_EVIDENCE requires durable verification")
    | some pid =>
      if s.legacyProofValid runId pid || s.localProofValid runId pid then .ok ()
      else .error (.storageConflict "SUCCESS_WITH_EVIDENCE proof is incomplete")
  else .ok ()

def transitionRun (runId : UUID) (next expectedState : WorkflowState) (expectedVersion : Nat)
    (updatedAt : Time) (approvalProposalId verificationProposalId : Option UUID) :
    Except PyExc (Run × Store) := do
  let current ← (s.runs.get runId).elim (.error (.storageConflict "durable run does not exist")) .ok
  if current.state ≠ expectedState ∨ current.version ≠ expectedVersion then
    .error (.storageConflict "durable run state or version no longer matches")
  else
    s.decisionCheck runId next approvalProposalId
    s.successCheck runId next verificationProposalId
    let updated ← CloudOpsAgent.transitionRun current next updatedAt
    .ok (updated, { s with runs := s.runs.put updated })

def createProposal (p : ActionProposal) : Except PyExc (ActionProposal × Store) :=
  if p.state ≠ .proposed then
    .error (.storageConflict "new durable proposal must start at PROPOSED")
  else if (s.proposals.get p.proposalId).isSome then
    .error (.storageConflict "durable proposal already exists")
  else .ok (p, { s with proposals := s.proposals.put p })

/-- The new counters keep the limits and lower nothing. -/
def budgetMonotonic (current : Run) (budget : BudgetCounters) : Bool :=
  budget.maxTurns == current.budget.maxTurns && budget.maxTokens == current.budget.maxTokens &&
    budget.maxElapsedSeconds == current.budget.maxElapsedSeconds &&
    decide (current.budget.turnsUsed ≤ budget.turnsUsed) &&
    decide (current.budget.tokensUsed ≤ budget.tokensUsed) &&
    decide (current.budget.elapsedMillisecondsUsed ≤ budget.elapsedMillisecondsUsed)

def updateRunBudget (runId : UUID) (budget : BudgetCounters) (expectedVersion : Nat)
    (updatedAt : Time) : Except PyExc (Run × Store) :=
  if expectedVersion = 0 then .error (.typeError "expected_version must be a positive integer")
  else
    match s.runs.get runId with
    | none => .error (.storageConflict "durable run budget version no longer matches")
    | some current =>
      if current.version ≠ expectedVersion then
        .error (.storageConflict "durable run budget version no longer matches")
      else if h : budgetMonotonic current budget ∧ current.updatedAt ≤ updatedAt then
        let updated : Run := { current with
          budget := budget
          updatedAt := updatedAt
          version := current.version + 1
          version_pos := current.next_version_pos
          time_order := current.time_order.trans h.2 }
        .ok (updated, { s with runs := s.runs.put updated })
      else .error (.storageConflict "durable run budget update is not monotonic")

def transitionProposal (proposalId : UUID) (next expectedState : ProposalState) :
    Except PyExc (ActionProposal × Store) :=
  match s.proposals.get proposalId with
  | none => .error (.storageConflict "durable proposal state no longer matches")
  | some current =>
    if current.state ≠ expectedState then
      .error (.storageConflict "durable proposal state no longer matches")
    else do
      let updated ← transitionedProposal current next
      .ok (updated, { s with proposals := s.proposals.put updated })

def createApproval (a : Approval) : Except PyExc (Approval × Store) :=
  match s.proposals.get a.proposalId with
  | none => .error (.storageConflict "human decision requires an awaiting durable proposal")
  | some p =>
    if p.state ≠ .awaitingApproval then
      .error (.storageConflict "human decision requires an awaiting durable proposal")
    else do
      validateApprovalBinding p a
      match s.approvals.get a.proposalId with
      | some existing =>
        if existing = a then .ok (existing, s)
        else .error (.storageConflict "conflicting human decision already exists")
      | none => .ok (a, { s with approvals := s.approvals.put a })

/-- The proposal a new registration must match, if the store holds it. -/
def registrationProposal (record : IdempotencyRecord) : Option ActionProposal :=
  (s.proposals.get record.proposalId).filter fun p =>
    p.state == .awaitingApproval && record.actionFingerprint == deriveActionFingerprint p &&
      record.idempotencyKey == deriveIdempotencyKey p

def registerIdempotency (record : IdempotencyRecord) : Except PyExc (IdempotencyRecord × Store) :=
  match s.idempotency.get record.idempotencyKey with
  | some existing =>
    if existing.proposalId ≠ record.proposalId ∨
        existing.actionFingerprint ≠ record.actionFingerprint then
      .error (.storageConflict "idempotency key has incompatible ownership")
    else .ok (existing, s)
  | none =>
    match s.registrationProposal record with
    | none => .error (.storageConflict "idempotency registration lacks a matching proposal")
    | some p =>
      if !(s.approvals.get record.proposalId).any (·.decision == .approved) then
        .error (.storageConflict "idempotency registration requires human approval")
      else if !(s.runs.get p.runId).any (·.state == .approved) then
        .error (.storageConflict "idempotency registration requires an approved run")
      else .ok (record, { s with idempotency := s.idempotency.put record })

def completeIdempotency (key : String) (result : ActionResult) (completedAt : Time)
    (expectedStatus : IdempotencyStatus) : Except PyExc (IdempotencyRecord × Store) :=
  match s.idempotency.get key with
  | none => .error (.storageConflict "idempotency status no longer matches")
  | some current =>
    if current.status ≠ expectedStatus then
      .error (.storageConflict "idempotency status no longer matches")
    else do
      let updated ← current.complete result completedAt
      .ok (updated, { s with idempotency := s.idempotency.put updated })

def recordExecutionAcknowledgement (key : String) (acknowledgement : ExecutionAcknowledgement)
    (expectedStatus : IdempotencyStatus) : Except PyExc (IdempotencyRecord × Store) :=
  match s.idempotency.get key with
  | none => .error (.storageConflict "idempotency status no longer matches")
  | some current =>
    if current.status ≠ expectedStatus then
      .error (.storageConflict "idempotency status no longer matches")
    else
      match current.executionAcknowledgement with
      | some recorded =>
        if recorded = acknowledgement then .ok (current, s)
        else .error (.storageConflict "conflicting execution acknowledgement exists")
      | none =>
        if acknowledgement.proposalId ≠ current.proposalId then
          .error (.storageConflict "execution acknowledgement ownership is invalid")
        else
          let updated := { current with executionAcknowledgement := some acknowledgement }
          .ok (updated, { s with idempotency := s.idempotency.put updated })

def saveCheckpoint (checkpoint : Checkpoint) (expectedVersion : Option Nat) :
    Except PyExc (Checkpoint × Store) :=
  match s.checkpoints.get checkpoint.runId with
  | none =>
    if expectedVersion ≠ none ∨ checkpoint.version ≠ 1 then
      .error (.storageConflict "new checkpoint must start at version 1")
    else .ok (checkpoint, { s with checkpoints := s.checkpoints.put checkpoint })
  | some current =>
    if expectedVersion ≠ some current.version ∨ checkpoint.version ≠ current.version + 1 then
      .error (.storageConflict "checkpoint version no longer matches")
    else .ok (checkpoint, { s with checkpoints := s.checkpoints.put checkpoint })

/-- `count_audit_events`. -/
def countAuditEvents (runId : UUID) : Nat := s.auditEvents.countKeys (·.1 = runId)

def appendAuditEvent (event : AuditEvent) : Except PyExc (AuditEvent × Store) :=
  if (s.auditEvents.get (event.runId, event.eventId)).isSome then
    .error (.storageConflict "audit event already exists")
  else if MAX_AUDIT_EVENTS_PER_RUN ≤ s.countAuditEvents event.runId then
    .error (.storageConflict "audit event capacity is exhausted for this run")
  else .ok (event, { s with auditEvents := s.auditEvents.put event })

/-- The idempotency record under the key of the evidence's proposal. -/
def evidenceRecord (e : VerificationEvidence) : Option IdempotencyRecord :=
  (s.proposals.get e.proposalId).bind fun p => s.idempotency.get (deriveIdempotencyKey p)

/-- Acknowledgement proof names the acknowledgement the record holds. -/
def acknowledgementMatches (e : VerificationEvidence) (r : IdempotencyRecord) : Bool :=
  e.proof.origin == .executionAcknowledgement &&
    r.executionAcknowledgement.any fun ack =>
      some ack.acknowledgementHash == e.proof.executionAcknowledgementHash

/-- Recovery proof needs an unresolved record without acknowledgement, and an approval. -/
def recoveryMatches (e : VerificationEvidence) (r : IdempotencyRecord) : Bool :=
  e.proof.origin == .recoveryReadBack && r.status == .registered &&
    r.executionAcknowledgement.isNone &&
    (s.approvals.get e.proposalId).any fun a =>
      a.decision == .approved && a.runId == e.runId && a.target == e.target

/-- The evidence matches its proposal, a verifying run and the idempotency record. -/
def evidenceMatches (e : VerificationEvidence) : Bool :=
  match s.proposals.get e.proposalId, s.runs.get e.runId, s.evidenceRecord e with
  | some p, some run, some r =>
    run.state == .verifying && p.runId == e.runId && p.target == e.target &&
      run.traceId == e.traceId && run.correlationId == e.correlationId &&
      (acknowledgementMatches e r || s.recoveryMatches e r)
  | _, _, _ => false

def createVerificationEvidence (e : VerificationEvidence) : Except PyExc (VerificationEvidence × Store) :=
  match s.verificationEvidence.get (e.runId, e.proposalId) with
  | some existing =>
    if existing = e then .ok (existing, s)
    else .error (.storageConflict "conflicting verification evidence already exists")
  | none =>
    if !s.evidenceMatches e then
      .error (.storageConflict "verification evidence does not match the proposal")
    else .ok (e, { s with verificationEvidence := s.verificationEvidence.put e })

end Store

/-! ## The repository interface as data -/

/-- One call of a method of `DurableTruthRepository`. -/
inductive Op [Sha256] where
  | createRun (run : Run)
  | getRun (runId : UUID)
  | transitionRun (runId : UUID) (next expectedState : WorkflowState) (expectedVersion : Nat)
      (updatedAt : Time) (approvalProposalId verificationProposalId : Option UUID)
  | updateRunBudget (runId : UUID) (budget : BudgetCounters) (expectedVersion : Nat)
      (updatedAt : Time)
  | createProposal (proposal : ActionProposal)
  | getProposal (proposalId : UUID)
  | transitionProposal (proposalId : UUID) (next expectedState : ProposalState)
  | createApproval (approval : Approval)
  | getApproval (proposalId : UUID)
  | registerIdempotency (record : IdempotencyRecord)
  | getIdempotency (key : String)
  | completeIdempotency (key : String) (result : ActionResult) (completedAt : Time)
      (expectedStatus : IdempotencyStatus)
  | recordExecutionAcknowledgement (key : String) (acknowledgement : ExecutionAcknowledgement)
      (expectedStatus : IdempotencyStatus)
  | saveCheckpoint (checkpoint : Checkpoint) (expectedVersion : Option Nat)
  | getCheckpoint (runId : UUID)
  | appendAuditEvent (event : AuditEvent)
  | getAuditEvent (runId eventId : UUID)
  | createVerificationEvidence (evidence : VerificationEvidence)
  | getVerificationEvidence (runId proposalId : UUID)

namespace Op

variable [Sha256]

/-- What the call returns. -/
def Result : Op → Type
  | createRun _ | transitionRun .. | updateRunBudget .. => Run
  | getRun _ => Option Run
  | createProposal _ | transitionProposal .. => ActionProposal
  | getProposal _ => Option ActionProposal
  | createApproval _ => Approval
  | getApproval _ => Option Approval
  | registerIdempotency _ | completeIdempotency .. | recordExecutionAcknowledgement .. =>
    IdempotencyRecord
  | getIdempotency _ => Option IdempotencyRecord
  | saveCheckpoint .. => Checkpoint
  | getCheckpoint _ => Option Checkpoint
  | appendAuditEvent _ => AuditEvent
  | getAuditEvent .. => Option AuditEvent
  | createVerificationEvidence _ => VerificationEvidence
  | getVerificationEvidence .. => Option VerificationEvidence

/-- What the call does to a store. -/
def run : (op : Op) → Store → Except PyExc (op.Result × Store)
  | createRun run, s => s.createRun run
  | getRun runId, s => .ok (s.runs.get runId, s)
  | transitionRun runId next expectedState expectedVersion updatedAt approvalId verificationId, s =>
    s.transitionRun runId next expectedState expectedVersion updatedAt approvalId verificationId
  | updateRunBudget runId budget expectedVersion updatedAt, s =>
    s.updateRunBudget runId budget expectedVersion updatedAt
  | createProposal proposal, s => s.createProposal proposal
  | getProposal proposalId, s => .ok (s.proposals.get proposalId, s)
  | transitionProposal proposalId next expectedState, s =>
    s.transitionProposal proposalId next expectedState
  | createApproval approval, s => s.createApproval approval
  | getApproval proposalId, s => .ok (s.approvals.get proposalId, s)
  | registerIdempotency record, s => s.registerIdempotency record
  | getIdempotency key, s => .ok (s.idempotency.get key, s)
  | completeIdempotency key result completedAt expectedStatus, s =>
    s.completeIdempotency key result completedAt expectedStatus
  | recordExecutionAcknowledgement key acknowledgement expectedStatus, s =>
    s.recordExecutionAcknowledgement key acknowledgement expectedStatus
  | saveCheckpoint checkpoint expectedVersion, s => s.saveCheckpoint checkpoint expectedVersion
  | getCheckpoint runId, s => .ok (s.checkpoints.get runId, s)
  | appendAuditEvent event, s => s.appendAuditEvent event
  | getAuditEvent runId eventId, s => .ok (s.auditEvents.get (runId, eventId), s)
  | createVerificationEvidence evidence, s => s.createVerificationEvidence evidence
  | getVerificationEvidence runId proposalId, s =>
    .ok (s.verificationEvidence.get (runId, proposalId), s)

end Op

end CloudOpsAgent
