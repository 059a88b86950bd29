/-
  The durable contracts of the EC2 stop workflow, with their validators.

  A pydantic model is a structure; what its `model_validator` demands is a field of the structure
  that carries the proof, so a value that the source would reject cannot be built here.  Three
  kinds of field are not stored:

  * a field its `Literal` type fixes (`ActionTarget.region`, `ExecutionAcknowledgement.action`);
  * a field the validators force to be a function of the others — `evidence_hash` of
    `VerificationEvidence` must equal the digest of its payload, so it IS that digest;
  * the three linked fields `proof_origin`, `execution_acknowledgement_hash` and
    `recovery_observation_hash`, of which the validator admits exactly two shapes: they are one
    inductive type, `VerificationProof`.

  `PyExc` lists the exception classes the modelled code raises or tells apart in an `except`.
-/
import CloudOpsAgent.Nz.Canonical
import CloudOpsAgent.Nz.Enums

namespace CloudOpsAgent

/-! ## Exceptions and control results -/

inductive PyExc where
  | storageConflict (message : String)
  | storageDependency (message : String)
  | durablePrerequisite (message : String)
  | workflowTransition (message : String)
  /-- `ValueError`, and the `ValidationError` pydantic derives from it. -/
  | valueError (message : String)
  | typeError (message : String)
  | remediationDisabled
  | remediationEmergencyDisabled
  | remediationScope
  | remediationDependency
  | remediationExecution
  | remediationAmbiguous
  | localMockMutation
  | localMockPolicy
  | localMockConflict
  | cloudAdapterUnavailable
  /-- Any other `Exception`. -/
  | other (name : String)
  deriving DecidableEq

namespace PyExc

/-- Caught by `except (StorageConflictError, StorageDependencyError)`. -/
def isStorage : PyExc → Bool
  | storageConflict _ | storageDependency _ => true
  | _ => false

def isDependency : PyExc → Bool
  | storageDependency _ => true
  | _ => false

def isConflict : PyExc → Bool
  | storageConflict _ => true
  | _ => false

/-- Caught by `except ValueError`: the contract errors of the control plane derive from it. -/
def isValueError : PyExc → Bool
  | storageConflict _ | storageDependency _ | durablePrerequisite _ | workflowTransition _
  | valueError _ => true
  | _ => false

end PyExc

structure FailureDetail where
  kind : FailureKind
  code : String
  message : String
  retryable : Bool
  deriving DecidableEq

/-- `ControlResult`: a value or a failure, never both. -/
inductive ControlResult (α : Type) where
  | succeeded (value : α)
  | failed (failure : FailureDetail)

/-! ## Texts -/

/-- `str.isspace` of one character. -/
def isSpace (c : Char) : Bool :=
  let n := c.toNat
  (9 ≤ n && n ≤ 13) || (28 ≤ n && n ≤ 32) || n == 133 || n == 160 || n == 5760 ||
    (8192 ≤ n && n ≤ 8202) || n == 8232 || n == 8233 || n == 8239 || n == 8287 || n == 12288

/-- `value == value.strip()`. -/
def isStripped (s : String) : Bool :=
  !s.toList.head?.any isSpace && !s.toList.getLast?.any isSpace

/-- `NonEmptyText`. -/
def NonEmptyText (s : String) : Bool := 1 ≤ s.length && s.length ≤ 512 && isStripped s

/-! ## Runs -/

structure BudgetCounters where
  maxTurns : Nat
  maxTokens : Nat
  maxElapsedSeconds : Nat := 60
  turnsUsed : Nat := 0
  tokensUsed : Nat := 0
  elapsedMillisecondsUsed : Nat := 0
  bounded : 0 < maxTurns ∧ maxTurns ≤ 1000 ∧ 0 < maxTokens ∧ maxTokens ≤ 10000000 ∧
    0 < maxElapsedSeconds ∧ maxElapsedSeconds ≤ 3600 ∧ elapsedMillisecondsUsed ≤ 3600000
  consumption : turnsUsed ≤ maxTurns ∧ tokensUsed ≤ maxTokens ∧
    elapsedMillisecondsUsed ≤ maxElapsedSeconds * 1000
  deriving DecidableEq

structure Run where
  runId : UUID
  traceId : UUID
  correlationId : UUID
  idempotencyKey : String
  state : WorkflowState
  createdAt : Time
  updatedAt : Time
  budget : BudgetCounters
  version : Nat := 1
  version_pos : 0 < version
  time_order : createdAt ≤ updatedAt
  deriving DecidableEq

/-- The ids a read-back is made under. -/
structure InvestigationIdentity where
  runId : UUID
  traceId : UUID
  correlationId : UUID
  deriving DecidableEq

theorem Run.next_version_pos (run : Run) : 0 < run.version + 1 := Nat.succ_pos _

def InvestigationIdentity.fromRun (run : Run) : InvestigationIdentity :=
  ⟨run.runId, run.traceId, run.correlationId⟩

/-- `validate_workflow_transition`. -/
def validateWorkflowTransition (current next : WorkflowState) : Except PyExc WorkflowState :=
  if next ∈ ALLOWED_WORKFLOW_TRANSITIONS current then .ok next
  else .error <| .workflowTransition
    ("illegal workflow transition: " ++ current.value ++ " -> " ++ next.value)

/-- `transition_run`: the validated next version of a run. -/
def transitionRun (run : Run) (next : WorkflowState) (updatedAt : Time) : Except PyExc Run :=
  match validateWorkflowTransition run.state next with
  | .error e => .error e
  | .ok state =>
    if h : run.updatedAt ≤ updatedAt then
      .ok { run with
        state := state
        updatedAt := updatedAt
        version := run.version + 1
        version_pos := run.next_version_pos
        time_order := run.time_order.trans h }
    else .error (.valueError "updated_at must not precede the current run timestamp")

/-- What a successful transition has checked and done. -/
theorem transitionRun_ok {run run' : Run} {next : WorkflowState} {t : Time}
    (h : transitionRun run next t = .ok run') :
    next ∈ ALLOWED_WORKFLOW_TRANSITIONS run.state ∧ run.updatedAt ≤ t ∧ run'.state = next ∧
      run'.version = run.version + 1 ∧ run'.updatedAt = t ∧ run'.runId = run.runId ∧
      run'.traceId = run.traceId ∧ run'.correlationId = run.correlationId ∧
      run'.budget = run.budget := by
  unfold transitionRun validateWorkflowTransition at h
  by_cases hn : next ∈ ALLOWED_WORKFLOW_TRANSITIONS run.state
  · by_cases ht : run.updatedAt ≤ t
    · simp only [hn, ht, if_true, dif_pos] at h
      cases h
      exact ⟨hn, ht, rfl, rfl, rfl, rfl, rfl, rfl, rfl⟩
    · simp [hn, ht] at h
  · simp [hn] at h

/-! ## Proposals and approvals -/

structure ActionTarget where
  resourceId : String
  sandboxScope : String
  requiredTagKey : String := "AIOACloudOpsSandbox"
  requiredTagValue : String := "true"
  deriving DecidableEq

namespace ActionTarget

def resourceType (_ : ActionTarget) : String := "AWS::EC2::Instance"
def region (_ : ActionTarget) : String := "eu-central-1"

def toJson (t : ActionTarget) : Json :=
  .obj [("resource_type", .str t.resourceType), ("resource_id", .str t.resourceId),
    ("region", .str t.region), ("sandbox_scope", .str t.sandboxScope),
    ("required_tag_key", .str t.requiredTagKey), ("required_tag_value", .str t.requiredTagValue)]

end ActionTarget

structure ExpectedPrecondition where
  instanceState : ObservedInstanceState
  observedAt : Time
  evidenceHash : Sha256Digest
  deriving DecidableEq

def ExpectedPrecondition.toJson (p : ExpectedPrecondition) : Json :=
  .obj [("instance_state", .str p.instanceState.value), ("observed_at", .str p.observedAt.dumpJson),
    ("evidence_hash", .str p.evidenceHash.hex)]

/-- A durable write-before-execute proposal; it is never an approval. -/
structure ActionProposal where
  proposalId : UUID
  runId : UUID
  action : Capability
  target : ActionTarget
  expectedPrecondition : ExpectedPrecondition
  authority : AuthorityGate
  state : ProposalState := .proposed
  evidenceHash : Sha256Digest
  createdAt : Time
  action_eq : action = .stopSandboxInstance
  authority_eq : authority = action.authority
  precondition_running : expectedPrecondition.instanceState = .running
  evidence_eq : evidenceHash = expectedPrecondition.evidenceHash
  deriving DecidableEq

/-- Everything of a proposal but its persistence state is fixed at creation. -/
def ActionProposal.SameContent (p q : ActionProposal) : Prop := { q with state := p.state } = p

theorem ActionProposal.SameContent.refl (p : ActionProposal) : p.SameContent p := rfl

theorem ActionProposal.SameContent.trans {p q r : ActionProposal} (hpq : p.SameContent q)
    (hqr : q.SameContent r) : p.SameContent r := by
  cases p; cases q; cases r
  simp only [SameContent, ActionProposal.mk.injEq] at *
  simp_all

theorem ActionProposal.SameContent.fields {p q : ActionProposal} (h : p.SameContent q) :
    q.proposalId = p.proposalId ∧ q.runId = p.runId ∧ q.action = p.action ∧ q.target = p.target ∧
      q.expectedPrecondition = p.expectedPrecondition ∧ q.authority = p.authority ∧
      q.evidenceHash = p.evidenceHash ∧ q.createdAt = p.createdAt := by
  cases p; cases q
  simp only [SameContent, ActionProposal.mk.injEq] at h
  simp_all

structure Approval where
  proposalId : UUID
  runId : UUID
  action : Capability
  target : ActionTarget
  evidenceHash : Sha256Digest
  interruptId : String
  requestHash : Sha256Digest
  decision : ApprovalDecision
  decidedAt : Time
  actorSessionId : String
  decisionNonce : String
  action_eq : action = .stopSandboxInstance
  deriving DecidableEq

/-- The decision binds the exact contents of the proposal. -/
def Approval.Binds (a : Approval) (p : ActionProposal) : Prop :=
  a.proposalId = p.proposalId ∧ a.runId = p.runId ∧ a.action = p.action ∧ a.target = p.target ∧
    a.evidenceHash = p.evidenceHash

instance (a : Approval) (p : ActionProposal) : Decidable (a.Binds p) :=
  inferInstanceAs (Decidable (_ ∧ _))

/-! ## Outcomes, acknowledgements, evidence -/

structure ActionResult where
  outcome : ActionOutcome
  observedState : Option ObservedInstanceState := none
  evidenceHash : Option Sha256Digest := none
  failure : Option FailureDetail := none
  outcome_ok :
    if outcome = .succeeded then
      observedState.isSome ∧ evidenceHash.isSome ∧ failure = none
    else failure.isSome
  deriving DecidableEq

/-- `ActionResult(outcome=SUCCEEDED, observed_state=STOPPED, evidence_hash=…)`. -/
def ActionResult.stopped (evidenceHash : Sha256Digest) : ActionResult where
  outcome := .succeeded
  observedState := some .stopped
  evidenceHash := some evidenceHash
  outcome_ok := by simp

/-- The safe provider receipt; it cannot represent verification. -/
structure ExecutionAcknowledgement where
  proposalId : UUID
  runId : UUID
  target : ActionTarget
  currentState : ObservedInstanceState
  requestReference : Option String := none
  acknowledgedAt : Time
  acknowledgementHash : Sha256Digest
  current_ok : currentState = .stopping ∨ currentState = .stopped
  deriving DecidableEq

/-- How stopped-state proof is bound to execution: the origin with the one hash it requires. -/
inductive VerificationProof where
  | executionAcknowledgement (executionAcknowledgementHash : Sha256Digest)
  | recoveryReadBack (recoveryObservationHash : Sha256Digest)
  deriving DecidableEq

namespace VerificationProof

def origin : VerificationProof → VerificationProofOrigin
  | executionAcknowledgement _ => .executionAcknowledgement
  | recoveryReadBack _ => .recoveryReadBack

def executionAcknowledgementHash : VerificationProof → Option Sha256Digest
  | executionAcknowledgement h => some h
  | recoveryReadBack _ => none

/-- The payload entries that depend on the origin. -/
def payload : VerificationProof → List (String × Json)
  | executionAcknowledgement h => [("execution_acknowledgement_hash", .str h.hex)]
  | recoveryReadBack h =>
    [("proof_origin", .str VerificationProofOrigin.recoveryReadBack.value),
      ("recovery_observation_hash", .str h.hex)]

end VerificationProof

/-- Immutable proof that an independent EC2 read-back observed the stopped target. -/
structure VerificationEvidence where
  evidenceId : UUID
  proposalId : UUID
  runId : UUID
  traceId : UUID
  correlationId : UUID
  target : ActionTarget
  verifiedAt : Time
  proof : VerificationProof
  observationHash : Sha256Digest
  requestReference : Option String := none
  deriving DecidableEq

namespace VerificationEvidence

def evidencePayload (e : VerificationEvidence) : Json :=
  .obj ([("action", .str Capability.stopSandboxInstance.value),
    ("correlation_id", .str e.correlationId.str),
    ("disposition", .str VerificationDisposition.verified.value),
    ("observation_hash", .str e.observationHash.hex),
    ("observed_state", .str ObservedInstanceState.stopped.value),
    ("proposal_id", .str e.proposalId.str),
    ("request_reference", .ofOption .str e.requestReference),
    ("run_id", .str e.runId.str),
    ("target", e.target.toJson),
    ("trace_id", .str e.traceId.str),
    ("verified_at", .str (Time.isoformat e.verifiedAt))] ++ e.proof.payload)

def evidenceHash [Sha256] (e : VerificationEvidence) : Sha256Digest :=
  canonicalDigest e.evidencePayload

/-- `VerificationEvidence.create`: proof linked to a durable acknowledgement. -/
def create (evidenceId : UUID) (proposal : ActionProposal) (run : Run) (verifiedAt : Time)
    (acknowledgement : ExecutionAcknowledgement) (observationHash : Sha256Digest) :
    Except PyExc VerificationEvidence :=
  if proposal.runId ≠ run.runId ∨ acknowledgement.proposalId ≠ proposal.proposalId ∨
      acknowledgement.runId ≠ run.runId ∨ acknowledgement.target ≠ proposal.target then
    .error (.valueError "verification evidence prerequisites do not share one identity")
  else
    .ok {
      evidenceId := evidenceId
      proposalId := proposal.proposalId
      runId := run.runId
      traceId := run.traceId
      correlationId := run.correlationId
      target := proposal.target
      verifiedAt := verifiedAt
      proof := .executionAcknowledgement acknowledgement.acknowledgementHash
      observationHash := observationHash
      requestReference := acknowledgement.requestReference }

/-- `VerificationEvidence.create_from_recovery`: proof of lost-ACK work from a read-back. -/
def createFromRecovery (evidenceId : UUID) (proposal : ActionProposal) (run : Run)
    (verifiedAt : Time) (observationHash : Sha256Digest) : Except PyExc VerificationEvidence :=
  if proposal.runId ≠ run.runId then
    .error (.valueError "recovery evidence prerequisites do not share one run")
  else
    .ok {
      evidenceId := evidenceId
      proposalId := proposal.proposalId
      runId := run.runId
      traceId := run.traceId
      correlationId := run.correlationId
      target := proposal.target
      verifiedAt := verifiedAt
      proof := .recoveryReadBack observationHash
      observationHash := observationHash }

end VerificationEvidence

/-! ## Idempotency records -/

/-- `validate_status_payload`. -/
def StatusPayload (status : IdempotencyStatus) (result : Option ActionResult)
    (registeredAt : Time) (completedAt : Option Time) : Prop :=
  if status = .registered then result = none ∧ completedAt = none
  else result.isSome ∧ ∃ t, completedAt = some t ∧ registeredAt ≤ t

/-- Semantic duplicate ownership, and the durable outcome once there is one. -/
structure IdempotencyRecord where
  idempotencyKey : String
  proposalId : UUID
  actionFingerprint : Sha256Digest
  status : IdempotencyStatus := .registered
  executionAcknowledgement : Option ExecutionAcknowledgement := none
  actionResult : Option ActionResult := none
  registeredAt : Time
  completedAt : Option Time := none
  status_payload : StatusPayload status actionResult registeredAt completedAt
  deriving DecidableEq

/-- `completed_idempotency_status`. -/
def completedIdempotencyStatus (result : ActionResult) : IdempotencyStatus :=
  match result.outcome with
  | .succeeded => .completed
  | .failed => .failed
  | _ => .reconciliationRequired

theorem completedIdempotencyStatus_ne_registered (result : ActionResult) :
    completedIdempotencyStatus result ≠ .registered := by
  unfold completedIdempotencyStatus
  split <;> simp

/-- `IdempotencyRecord.model_validate` of a record with its result filled in. -/
def IdempotencyRecord.complete (r : IdempotencyRecord) (result : ActionResult)
    (completedAt : Time) : Except PyExc IdempotencyRecord :=
  if h : r.registeredAt ≤ completedAt then
    .ok { r with
      status := completedIdempotencyStatus result
      actionResult := some result
      completedAt := some completedAt
      status_payload := by
        simp only [StatusPayload, completedIdempotencyStatus_ne_registered, if_false]
        exact ⟨rfl, completedAt, rfl, h⟩ }
  else .error (.valueError "completed_at must not precede registered_at")

/-! ## Audit events -/

/-- Append-oriented provenance event. -/
structure AuditEvent where
  eventId : UUID
  runId : UUID
  type : AuditEventType
  timestamp : Time
  source : String
  toolName : Option String := none
  modelId : Option String := none
  redactedPayloadHash : Sha256Digest
  metadata : Dict String String := ∅
  deriving DecidableEq

end CloudOpsAgent
