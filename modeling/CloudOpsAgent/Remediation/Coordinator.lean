/-
  `StopSandboxInstanceCoordinator`: one approval-bound private sandbox stop.

  `execute` claims the action (`claim`: semantic registration, durable prerequisites, the transition
  to `EXECUTING`, the command), calls the private executor, and records the acknowledgement.  Each
  `try` block of the source is one definition here, so that its handlers can be read next to it:

      execute ─ existing record? ─→ reconcileExisting
              └─ claim ─→ callExecutor ─→ recordAcknowledgement
                              └─ raised ─→ persistExecutionFailure (executionFailure e)

  `executionFailure` is the `except` ladder around the executor call as a function of the exception.
-/
import CloudOpsAgent.Flow.World

namespace CloudOpsAgent

variable [Sha256]

/-- `StopSandboxInstanceCoordinator._failed` and its siblings: a failed control result. -/
def controlFailed {α : Type} (kind : FailureKind) (code message : String)
    (retryable : Bool := false) : ControlResult α := .failed ⟨kind, code, message, retryable⟩

/-! ## Durable prerequisites -/

structure ApprovedActionPrerequisites where
  run : Run
  proposal : ActionProposal
  approval : Approval
  idempotency : IdempotencyRecord
  checkpoint : Checkpoint

/-- `_require_approved_records`. -/
def requireApprovedRecords (proposalId : UUID) : Flow (Run × ActionProposal × Approval) := do
  let some proposal ← Flow.op (.getProposal proposalId)
    | .raise (.durablePrerequisite "durable proposal is required")
  if proposal.state ≠ .awaitingApproval then
    .raise (.durablePrerequisite "proposal is not durably awaiting approval")
  else
    let some approval ← Flow.op (.getApproval proposal.proposalId)
      | .raise (.durablePrerequisite "missing approval must not authorize execution")
    if approval.decision ≠ .approved then
      .raise (.durablePrerequisite "human decision does not approve execution")
    else
      let some run ← Flow.op (.getRun proposal.runId)
        | .raise (.durablePrerequisite "durable run state must be APPROVED")
      if run.state ≠ .approved then
        .raise (.durablePrerequisite "durable run state must be APPROVED")
      else return (run, proposal, approval)

/-- `register_approved_action`. -/
def registerApprovedAction (proposalId : UUID) (registeredAt : Time) :
    Flow IdempotencyRecord := do
  let (_, proposal, _) ← requireApprovedRecords proposalId
  let record ← .ofExcept (buildIdempotencyRecord proposal registeredAt)
  Flow.op (.registerIdempotency record)

/-- `load_execution_prerequisites`. -/
def loadExecutionPrerequisites (proposalId : UUID) : Flow ApprovedActionPrerequisites := do
  let (run, proposal, approval) ← requireApprovedRecords proposalId
  let some idempotency ← Flow.op (.getIdempotency (deriveIdempotencyKey proposal))
    | .raise (.durablePrerequisite "durable idempotency registration is required")
  if idempotency.proposalId ≠ proposal.proposalId ∨ idempotency.status ≠ .registered then
    .raise (.durablePrerequisite "idempotency ownership is inconsistent")
  else
    let some checkpoint ← Flow.op (.getCheckpoint run.runId)
      | .raise (.durablePrerequisite "approved safe checkpoint is required")
    if checkpoint.lastSafeState ≠ .approved then
      .raise (.durablePrerequisite "approved safe checkpoint is required")
    else if checkpoint.toolResultHashes.lookup "build_remediation_evidence" ≠
        some proposal.evidenceHash then
      .raise (.durablePrerequisite
        "approved safe checkpoint must retain the proposal evidence hash")
    else return ⟨run, proposal, approval, idempotency, checkpoint⟩

/-- `build_stop_execution_command`. -/
def buildStopExecutionCommand (p : ApprovedActionPrerequisites) (issuedAt : Time) :
    StopExecutionCommand where
  proposalId := p.proposal.proposalId
  runId := p.run.runId
  traceId := p.run.traceId
  correlationId := p.run.correlationId
  action := p.proposal.action
  target := p.proposal.target
  expectedPrecondition := p.proposal.expectedPrecondition
  evidenceHash := p.proposal.evidenceHash
  approvalRequestHash := p.approval.requestHash
  approvalActorSessionId := p.approval.actorSessionId
  approvalDecisionNonceHash := Sha256.hexdigest p.approval.decisionNonce
  idempotencyKey := p.idempotency.idempotencyKey
  issuedAt := issuedAt
  action_eq := p.proposal.action_eq
  evidence_eq := p.proposal.evidence_eq

namespace StopSandboxInstanceCoordinator

/-! ## Shared steps -/

/-- `_append_event`. -/
def appendEvent (run : Run) (type : AuditEventType) (payloadHash : Sha256Digest)
    (metadata : Dict String String) : Flow Unit := do
  let eventId ← Flow.freshId
  let timestamp ← Flow.clock
  let _ ← Flow.op <| .appendAuditEvent {
    eventId := eventId
    runId := run.runId
    type := type
    timestamp := timestamp
    source := "nz-remediation-orchestrator"
    toolName := some "stop_sandbox_instance"
    redactedPayloadHash := payloadHash
    metadata := (metadata.insert "trace_id" run.traceId.str).insert "correlation_id"
      run.correlationId.str }
  return

/-- `_mark_recovery_required`: best effort, from `APPROVED` or `EXECUTING` only. -/
def markRecoveryRequired (runId : UUID) (code message : String) :
    Flow (ControlResult ExecutionAcknowledgement) :=
  let failure : FailureDetail := ⟨.recoveryRequirement, code, message, false⟩
  let body : Flow Unit := do
    let run ← Flow.op (.getRun runId)
    match run with
    | none => return
    | some run =>
      if run.state = .approved ∨ run.state = .executing then
        let updatedAt ← Flow.clock
        let _ ← Flow.op (.transitionRun run.runId .recoveryRequired run.state run.version
          updatedAt none none)
        return
      else return
  Flow.tryExcept body (Flow.catching PyExc.isStorage (.ret (.failed failure)))
    fun _ => .ret (.failed failure)

/-- `_persist_execution_failure`. -/
def persistExecutionFailure (run : Run) (key : String) (failure : FailureDetail)
    (result : ActionResult) : Flow (ControlResult ExecutionAcknowledgement) :=
  let body : Flow Unit := do
    if failure.kind = .policyDenial then
      appendEvent run .policyDenied
        (canonicalDigest (.obj [("code", .str failure.code), ("kind", .str failure.kind.value)]))
        (Dict.ofPairs [("policy_code", failure.code)])
    let completedAt ← Flow.clock
    let _ ← Flow.op (.completeIdempotency key result completedAt .registered)
    let updatedAt ← Flow.clock
    let _ ← Flow.op (.transitionRun run.runId failure.kind.workflowState .executing run.version
      updatedAt none none)
    return
  Flow.tryExcept body
    (Flow.catching PyExc.isStorage <| .ret <| controlFailed .recoveryRequirement
      "EXECUTION_FAILURE_DURABILITY_FAILED" "Execution failure could not be durably reconciled")
    fun _ => .ret (.failed failure)

/-! ## The executor call -/

/-- What the exception of the executor call means, and the outcome recorded for it. -/
def executionFailure : PyExc → FailureDetail × ActionOutcome
  | .remediationEmergencyDisabled =>
    (⟨.policyDenial, "EXECUTOR_EMERGENCY_DISABLED",
      "Independent executor emergency control denied the mutation", false⟩, .failed)
  | .remediationDisabled | .remediationScope =>
    (⟨.policyDenial, "SANDBOX_EXECUTION_DENIED",
      "Private executor rejected configuration, scope, or precondition", false⟩, .failed)
  | .remediationDependency =>
    (⟨.dependencyUnavailable, "STOP_DEPENDENCY_UNAVAILABLE",
      "Private executor dependency is unavailable before safe acknowledgement", true⟩, .failed)
  | .remediationExecution =>
    (⟨.executionFailure, "STOP_EXECUTION_FAILED",
      "StopInstances returned an explicit unsuccessful outcome", false⟩, .failed)
  | .remediationAmbiguous =>
    (⟨.recoveryRequirement, "STOP_ACKNOWLEDGEMENT_AMBIGUOUS",
      "Mutation acknowledgement is unknown and requires reconciliation", false⟩, .ambiguous)
  | _ =>
    (⟨.recoveryRequirement, "STOP_EXECUTOR_UNEXPECTED_FAILURE",
      "Private executor failed without a safe acknowledgement", false⟩, .ambiguous)

omit [Sha256] in
theorem executionFailure_not_succeeded (e : PyExc) : (executionFailure e).2 ≠ .succeeded := by
  cases e <;> simp [executionFailure]

/-- `ActionResult(outcome=outcome, failure=failure)` of the ladder. -/
def executionFailureResult (e : PyExc) : ActionResult where
  outcome := (executionFailure e).2
  failure := some (executionFailure e).1
  outcome_ok := by simp [executionFailure_not_succeeded]

/-- Persist the acknowledgement and enter `VERIFYING`. -/
def recordAcknowledgement (run : Run) (proposalId : UUID) (key : String)
    (acknowledgement : ExecutionAcknowledgement) :
    Flow (ControlResult ExecutionAcknowledgement) :=
  let body : Flow Unit := do
    let _ ← Flow.op (.recordExecutionAcknowledgement key acknowledgement .registered)
    let updatedAt ← Flow.clock
    let run ← Flow.op (.transitionRun run.runId .verifying .executing run.version updatedAt none none)
    appendEvent run .executionAcknowledged acknowledgement.acknowledgementHash
      (Dict.ofPairs [("proposal_id", proposalId.str)])
  Flow.tryExcept body
    (Flow.catching PyExc.isStorage <| markRecoveryRequired run.runId
      "EXECUTION_ACK_DURABILITY_FAILED"
      "Executor acknowledgement could not be durably reconciled")
    fun _ => .ret (.succeeded acknowledgement)

/-- The claimed action: the `EXECUTING` run, its registration and the command. -/
structure Claimed where
  run : Run
  idempotency : IdempotencyRecord
  command : StopExecutionCommand

def callExecutor (proposalId : UUID) (c : Claimed) :
    Flow (ControlResult ExecutionAcknowledgement) :=
  Flow.tryExcept (Flow.stop c.command)
    (fun e => some <| persistExecutionFailure c.run c.idempotency.idempotencyKey
      (executionFailure e).1 (executionFailureResult e))
    fun acknowledgement =>
      recordAcknowledgement c.run proposalId c.idempotency.idempotencyKey acknowledgement

/-! ## Claiming and executing -/

/-- Everything before the executor call: ownership, prerequisites, `EXECUTING`, the command. -/
def claim (proposal : ActionProposal) (proposalId : UUID) : Flow Claimed := do
  let registeredAt ← Flow.clock
  let idempotency ← registerApprovedAction proposalId registeredAt
  let prerequisites ← loadExecutionPrerequisites proposalId
  let updatedAt ← Flow.clock
  let run ← Flow.op (.transitionRun prerequisites.run.runId .executing .approved
    prerequisites.run.version updatedAt none none)
  let issuedAt ← Flow.clock
  let command := buildStopExecutionCommand prerequisites issuedAt
  appendEvent run .executionRequested idempotency.actionFingerprint
    (Dict.ofPairs [("proposal_id", proposal.proposalId.str)])
  return ⟨run, idempotency, command⟩

/-- The handlers of the claiming block. -/
def claimHandler (runId : UUID) : PyExc → Option (Flow (ControlResult ExecutionAcknowledgement))
  | .durablePrerequisite message =>
    some <| .ret <| controlFailed .policyDenial "EXECUTION_PREREQUISITES_DENIED" message
  | .storageConflict _ =>
    some <| markRecoveryRequired runId "EXECUTION_OWNERSHIP_CONFLICT"
      "Durable execution ownership could not be established safely"
  | .storageDependency _ =>
    some <| .ret <| controlFailed .dependencyUnavailable "EXECUTION_DURABILITY_UNAVAILABLE"
      "Durable write-before-execute state is unavailable" true
  | _ => none

/-- A record for this action exists: answer from it, never execute. -/
def reconcileExisting (proposal : ActionProposal) (key : String) (existing : IdempotencyRecord) :
    Flow (ControlResult ExecutionAcknowledgement) :=
  if existing.proposalId ≠ proposal.proposalId ∨ existing.idempotencyKey ≠ key then
    .ret <| controlFailed .recoveryRequirement "IDEMPOTENCY_OWNERSHIP_CONFLICT"
      "Durable idempotency ownership is inconsistent"
  else
    match existing.executionAcknowledgement with
    | some acknowledgement =>
      Flow.tryExcept (Flow.op (.getRun proposal.runId))
        (Flow.catching PyExc.isDependency <| .ret <| controlFailed .dependencyUnavailable
          "RUN_RECONCILIATION_UNAVAILABLE" "Durable run reconciliation is unavailable" true)
        fun run =>
          if run.any fun run => run.state == .verifying || run.state == .successWithEvidence then
            .ret (.succeeded acknowledgement)
          else
            markRecoveryRequired proposal.runId "ACKNOWLEDGEMENT_STATE_UNRECONCILED"
              "Execution acknowledgement exists without a safe verifying state"
    | none =>
      if existing.status = .registered then
        markRecoveryRequired proposal.runId "IDEMPOTENCY_IN_PROGRESS"
          "Unresolved in-progress mutation must not be blindly replayed"
      else
        match existing.actionResult.bind (·.failure) with
        | some failure => .ret (.failed failure)
        | none => .ret <| controlFailed .recoveryRequirement "IDEMPOTENCY_RESULT_UNRECONCILED"
            "Existing action result requires reconciliation"

/-- `execute`: run the approved stop of a proposal at most once. -/
def execute (proposalId : UUID) : Flow (ControlResult ExecutionAcknowledgement) :=
  Flow.tryExcept (Flow.op (.getProposal proposalId))
    (Flow.catching PyExc.isDependency <| .ret <| controlFailed .dependencyUnavailable
      "PROPOSAL_LOOKUP_UNAVAILABLE" "Durable proposal lookup is unavailable" true)
    fun
    | none => .ret <| controlFailed .validationFailure "PROPOSAL_NOT_FOUND"
        "Durable proposal is required"
    | some proposal =>
      Flow.tryExcept (Flow.op (.getIdempotency (deriveIdempotencyKey proposal)))
        (Flow.catching PyExc.isDependency <| .ret <| controlFailed .dependencyUnavailable
          "IDEMPOTENCY_LOOKUP_UNAVAILABLE" "Durable idempotency lookup is unavailable" true)
        fun
        | some existing => reconcileExisting proposal (deriveIdempotencyKey proposal) existing
        | none =>
          Flow.tryExcept (claim proposal proposalId) (claimHandler proposal.runId)
            (callExecutor proposal.proposalId)

end StopSandboxInstanceCoordinator

end CloudOpsAgent
