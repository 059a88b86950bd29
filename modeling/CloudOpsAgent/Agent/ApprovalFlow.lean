/-
  `DurableApprovalFlow`: the human decision on one EC2 stop proposal.

  `request` moves proposal and run to `AWAITING_APPROVAL`, lets the Strands agent raise its native
  interrupt and checkpoints it; `resume` records the exact decision, applies it to the run, and only
  then resumes the agent.  The human-visible payload is copied from the durable proposal, and its
  hash is what a response must echo.
-/
import CloudOpsAgent.Remediation.Coordinator

namespace CloudOpsAgent

/-! ## The approval payload -/

def STOP_IMPACT_SUMMARY : String :=
  "Gracefully stopping the sandbox instance is reversible but changes AWS workload state."

/-- Human-visible mutation facts copied from one immutable durable proposal. -/
structure ApprovalPayload where
  proposalId : UUID
  runId : UUID
  action : Capability
  target : ActionTarget
  expectedPrecondition : ExpectedPrecondition
  authority : AuthorityGate
  evidenceHash : Sha256Digest
  action_eq : action = .stopSandboxInstance
  authority_eq : authority = .planAndConfirm
  evidence_eq : evidenceHash = expectedPrecondition.evidenceHash

def ApprovalPayload.toJson (p : ApprovalPayload) : Json :=
  .obj [("proposal_id", .str p.proposalId.str), ("run_id", .str p.runId.str),
    ("action", .str p.action.value), ("target", p.target.toJson),
    ("expected_precondition", p.expectedPrecondition.toJson),
    ("authority", .str p.authority.value), ("evidence_hash", .str p.evidenceHash.hex),
    ("impact_summary", .str STOP_IMPACT_SUMMARY)]

/-- `build_approval_payload`. -/
def buildApprovalPayload (p : ActionProposal) : ApprovalPayload where
  proposalId := p.proposalId
  runId := p.runId
  action := p.action
  target := p.target
  expectedPrecondition := p.expectedPrecondition
  authority := p.authority
  evidenceHash := p.evidenceHash
  action_eq := p.action_eq
  authority_eq := by rw [p.authority_eq, p.action_eq]; rfl
  evidence_eq := p.evidence_eq

/-- `approval_request_hash`. -/
def approvalRequestHash [Sha256] (payload : ApprovalPayload) : Sha256Digest :=
  canonicalDigest payload.toJson

/-- Caller boundary returned when native Strands execution pauses. -/
structure ApprovalInterrupt where
  interruptId : String
  payload : ApprovalPayload
  requestHash : Sha256Digest
  traceId : UUID
  correlationId : UUID
  reconciled : Bool := false

/-- External response that must echo the exact durable approval binding. -/
structure ApprovalResumeRequest where
  interruptId : String
  proposalId : UUID
  runId : UUID
  action : Capability
  target : ActionTarget
  evidenceHash : Sha256Digest
  requestHash : Sha256Digest
  decision : ApprovalDecision
  actorSessionId : String
  decisionNonce : String

/-- Durable decision result; approval is distinct from later execution. -/
structure ApprovalResolution where
  runId : UUID
  traceId : UUID
  correlationId : UUID
  proposalId : UUID
  decision : ApprovalDecision
  finalState : WorkflowState
  requestHash : Sha256Digest
  nativeResumeCompleted : Bool
  reconciled : Bool
  decision_state : finalState = decision.targetState

/-! ## The flow -/

/-- What the flow reads of its `PrimaryAgentRuntime`. -/
structure PrimaryAgentRuntime where
  proposalId : UUID
  maxOutputTokens : Nat

namespace DurableApprovalFlow

variable [Sha256]

/-- `_append_event`. -/
def appendEvent (run : Run) (type : AuditEventType) (payloadHash : Sha256Digest)
    (metadata : Dict String String) : Flow Unit := do
  let eventId ← Flow.freshId
  let timestamp ← Flow.clock
  let _ ← Flow.op <| .appendAuditEvent {
    eventId := eventId
    runId := run.runId
    type := type
    timestamp := timestamp
    source := "strands-hitl"
    toolName := some "stop_sandbox_instance"
    redactedPayloadHash := payloadHash
    metadata := (metadata.insert "trace_id" run.traceId.str).insert "correlation_id"
      run.correlationId.str }
  return

/-- `_storage_failed`. -/
def storageFailed {α : Type} (message : String) : ControlResult α :=
  controlFailed .dependencyUnavailable "DURABLE_APPROVAL_UNAVAILABLE" message true

/-- `_persist_request_failure`. -/
def persistRequestFailure (run : Run) (failure : FailureDetail) :
    Flow (ControlResult ApprovalInterrupt) :=
  let body : Flow Unit := do
    let updatedAt ← Flow.clock
    let _ ← Flow.op (.transitionRun run.runId failure.kind.workflowState run.state run.version
      updatedAt none none)
    return
  Flow.tryExcept body
    (Flow.catching PyExc.isStorage <| .ret <|
      storageFailed "Approval failure state could not be persisted")
    fun _ => .ret (.failed failure)

/-- Audit a failed request, then persist it. -/
def auditedRequestFailure (run : Run) (proposal : ActionProposal) (type : AuditEventType)
    (failure : FailureDetail) (unavailable : String) : Flow (ControlResult ApprovalInterrupt) :=
  Flow.tryExcept
    (appendEvent run type proposal.evidenceHash (Dict.ofPairs [("failure_code", failure.code)]))
    (Flow.catching PyExc.isStorage <| .ret (storageFailed unavailable))
    fun _ => persistRequestFailure run failure

/-- `_reconcile_interrupt`. -/
def reconcileInterrupt (run : Run) (proposal : ActionProposal) (checkpoint : Checkpoint) :
    ControlResult ApprovalInterrupt :=
  if proposal.state ≠ .awaitingApproval then
    controlFailed .recoveryRequirement "APPROVAL_RECONCILIATION_INVALID"
      "Awaiting run and proposal state are inconsistent"
  else
    let payload := buildApprovalPayload proposal
    let requestHash := approvalRequestHash payload
    match (checkpoint.resumeMetadata.lookup "approval_interrupt_id").bind Json.str? with
    | some interruptId =>
      if (checkpoint.resumeMetadata.lookup "approval_request_hash").bind Json.str? =
          some requestHash.hex then
        .succeeded ⟨interruptId, payload, requestHash, run.traceId, run.correlationId, true⟩
      else controlFailed .recoveryRequirement "APPROVAL_INTERRUPT_STATE_MISSING"
        "Durable interrupt metadata requires recovery"
    | none => controlFailed .recoveryRequirement "APPROVAL_INTERRUPT_STATE_MISSING"
        "Durable interrupt metadata requires recovery"

/-- Save the interrupt's checkpoint and audit it. -/
def checkpointInterrupt (run : Run) (proposal : ActionProposal) (checkpoint : Checkpoint)
    (interruptId : String) : Flow (ControlResult ApprovalInterrupt) :=
  let payload := buildApprovalPayload proposal
  let requestHash := approvalRequestHash payload
  let body : Flow Unit := do
    let createdAt ← Flow.clock
    let next ← .ofExcept <| Checkpoint.validate {
      runId := run.runId
      lastSafeState := .awaitingApproval
      resumeMetadata := ((checkpoint.resumeMetadata.insert "approval_interrupt_id"
        (.str interruptId)).insert "approval_request_hash" (.str requestHash.hex)).insert
        "proposal_id" (.str proposal.proposalId.str)
      toolResultHashes := checkpoint.toolResultHashes
      createdAt := createdAt
      version := checkpoint.version + 1 }
    let _ ← Flow.op (.saveCheckpoint next (some checkpoint.version))
    appendEvent run .approvalRequested requestHash
      (Dict.ofPairs [("proposal_id", proposal.proposalId.str)])
  Flow.tryExcept body
    (Flow.catching PyExc.isStorage <| .ret <|
      storageFailed "Approval interrupt checkpoint persistence failed")
    fun _ => .ret (.succeeded
      ⟨interruptId, payload, requestHash, run.traceId, run.correlationId, false⟩)

/-- What the agent's reply to the request leads to. -/
def handleReply (run : Run) (proposal : ActionProposal) (checkpoint : Checkpoint)
    (reply : AgentReply) : Flow (ControlResult ApprovalInterrupt) :=
  match reply.lastFailure with
  | some failure => persistRequestFailure run failure
  | none =>
    if reply.stopReason.startsWith "limit_" then
      auditedRequestFailure run proposal .budgetExhausted
        ⟨.budgetExhaustion, "APPROVAL_AGENT_BUDGET_EXHAUSTED",
          "Bounded approval interrupt generation exhausted its model budget", false⟩
        "Approval budget audit is unavailable"
    else
      match reply.interrupts with
      | [interruptId] =>
        if reply.stopReason = "interrupt" then
          checkpointInterrupt run proposal checkpoint interruptId
        else
          auditedRequestFailure run proposal .modelOutputRejected
            ⟨.validationFailure, "APPROVAL_INTERRUPT_MISSING",
              "Strands did not produce exactly one native approval interrupt", false⟩
            "Approval model-output audit is unavailable"
      | _ =>
        auditedRequestFailure run proposal .modelOutputRejected
          ⟨.validationFailure, "APPROVAL_INTERRUPT_MISSING",
            "Strands did not produce exactly one native approval interrupt", false⟩
          "Approval model-output audit is unavailable"

/-- Ask the agent for its interrupt, within what is left of the run's budget. -/
def requestInterrupt (runtime : PrimaryAgentRuntime) (run : Run) (proposal : ActionProposal)
    (checkpoint : Checkpoint) : Flow (ControlResult ApprovalInterrupt) :=
  let turns := run.budget.maxTurns - run.budget.turnsUsed
  let tokens := run.budget.maxTokens - run.budget.tokensUsed
  let milliseconds := run.budget.maxElapsedSeconds * 1000 - run.budget.elapsedMillisecondsUsed
  if turns = 0 ∨ tokens = 0 ∨ milliseconds = 0 then
    auditedRequestFailure run proposal .budgetExhausted
      ⟨.budgetExhaustion, "APPROVAL_BUDGET_ALREADY_EXHAUSTED",
        "Durable budget was exhausted before approval interrupt generation", false⟩
      "Approval budget audit is unavailable"
  else
    Flow.tryExcept
      (Flow.agent (.requestStop proposal.proposalId turns (min tokens runtime.maxOutputTokens)
        tokens))
      (fun _ => some <| .ret <| controlFailed .dependencyUnavailable
        "STRANDS_APPROVAL_INTERRUPT_FAILED" "Strands could not create the approval interrupt" true)
      (handleReply run proposal checkpoint)

/-- The lookups of `request`. -/
def lookup (proposalId : UUID) :
    Flow (ControlResult (ActionProposal × Option Run × Option Checkpoint)) := do
  let some proposal ← Flow.op (.getProposal proposalId)
    | return controlFailed .validationFailure "PROPOSAL_NOT_FOUND"
        "Durable proposal is required before approval"
  let run ← Flow.op (.getRun proposal.runId)
  let checkpoint ← Flow.op (.getCheckpoint proposal.runId)
  return .succeeded (proposal, run, checkpoint)

/-- Move proposal and run to `AWAITING_APPROVAL`. -/
def startAwaiting (run : Run) (proposal : ActionProposal) : Flow (ActionProposal × Run) := do
  let proposal : ActionProposal ←
    Flow.op (.transitionProposal proposal.proposalId .awaitingApproval .proposed)
  let updatedAt ← Flow.clock
  let run ← Flow.op (.transitionRun run.runId .awaitingApproval .remediationProposed run.version
    updatedAt none none)
  return (proposal, run)

def startAwaitingHandler : PyExc → Option (Flow (ControlResult ApprovalInterrupt))
  | .storageConflict _ => some <| .ret <| controlFailed .recoveryRequirement
      "APPROVAL_TRANSITION_CONFLICT" "Durable approval transition could not be reconciled"
  | .storageDependency _ => some <| .ret <|
      storageFailed "Durable approval transition is unavailable"
  | _ => none

/-- `request`: move durable truth to `AWAITING_APPROVAL` and return one native interrupt. -/
def request (runtime : PrimaryAgentRuntime) (proposalId : UUID) :
    Flow (ControlResult ApprovalInterrupt) :=
  Flow.tryExcept (lookup proposalId)
    (Flow.catching PyExc.isDependency <| .ret <|
      storageFailed "Durable approval request lookup is unavailable")
    fun
    | .failed failure => .ret (.failed failure)
    | .succeeded (proposal, some run, some checkpoint) =>
      if run.state = .awaitingApproval then .ret (reconcileInterrupt run proposal checkpoint)
      else if run.state ≠ .remediationProposed ∨ proposal.state ≠ .proposed ∨
          proposal.runId ≠ run.runId then
        .ret <| controlFailed .recoveryRequirement "APPROVAL_STATE_INVALID"
          "Approval can start only from the durable proposed state"
      else
        Flow.tryExcept (startAwaiting run proposal) startAwaitingHandler
          fun (proposal, run) => requestInterrupt runtime run proposal checkpoint
    | .succeeded _ => .ret <| controlFailed .recoveryRequirement "APPROVAL_PREREQUISITES_MISSING"
        "Durable run and evidence checkpoint are required"

/-! ## Resuming -/

/-- `_resolution`. -/
def resolution (runtime : PrimaryAgentRuntime) (run : Run) (decision : ApprovalDecision)
    (requestHash : Sha256Digest) (reconciled : Bool) : Except PyExc ApprovalResolution :=
  if h : run.state = decision.targetState then
    .ok ⟨run.runId, run.traceId, run.correlationId, runtime.proposalId, decision, run.state,
      requestHash, !reconciled, reconciled, h⟩
  else .error (.valueError "approval decision and workflow state do not match")

/-- The response echoes the durable proposal and the checkpointed interrupt. -/
def responseBound (response : ApprovalResumeRequest) (proposal : ActionProposal)
    (checkpoint : Checkpoint) : Bool :=
  let expected := approvalRequestHash (buildApprovalPayload proposal)
  response.runId == proposal.runId && response.action == proposal.action &&
    response.target == proposal.target && response.evidenceHash == proposal.evidenceHash &&
    response.requestHash == expected &&
    (checkpoint.resumeMetadata.lookup "approval_interrupt_id").bind Json.str? ==
      some response.interruptId &&
    (checkpoint.resumeMetadata.lookup "approval_request_hash").bind Json.str? == some expected.hex

/-- The approval a bound response stands for. -/
def approvalOf (response : ApprovalResumeRequest) (proposal : ActionProposal) (decidedAt : Time) :
    Approval where
  proposalId := proposal.proposalId
  runId := proposal.runId
  action := proposal.action
  target := proposal.target
  evidenceHash := proposal.evidenceHash
  interruptId := response.interruptId
  requestHash := response.requestHash
  decision := response.decision
  decidedAt := decidedAt
  actorSessionId := response.actorSessionId
  decisionNonce := response.decisionNonce
  action_eq := proposal.action_eq

/-- Record the decision; the same decision may already be there. -/
def recordDecision (proposal : ActionProposal) (approval : Approval) : Flow Unit := do
  match ← Flow.op (.getApproval proposal.proposalId) with
  | some existing =>
    if existing ≠ { approval with decidedAt := existing.decidedAt } then
      .raise (.storageConflict "conflicting durable decision already exists")
    else return
  | none =>
    let _ ← Flow.op (.createApproval approval)
    return

/-- Apply the recorded decision: `.inl run` when the run already is where it leads, `.inr run` when
    this call moved it there. -/
def moveRun (response : ApprovalResumeRequest) (proposal : ActionProposal) (run : Run)
    (checkpoint : Checkpoint) : Flow (Run ⊕ Run) := do
  let target := response.decision.targetState
  if run.state = target then return .inl run
  else if run.state ≠ .awaitingApproval then
    .raise (.storageConflict "run is not awaiting this human decision")
  else
    let updatedAt ← Flow.clock
    let run : Run ← Flow.op (.transitionRun run.runId target .awaitingApproval run.version updatedAt
      (some proposal.proposalId) none)
    let createdAt ← Flow.clock
    let next ← .ofExcept <| Checkpoint.validate {
      runId := run.runId
      lastSafeState := target
      resumeMetadata := checkpoint.resumeMetadata.insert "approval_decision"
        (.str response.decision.value)
      toolResultHashes := checkpoint.toolResultHashes
      createdAt := createdAt
      version := checkpoint.version + 1 }
    let _ ← Flow.op (.saveCheckpoint next (some checkpoint.version))
    appendEvent run .approvalRecorded response.requestHash
      (Dict.ofPairs [("proposal_id", proposal.proposalId.str),
        ("decision", response.decision.value)])
    return .inr run

/-- The `try` block of `resume`. -/
def applyDecision (response : ApprovalResumeRequest) (proposal : ActionProposal) (run : Run)
    (checkpoint : Checkpoint) (approval : Approval) : Flow (Run ⊕ Run) := do
  recordDecision proposal approval
  moveRun response proposal run checkpoint

def applyDecisionHandler : PyExc → Option (Flow (ControlResult ApprovalResolution))
  | .storageConflict _ => some <| .ret <| controlFailed .recoveryRequirement
      "APPROVAL_DECISION_CONFLICT" "Durable human decision conflicts with existing state"
  | .storageDependency _ => some <| .ret <|
      storageFailed "Durable human decision persistence failed"
  | _ => none

/-- Resume the native Strands call after the decision is durable. -/
def resumeAgent (runtime : PrimaryAgentRuntime) (response : ApprovalResumeRequest) (run : Run)
    (requestHash : Sha256Digest) : Flow (ControlResult ApprovalResolution) :=
  Flow.tryExcept
    (Flow.agent (.interruptResponse response.interruptId (response.decision == .approved)))
    (fun _ => some <| .ret <| controlFailed .recoveryRequirement "STRANDS_APPROVAL_RESUME_FAILED"
      "Durable decision exists but native Strands resume requires recovery")
    fun reply =>
      if reply.stopReason = "interrupt" then
        .ret <| controlFailed .recoveryRequirement "STRANDS_APPROVAL_REINTERRUPTED"
          "Native Strands resume produced an unexpected additional interrupt"
      else do
        let resolution ← .ofExcept (resolution runtime run response.decision requestHash false)
        return .succeeded resolution

/-- `resume` once its three records are loaded. -/
def resumeLoaded (runtime : PrimaryAgentRuntime) (response : ApprovalResumeRequest)
    (proposal : ActionProposal) (run : Run) (checkpoint : Checkpoint) :
    Flow (ControlResult ApprovalResolution) :=
  let expected := approvalRequestHash (buildApprovalPayload proposal)
  if responseBound response proposal checkpoint then do
    let decidedAt ← Flow.clock
    Flow.tryExcept
      (applyDecision response proposal run checkpoint (approvalOf response proposal decidedAt))
      applyDecisionHandler
      fun
      | .inl run => do
        let resolution ← .ofExcept (resolution runtime run response.decision expected true)
        return .succeeded resolution
      | .inr run => resumeAgent runtime response run expected
  else
    Flow.tryExcept
      (appendEvent run .policyDenied expected
        (Dict.ofPairs [("policy_code", "APPROVAL_BINDING_MISMATCH"),
          ("proposal_id", proposal.proposalId.str)]))
      (Flow.catching PyExc.isStorage <| .ret <|
        storageFailed "Approval denial audit is unavailable")
      fun _ => .ret <| controlFailed .policyDenial "APPROVAL_BINDING_MISMATCH"
        "Approval response does not match the durable interrupt and proposal"

/-- `resume`: persist the exact decision, transition, then resume the native call. -/
def resume (runtime : PrimaryAgentRuntime) (response : ApprovalResumeRequest) :
    Flow (ControlResult ApprovalResolution) :=
  let lookups : Flow (Option ActionProposal × Option Run × Option Checkpoint) := do
    let proposal ← Flow.op (.getProposal response.proposalId)
    let run ← Flow.op (.getRun response.runId)
    let checkpoint ← Flow.op (.getCheckpoint response.runId)
    return (proposal, run, checkpoint)
  Flow.tryExcept lookups
    (Flow.catching PyExc.isDependency <| .ret <|
      storageFailed "Durable approval resume lookup is unavailable")
    fun
    | (some proposal, some run, some checkpoint) =>
      resumeLoaded runtime response proposal run checkpoint
    | _ => .ret <| controlFailed .recoveryRequirement "APPROVAL_RESUME_MISSING_STATE"
        "Approval resume requires durable run, proposal, and checkpoint"

end DurableApprovalFlow

end CloudOpsAgent
