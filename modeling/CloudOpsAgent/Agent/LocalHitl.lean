/-
  `LocalHitlExecutionFlow`: human authorization, protected mock execution and verification of one
  local run, all of it durable in the run's checkpoint.

  `requestApproval` issues a one-time challenge, `decide` records the bound decision, `resume`
  drives an approved run forward from whatever state it is in:

      APPROVED ─ establishOwnership ─→ EXECUTING ─ executeIntent ─→ VERIFYING ─ verifyReceipt ─→ SUCCESS

  Each stage of `resume` either ends the call with a result (`.inl`) or hands the run and the
  checkpoint on (`.inr`), which is how the source falls through its `if run.state is …` blocks.

  Metadata of the audit events here can contain operator input, so `LocalHitlConfig` carries the
  secret scan the event validator applies to it.
-/
import CloudOpsAgent.Remediation.Coordinator

namespace CloudOpsAgent

open ClientProg

variable [Sha256]

/-! ## Challenges, decisions, completions -/

structure LocalOperatorPrincipal where
  actorSessionId : String

/-- Human-visible exact proposal plus one ephemeral decision challenge. -/
structure LocalApprovalChallenge where
  request : LocalApprovalRequestRecord
  proposal : RemediationProposal
  evidence : ResourceEvidence
  decisionNonce : String

/-- API input echoing every decision-critical durable binding. -/
structure LocalDecisionRequest where
  requestId : UUID
  runId : UUID
  proposalId : UUID
  requestHash : Sha256Digest
  proposalHash : Sha256Digest
  evidenceHash : Sha256Digest
  proposalVersion : Nat
  decision : ApprovalDecision
  decisionNonce : String

/-- Durable decision state; approval remains distinct from execution. -/
structure LocalApprovalResolution where
  runId : UUID
  proposalId : UUID
  requestId : UUID
  requestHash : Sha256Digest
  decisionHash : Sha256Digest
  decision : ApprovalDecision
  finalState : WorkflowState
  reconciled : Bool := false

/-- Terminal result, with independent verification when executed. -/
structure LocalExecutionCompletion where
  runId : UUID
  proposalId : UUID
  decision : ApprovalDecision
  finalState : WorkflowState
  approval : LocalApprovalDecisionRecord
  receipt : Option LocalExecutionReceipt := none
  verification : Option LocalVerificationEvidence := none
  reconciled : Bool := false

namespace LocalExecutionCompletion

/-- The receipt is the run's and the proposal's, and the verification is the receipt's. -/
def proofLinked (c : LocalExecutionCompletion) : Bool :=
  match c.receipt, c.verification with
  | some r, some v =>
    r.runId == c.runId && r.proposalId == c.proposalId && v.receiptHash == r.receiptHash
  | _, _ => false

/-- `validate_completion`, raising its error. -/
def validate (c : LocalExecutionCompletion) : Except PyExc LocalExecutionCompletion :=
  if c.finalState ≠ .deniedByHuman ∧ c.finalState ≠ .successWithEvidence then
    .error (.valueError "Input should be DENIED_BY_HUMAN or SUCCESS_WITH_EVIDENCE")
  else if c.decision = .denied then
    if c.finalState ≠ .deniedByHuman ∨ c.receipt.isSome ∨ c.verification.isSome then
      .error (.valueError "denied local completion cannot contain execution proof")
    else .ok c
  else if c.finalState ≠ .successWithEvidence ∨ !c.proofLinked then
    .error (.valueError "approved local completion requires linked verification")
  else .ok c

theorem validate_ok {c c' : LocalExecutionCompletion} (h : c.validate = .ok c') : c' = c := by
  unfold validate at h
  split at h
  · cases h
  split at h
  · split at h
    · cases h
    · cases h; rfl
  split at h
  · cases h
  · cases h; rfl

end LocalExecutionCompletion

structure LocalHitlConfig where
  requestTtlSeconds : Nat := 600
  ttl_ok : 60 ≤ requestTtlSeconds ∧ requestTtlSeconds ≤ 3600
  /-- `contains_sensitive_material` of an audit event's metadata. -/
  sensitive : Dict String String → Bool

namespace LocalHitlExecutionFlow

/-! ## Shared steps -/

/-- `_execution_storage_failed` and its siblings. -/
def storageFailed {α : Type} (message : String) : ControlResult α :=
  controlFailed .storageFailure "LOCAL_STATE_STORE_UNAVAILABLE" message true

/-- `_append_event`; the event's validator refuses sensitive metadata. -/
def appendEvent (cfg : LocalHitlConfig) (run : Run) (type : AuditEventType)
    (payloadHash : Sha256Digest) (metadata : Dict String String) : Flow Unit := do
  let eventId ← Flow.freshId
  let timestamp ← Flow.clock
  let metadata := (metadata.insert "trace_id" run.traceId.str).insert "correlation_id"
    run.correlationId.str
  if cfg.sensitive metadata then
    .raise (.valueError "sensitive audit metadata values are prohibited")
  else
    let _ ← Flow.op <| .appendAuditEvent {
      eventId := eventId
      runId := run.runId
      type := type
      timestamp := timestamp
      source := "local-hitl"
      redactedPayloadHash := payloadHash
      metadata := metadata }
    return

/-- `_next_checkpoint`: the next version of a checkpoint, re-validated. -/
def nextCheckpoint (checkpoint : Checkpoint) (lastSafeState : WorkflowState)
    (metadata : List (String × String)) (update : CheckpointFields → CheckpointFields) :
    Flow Checkpoint := do
  let createdAt ← Flow.clock
  .ofExcept <| Checkpoint.validate { update checkpoint.toCheckpointFields with
    createdAt := createdAt
    lastSafeState := lastSafeState
    resumeMetadata := metadata.foldl (fun d kv => d.insert kv.1 (.str kv.2))
      checkpoint.resumeMetadata
    version := checkpoint.version + 1 }

/-- Build the next checkpoint and save it over the one it was built from. -/
def saveNext (checkpoint : Checkpoint) (lastSafeState : WorkflowState)
    (metadata : List (String × String)) (update : CheckpointFields → CheckpointFields := id) :
    Flow Checkpoint := do
  let next ← nextCheckpoint checkpoint lastSafeState metadata update
  Flow.op (.saveCheckpoint next (some checkpoint.version))

/-- `_audit_policy_denial`: storage failures are suppressed. -/
def auditPolicyDenial (cfg : LocalHitlConfig) (run : Run) (proposal : RemediationProposal)
    (code : String) : Flow Unit :=
  Flow.tryExcept
    (appendEvent cfg run .policyDenied proposal.proposalHash
      (Dict.ofPairs [("proposal_id", proposal.proposalId.str), ("policy_code", code)]))
    (Flow.catching PyExc.isStorage (.ret ())) .ret

/-- The four records every entry point works on. -/
structure Loaded where
  run : Run
  checkpoint : Checkpoint
  evidence : ResourceEvidence
  proposal : RemediationProposal

/-- Run, evidence and proposal name one run, one trace, one correlation and one evidence hash. -/
def prerequisitesBound (run : Run) (e : ResourceEvidence) (p : RemediationProposal) : Bool :=
  e.runId == run.runId && e.traceId == run.traceId && e.correlationId == run.correlationId &&
    p.runId == run.runId && p.correlationId == run.correlationId && p.evidenceHash == e.evidenceHash

/-- What `_load` makes of the two records it reads. -/
def loadedOf (run : Option Run) (checkpoint : Option Checkpoint) : ControlResult Loaded :=
  match run, checkpoint with
  | some run, some checkpoint =>
    match checkpoint.resourceEvidence, checkpoint.remediationProposal with
    | some evidence, some proposal =>
      if prerequisitesBound run evidence proposal then .succeeded ⟨run, checkpoint, evidence, proposal⟩
      else controlFailed .recoveryRequirement "LOCAL_HITL_PREREQUISITES_INVALID"
        "Local run lacks exact durable evidence and proposal bindings"
    | _, _ => controlFailed .recoveryRequirement "LOCAL_HITL_PREREQUISITES_INVALID"
        "Local run lacks exact durable evidence and proposal bindings"
  | _, _ => controlFailed .notFound "LOCAL_RUN_NOT_FOUND" "Local run and checkpoint are required"

theorem loadedOf_succeeded {run : Option Run} {c : Option Checkpoint} {l : Loaded}
    (h : loadedOf run c = .succeeded l) : run = some l.run ∧ c = some l.checkpoint ∧
      l.checkpoint.resourceEvidence = some l.evidence ∧
      l.checkpoint.remediationProposal = some l.proposal ∧
      prerequisitesBound l.run l.evidence l.proposal := by
  unfold loadedOf at h
  split at h
  · split at h
    · rename_i he hp
      split at h
      · rename_i hbound
        cases h
        exact ⟨rfl, rfl, he, hp, hbound⟩
      · cases h
    · cases h
  · cases h

/-- `_load`. -/
def load (runId : UUID) : Flow (ControlResult Loaded) :=
  let reads : Flow (Option Run × Option Checkpoint) := do
    let run ← Flow.op (.getRun runId)
    let checkpoint ← Flow.op (.getCheckpoint runId)
    return (run, checkpoint)
  Flow.tryExcept reads
    (fun e => match e with
      | .storageDependency _ | .typeError _ => some <| .ret <|
          storageFailed "Local durable state lookup is unavailable"
      | _ => none)
    fun (run, checkpoint) => .ret (loadedOf run checkpoint)

/-! ## Applying a decision -/

/-- `_APPROVED_DECISION_DOWNSTREAM_STATES`. -/
def approvedDownstream : WorkflowState → Bool
  | .executing | .verifying | .successWithEvidence | .deniedByPolicy | .modelOutputInvalid
  | .ambiguousResult | .dependencyUnavailable | .budgetExhausted | .executionFailed
  | .verificationFailed | .recoveryRequired => true
  | _ => false

/-- The run an approval was applied to long ago: nothing is left to apply. -/
def alreadyApplied (run : Run) (approval : LocalApprovalDecisionRecord) : Bool :=
  approval.decision == .approved && approvedDownstream run.state

/-- Move the run to the state its decision leads to, unless it is there or past it. -/
def moveRun (run : Run) (approval : LocalApprovalDecisionRecord) : Flow Run :=
  if run.state ≠ approval.decision.targetState ∧ !alreadyApplied run approval then
    if run.state ≠ .awaitingApproval then
      .raise (.storageConflict "run is not awaiting the durable local decision")
    else do
      let updatedAt ← Flow.clock
      Flow.op (.transitionRun run.runId approval.decision.targetState .awaitingApproval run.version
        updatedAt (some approval.proposalId) none)
  else .ret run

/-- Bring the checkpoint of a run with this decision up to date. -/
def saveDecisionState (downstream : Bool) (checkpoint : Checkpoint)
    (approval : LocalApprovalDecisionRecord) : Flow Checkpoint :=
  if !downstream ∧ checkpoint.lastSafeState ≠ approval.decision.targetState then
    saveNext checkpoint approval.decision.targetState
      [("phase", "LOCAL_2"), ("local_decision", approval.decision.value)]
  else .ret checkpoint

/-- The `try` block of `_apply_decision_state`. -/
def applyDecisionBody (run : Run) (checkpoint : Checkpoint)
    (approval : LocalApprovalDecisionRecord) : Flow (Run × Checkpoint) := do
  let downstream := alreadyApplied run approval
  let run ← moveRun run approval
  let checkpoint ← saveDecisionState downstream checkpoint approval
  return (run, checkpoint)

/-- `_apply_decision_state`. -/
def applyDecisionState (run : Run) (checkpoint : Checkpoint)
    (approval : LocalApprovalDecisionRecord) : Flow (ControlResult (Run × Checkpoint)) :=
  Flow.tryExcept (applyDecisionBody run checkpoint approval)
    (fun e => match e with
      | .storageConflict _ => some <| .ret <| controlFailed .recoveryRequirement
          "LOCAL_DECISION_STATE_CONFLICT" "Durable local decision conflicts with workflow state"
      | .storageDependency _ => some <| .ret <|
          storageFailed "Local decision state persistence is unavailable"
      | _ => none)
    fun applied => .ret (.succeeded applied)

/-! ## `request_approval` -/

/-- The `try` block of `request_approval`: the request record, its checkpoint, its audit event. -/
def issueChallenge (cfg : LocalHitlConfig) (l : Loaded) (principal : LocalOperatorPrincipal)
    (now : Time) (nonce : String) : Flow LocalApprovalRequestRecord := do
  let requestId ← Flow.freshId
  let request ← .ofExcept <| LocalApprovalRequestRecord.create requestId l.proposal
    principal.actorSessionId (Sha256.hexdigest nonce) now
    (min l.proposal.expiresAt (now + seconds cfg.requestTtlSeconds))
  let _ ← saveNext l.checkpoint .awaitingApproval
    [("phase", "LOCAL_2"), ("local_approval_request_hash", request.requestHash.hex)]
    fun c => { c with
      localApprovalRequest := some request
      localApproval := none
      localExecutionIntent := none
      localExecutionReceipt := none
      localVerification := none }
  appendEvent cfg l.run .approvalRequested request.requestHash
    (Dict.ofPairs [("proposal_id", l.proposal.proposalId.str), ("request_id", request.requestId.str),
      ("actor_session_id", principal.actorSessionId)])
  return request

/-- `except (StorageConflictError, StorageDependencyError, TypeError, ValueError)`. -/
def isChallengeError : PyExc → Bool
  | .typeError _ => true
  | e => e.isStorage || e.isValueError

/-- `request_approval` of a loaded run. -/
def requestLoaded (cfg : LocalHitlConfig) (l : Loaded) (principal : LocalOperatorPrincipal) :
    Flow (ControlResult LocalApprovalChallenge) :=
  if l.run.state ≠ .awaitingApproval then
    .ret <| controlFailed .recoveryRequirement "LOCAL_APPROVAL_STATE_INVALID"
      "Local approval can be requested only from AWAITING_APPROVAL"
  else if l.checkpoint.localApproval.isSome then
    .ret <| controlFailed .idempotencyConflict "LOCAL_DECISION_ALREADY_RECORDED"
      "A durable human decision already exists for this proposal"
  else do
    let now ← Flow.clock
    if l.proposal.expiresAt ≤ now then
      return controlFailed .policyDenial "LOCAL_PROPOSAL_EXPIRED"
        "The local remediation proposal has expired"
    else
      let nonce ← Flow.nonce
      if !isStripped nonce ∨ nonce.length < 16 ∨ 256 < nonce.length then
        return controlFailed .configurationError "LOCAL_NONCE_FACTORY_INVALID"
          "The local approval nonce factory returned an invalid challenge"
      else
        Flow.tryExcept (issueChallenge cfg l principal now nonce)
          (Flow.catching isChallengeError <| .ret <|
            storageFailed "Local approval challenge could not be persisted")
          fun request => .ret (.succeeded ⟨request, l.proposal, l.evidence, nonce⟩)

/-- `request_approval`: issue a fresh one-time challenge. -/
def requestApproval (cfg : LocalHitlConfig) (runId : UUID) (principal : LocalOperatorPrincipal) :
    Flow (ControlResult LocalApprovalChallenge) := do
  match ← load runId with
  | .failed failure => return .failed failure
  | .succeeded l => requestLoaded cfg l principal

/-! ## `decide` -/

/-- `_decision_matches_request`. -/
def decisionMatchesRequest (d : LocalDecisionRequest) (principal : LocalOperatorPrincipal)
    (r : LocalApprovalRequestRecord) : Bool :=
  d.requestId == r.requestId && d.runId == r.runId && d.proposalId == r.proposalId &&
    d.requestHash == r.requestHash && d.proposalHash == r.proposalHash &&
    d.evidenceHash == r.evidenceHash && d.proposalVersion == r.proposalVersion &&
    principal.actorSessionId == r.actorSessionId &&
    Sha256.hexdigest d.decisionNonce == r.decisionNonceHash

/-- `_resolution`. -/
def resolution (run : Run) (approval : LocalApprovalDecisionRecord) (reconciled : Bool) :
    LocalApprovalResolution where
  runId := run.runId
  proposalId := approval.proposalId
  requestId := approval.requestId
  requestHash := approval.requestHash
  decisionHash := approval.decisionHash
  decision := approval.decision
  finalState := approval.decision.targetState
  reconciled := reconciled

/-- A repeated decision: the recorded one is applied again, a different one is refused. -/
def replayDecision (l : Loaded) (d : LocalDecisionRequest)
    (existing : LocalApprovalDecisionRecord) : Flow (ControlResult LocalApprovalResolution) :=
  if existing.requestId ≠ d.requestId ∨ existing.requestHash ≠ d.requestHash ∨
      existing.decision ≠ d.decision ∨
      existing.decisionNonceHash ≠ Sha256.hexdigest d.decisionNonce then
    .ret <| controlFailed .idempotencyConflict "LOCAL_APPROVAL_REPLAY_CONFLICT"
      "A conflicting decision already owns this approval challenge"
  else do
    match ← applyDecisionState l.run l.checkpoint existing with
    | .failed failure => return .failed failure
    | .succeeded (run, _) => return .succeeded (resolution run existing true)

/-- Record a new decision, apply it and audit it. -/
def recordDecision (cfg : LocalHitlConfig) (l : Loaded) (principal : LocalOperatorPrincipal)
    (request : LocalApprovalRequestRecord) (approval : LocalApprovalDecisionRecord) :
    Flow (ControlResult LocalApprovalResolution) :=
  Flow.tryExcept
    (saveNext l.checkpoint .awaitingApproval
      [("phase", "LOCAL_2"), ("local_decision_hash", approval.decisionHash.hex)]
      fun c => { c with localApproval := some approval })
    (Flow.catching (fun e => e.isStorage || e.isValueError) <| .ret <|
      storageFailed "Local human decision could not be durably recorded")
    fun checkpoint => do
      match ← applyDecisionState l.run checkpoint approval with
      | .failed failure => return .failed failure
      | .succeeded (run, checkpoint) =>
        Flow.tryExcept
          (appendEvent cfg run .approvalRecorded approval.decisionHash
            (Dict.ofPairs [("proposal_id", l.proposal.proposalId.str),
              ("request_id", request.requestId.str), ("decision", approval.decision.value),
              ("actor_session_id", principal.actorSessionId)]))
          (Flow.catching PyExc.isStorage <| .ret <|
            storageFailed "Local decision audit could not be durably recorded")
          fun _ =>
            match checkpoint.localApproval with
            | none => .raise (.valueError "resolution requires local approval")
            | some approval => .ret (.succeeded (resolution run approval false))

/-- `decide` of a loaded run. -/
def decideLoaded (cfg : LocalHitlConfig) (l : Loaded) (d : LocalDecisionRequest)
    (principal : LocalOperatorPrincipal) : Flow (ControlResult LocalApprovalResolution) :=
  match l.checkpoint.localApprovalRequest with
  | none => .ret <| controlFailed .recoveryRequirement "LOCAL_APPROVAL_REQUEST_MISSING"
      "No durable local approval challenge exists"
  | some request =>
    if !decisionMatchesRequest d principal request then do
      auditPolicyDenial cfg l.run l.proposal "LOCAL_APPROVAL_BINDING_MISMATCH"
      return controlFailed .policyDenial "LOCAL_APPROVAL_BINDING_MISMATCH"
        "Local decision does not match the durable proposal challenge"
    else
      match l.checkpoint.localApproval with
      | some existing => replayDecision l d existing
      | none => do
        let now ← Flow.clock
        if request.expiresAt < now ∨ l.proposal.expiresAt < now then
          auditPolicyDenial cfg l.run l.proposal "LOCAL_APPROVAL_EXPIRED"
          return controlFailed .policyDenial "LOCAL_APPROVAL_EXPIRED"
            "Local approval challenge or proposal has expired"
        else
          recordDecision cfg l principal request
            (LocalApprovalDecisionRecord.create request d.decision now)

/-- `decide`: persist an exact bound decision before changing workflow authority. -/
def decide (cfg : LocalHitlConfig) (d : LocalDecisionRequest)
    (principal : LocalOperatorPrincipal) : Flow (ControlResult LocalApprovalResolution) := do
  match ← load d.runId with
  | .failed failure => return .failed failure
  | .succeeded l => decideLoaded cfg l d principal

/-! ## `resume` -/

/-- `_persist_execution_failure`. -/
def persistExecutionFailure (run : Run) (target : WorkflowState) (kind : FailureKind)
    (code message : String) : Flow (ControlResult LocalExecutionCompletion) :=
  let body : Flow Unit := do
    if run.state ≠ target then
      let updatedAt ← Flow.clock
      let _ ← Flow.op (.transitionRun run.runId target run.state run.version updatedAt none none)
      return
    else return
  Flow.tryExcept body
    (Flow.catching PyExc.isStorage <| .ret <|
      storageFailed "Local failure state could not be durably persisted")
    fun _ => .ret (controlFailed kind code message)

/-- `_mark_recovery_required`. -/
def markRecoveryRequired (run : Run) (code message : String) :
    Flow (ControlResult LocalExecutionCompletion) :=
  persistExecutionFailure run .recoveryRequired .recoveryRequirement code message

/-- `_mark_verification_failed`. -/
def markVerificationFailed (run : Run) (code message : String) :
    Flow (ControlResult LocalExecutionCompletion) :=
  persistExecutionFailure run .verificationFailed .verificationFailure code message

/-- `_completed_from_checkpoint`. -/
def completedFromCheckpoint (run : Run) (checkpoint : Checkpoint) (reconciled : Bool) :
    Except PyExc (ControlResult LocalExecutionCompletion) :=
  match checkpoint.localApproval, checkpoint.remediationProposal,
      checkpoint.localExecutionReceipt, checkpoint.localVerification with
  | some approval, some proposal, some receipt, some verification =>
    if run.state ≠ .successWithEvidence then
      .ok <| controlFailed .recoveryRequirement "LOCAL_COMPLETION_PROOF_MISSING"
        "Local success requires durable receipt and verification proof"
    else do
      let completion : LocalExecutionCompletion ← LocalExecutionCompletion.validate {
        runId := run.runId
        proposalId := proposal.proposalId
        decision := approval.decision
        finalState := run.state
        approval := approval
        receipt := some receipt
        verification := some verification
        reconciled := reconciled }
      .ok (.succeeded completion)
  | _, _, _, _ => .ok <| controlFailed .recoveryRequirement "LOCAL_COMPLETION_PROOF_MISSING"
      "Local success requires durable receipt and verification proof"

/-- A stage of `resume` ends the call or hands run and checkpoint on. -/
abbrev Stage := ControlResult LocalExecutionCompletion ⊕ (Run × Checkpoint)

/-- End the call. -/
def finish (p : Flow (ControlResult LocalExecutionCompletion)) : Flow Stage := do
  let result ← p
  return .inl result

/-- The intent of an approved run, registered in its checkpoint if it is not yet there. -/
def registerIntent (cfg : LocalHitlConfig) (l : Loaded) (approval : LocalApprovalDecisionRecord)
    (run : Run) (checkpoint : Checkpoint) : Flow (LocalExecutionIntent × Checkpoint) :=
  match checkpoint.localExecutionIntent with
  | some intent => .ret (intent, checkpoint)
  | none => do
    let registeredAt ← Flow.clock
    let intent ← .ofExcept (LocalExecutionIntent.create l.proposal approval registeredAt)
    let checkpoint ← saveNext checkpoint .approved
      [("phase", "LOCAL_2"), ("local_execution_intent_hash", intent.intentHash.hex)]
      fun c => { c with localExecutionIntent := some intent }
    appendEvent cfg run .idempotencyRegistered intent.intentHash
      (Dict.ofPairs [("proposal_id", l.proposal.proposalId.str)])
    return (intent, checkpoint)

/-- The `APPROVED` block: register the intent, enter `EXECUTING`. -/
def ownershipBody (cfg : LocalHitlConfig) (l : Loaded) (approval : LocalApprovalDecisionRecord)
    (run : Run) (checkpoint : Checkpoint) : Flow (Run × Checkpoint) := do
  let (intent, checkpoint) ← registerIntent cfg l approval run checkpoint
  let updatedAt ← Flow.clock
  let run ← Flow.op (.transitionRun run.runId .executing .approved run.version updatedAt none none)
  appendEvent cfg run .executionRequested intent.intentHash
    (Dict.ofPairs [("proposal_id", l.proposal.proposalId.str)])
  return (run, checkpoint)

def establishOwnership (cfg : LocalHitlConfig) (l : Loaded)
    (approval : LocalApprovalDecisionRecord) (run : Run) (checkpoint : Checkpoint) : Flow Stage :=
  if run.state ≠ .approved then .ret (.inr (run, checkpoint))
  else
    Flow.tryExcept (ownershipBody cfg l approval run checkpoint)
      (Flow.catching (fun e => e.isStorage || e.isValueError) <| .ret <| .inl <|
        storageFailed "Local execution ownership could not be established")
      fun owned => .ret (.inr owned)

/-- The receipt of the mutation: checkpointed, known to the mock, or made now. -/
def obtainReceipt (l : Loaded) (approval : LocalApprovalDecisionRecord)
    (intent : LocalExecutionIntent) (checkpoint : Checkpoint) : Flow LocalExecutionReceipt :=
  match checkpoint.localExecutionReceipt with
  | some receipt => .ret receipt
  | none => do
    match ← Flow.mockGetReceipt intent.idempotencyKey with
    | some receipt => return receipt
    | none => Flow.mockExecute l.proposal l.evidence approval intent

/-- Checkpoint a receipt that is not yet there. -/
def recordReceipt (checkpoint : Checkpoint) (receipt : LocalExecutionReceipt) : Flow Checkpoint :=
  if checkpoint.localExecutionReceipt.isNone then
    saveNext checkpoint .approved
      [("phase", "LOCAL_2"), ("local_execution_receipt_hash", receipt.receiptHash.hex)]
      fun c => { c with localExecutionReceipt := some receipt }
  else .ret checkpoint

/-- The `EXECUTING` block: find or make the receipt, record it, enter `VERIFYING`. -/
def executionBody (cfg : LocalHitlConfig) (l : Loaded) (approval : LocalApprovalDecisionRecord)
    (intent : LocalExecutionIntent) (run : Run) (checkpoint : Checkpoint) :
    Flow (Run × Checkpoint) := do
  let receipt ← obtainReceipt l approval intent checkpoint
  let checkpoint ← recordReceipt checkpoint receipt
  let updatedAt ← Flow.clock
  let run ← Flow.op (.transitionRun run.runId .verifying .executing run.version updatedAt none none)
  appendEvent cfg run .executionAcknowledged receipt.receiptHash
    (Dict.ofPairs [("proposal_id", l.proposal.proposalId.str)])
  return (run, checkpoint)

/-- The handlers of the `EXECUTING` block; `run` is still the `EXECUTING` run when the mock raises. -/
def executionHandler (run : Run) : PyExc → Option (Flow Stage)
  | .localMockPolicy => some <| finish <| persistExecutionFailure run .deniedByPolicy .policyDenial
      "LOCAL_EXECUTION_POLICY_DENIED" "Protected local executor denied the exact action"
  | .localMockConflict => some <| finish <| markRecoveryRequired run "LOCAL_EXECUTION_CONFLICT"
      "Local mock state conflicts with approved evidence"
  | .localMockMutation => some <| finish <| persistExecutionFailure run .dependencyUnavailable
      .dependencyUnavailable "LOCAL_EXECUTOR_UNAVAILABLE" "Protected local executor is unavailable"
  | .cloudAdapterUnavailable => some <| finish <| persistExecutionFailure run
      .dependencyUnavailable .dependencyUnavailable "LOCAL_MOCK_STATE_UNAVAILABLE"
      "Local mock inventory is unavailable"
  | e => if e.isStorage || e.isValueError then
      some <| .ret <| .inl <| controlFailed .recoveryRequirement "LOCAL_RECEIPT_DURABILITY_FAILED"
        "Local execution receipt requires deterministic retry reconciliation"
    else none

def executeIntent (cfg : LocalHitlConfig) (l : Loaded) (approval : LocalApprovalDecisionRecord)
    (run : Run) (checkpoint : Checkpoint) : Flow Stage :=
  if run.state ≠ .executing then .ret (.inr (run, checkpoint))
  else
    match checkpoint.localExecutionIntent with
    | none => finish <| markRecoveryRequired run "LOCAL_EXECUTION_INTENT_MISSING"
        "Executing local run has no durable idempotency ownership"
    | some intent =>
      Flow.tryExcept (executionBody cfg l approval intent run checkpoint) (executionHandler run)
        fun executed => .ret (.inr executed)

/-- The verification of a receipt, made and checkpointed if it is not yet there. -/
def obtainVerification (receipt : LocalExecutionReceipt) (checkpoint : Checkpoint) :
    Flow (LocalVerificationEvidence × Checkpoint) :=
  match checkpoint.localVerification with
  | some verification => .ret (verification, checkpoint)
  | none => do
    let verification ← Flow.mockVerify receipt
    let checkpoint ← saveNext checkpoint .approved
      [("phase", "LOCAL_2"), ("local_verification_hash", verification.verificationHash.hex)]
      fun c => { c with localVerification := some verification }
    return (verification, checkpoint)

/-- The `VERIFYING` block: find or make the verification, record it, enter success. -/
def verificationBody (cfg : LocalHitlConfig) (l : Loaded) (receipt : LocalExecutionReceipt)
    (run : Run) (checkpoint : Checkpoint) : Flow (Run × Checkpoint) := do
  let (verification, checkpoint) ← obtainVerification receipt checkpoint
  let updatedAt ← Flow.clock
  let run ← Flow.op (.transitionRun run.runId .successWithEvidence .verifying run.version updatedAt
    none (some l.proposal.proposalId))
  let checkpoint ← saveNext checkpoint .successWithEvidence
    [("phase", "LOCAL_2"), ("local_outcome", "verified")]
  appendEvent cfg run .verificationRecorded verification.verificationHash
    (Dict.ofPairs [("proposal_id", l.proposal.proposalId.str)])
  return (run, checkpoint)

/-- The handlers of the `VERIFYING` block; `run` is still the `VERIFYING` run when the mock raises. -/
def verificationHandler (run : Run) : PyExc → Option (Flow Stage)
  | .localMockPolicy | .localMockConflict | .localMockMutation =>
    some <| finish <| markVerificationFailed run "LOCAL_VERIFICATION_MISMATCH"
      "Independent local read-back did not prove the approved result"
  | .cloudAdapterUnavailable => some <| finish <| persistExecutionFailure run
      .dependencyUnavailable .dependencyUnavailable "LOCAL_MOCK_STATE_UNAVAILABLE"
      "Local mock inventory is unavailable during verification"
  | e => if e.isStorage || e.isValueError then
      some <| .ret <| .inl <| storageFailed "Local verification proof could not be durably closed"
    else none

def verifyReceipt (cfg : LocalHitlConfig) (l : Loaded) (run : Run) (checkpoint : Checkpoint) :
    Flow Stage :=
  if run.state ≠ .verifying then .ret (.inr (run, checkpoint))
  else
    match checkpoint.localExecutionReceipt with
    | none => finish <| markVerificationFailed run "LOCAL_RECEIPT_MISSING"
        "Verification cannot proceed without a durable execution receipt"
    | some receipt =>
      Flow.tryExcept (verificationBody cfg l receipt run checkpoint) (verificationHandler run)
        fun closed => .ret (.inr closed)

/-- The stages of an approved run, one after the other. -/
def drive (cfg : LocalHitlConfig) (l : Loaded) (approval : LocalApprovalDecisionRecord) (run : Run)
    (checkpoint : Checkpoint) : Flow (ControlResult LocalExecutionCompletion) := do
  match ← establishOwnership cfg l approval run checkpoint with
  | .inl result => return result
  | .inr (run, checkpoint) =>
    match ← executeIntent cfg l approval run checkpoint with
    | .inl result => return result
    | .inr (run, checkpoint) =>
      match ← verifyReceipt cfg l run checkpoint with
      | .inl result => return result
      | .inr (run, checkpoint) => .ofExcept (completedFromCheckpoint run checkpoint false)

/-- `resume` of a denied run: apply the denial and report it. -/
def resumeDenied (l : Loaded) (approval : LocalApprovalDecisionRecord) :
    Flow (ControlResult LocalExecutionCompletion) := do
  match ← applyDecisionState l.run l.checkpoint approval with
  | .failed failure => return .failed failure
  | .succeeded (run, _) =>
    let completion : LocalExecutionCompletion ← .ofExcept <| LocalExecutionCompletion.validate {
      runId := l.run.runId
      proposalId := l.proposal.proposalId
      decision := approval.decision
      finalState := run.state
      approval := approval
      reconciled := l.run.state == .deniedByHuman }
    return .succeeded completion

/-- `resume` of a run that already succeeded: bring its checkpoint up to date and report it. -/
def resumeSucceeded (l : Loaded) : Flow (ControlResult LocalExecutionCompletion) :=
  if l.checkpoint.lastSafeState ≠ .successWithEvidence then
    Flow.tryExcept
      (saveNext l.checkpoint .successWithEvidence
        [("phase", "LOCAL_2"), ("local_outcome", "verified")])
      (Flow.catching (fun e => e.isStorage || e.isValueError) <| .ret <|
        storageFailed "Local success checkpoint could not be reconciled")
      fun checkpoint => .ofExcept (completedFromCheckpoint l.run checkpoint true)
  else .ofExcept (completedFromCheckpoint l.run l.checkpoint true)

/-- Apply the recorded decision to a run that still awaits it. -/
def applyIfAwaiting (l : Loaded) (approval : LocalApprovalDecisionRecord) :
    Flow (ControlResult (Run × Checkpoint)) :=
  if l.run.state = .awaitingApproval then applyDecisionState l.run l.checkpoint approval
  else .ret (.succeeded (l.run, l.checkpoint))

/-- `resume` of an approved run that has not succeeded yet. -/
def resumeApproved (cfg : LocalHitlConfig) (l : Loaded) (approval : LocalApprovalDecisionRecord) :
    Flow (ControlResult LocalExecutionCompletion) := do
  match ← applyIfAwaiting l approval with
  | .failed failure => return .failed failure
  | .succeeded (run, checkpoint) =>
    let now ← Flow.clock
    if l.proposal.expiresAt < now then
      markRecoveryRequired run "LOCAL_APPROVAL_EXPIRED_BEFORE_EXECUTION"
        "Approved proposal expired before protected execution"
    else drive cfg l approval run checkpoint

/-- `resume` of a loaded run. -/
def resumeLoaded (cfg : LocalHitlConfig) (l : Loaded) (principal : LocalOperatorPrincipal) :
    Flow (ControlResult LocalExecutionCompletion) :=
  match l.checkpoint.localApproval with
  | none => .ret <| controlFailed .policyDenial "LOCAL_APPROVAL_REQUIRED"
      "Protected local execution requires a durable human decision"
  | some approval =>
    if approval.actorSessionId ≠ principal.actorSessionId then do
      auditPolicyDenial cfg l.run l.proposal "LOCAL_OPERATOR_SESSION_MISMATCH"
      return controlFailed .policyDenial "LOCAL_OPERATOR_SESSION_MISMATCH"
        "Only the authenticated deciding session may resume execution"
    else if approval.decision = .denied then resumeDenied l approval
    else if l.run.state = .successWithEvidence then resumeSucceeded l
    else resumeApproved cfg l approval

/-- `resume`: execute once, independently verify, and reconcile after restart. -/
def resume (cfg : LocalHitlConfig) (runId : UUID) (principal : LocalOperatorPrincipal) :
    Flow (ControlResult LocalExecutionCompletion) := do
  match ← load runId with
  | .failed failure => return .failed failure
  | .succeeded l => resumeLoaded cfg l principal

end LocalHitlExecutionFlow

end CloudOpsAgent
