/-
  `RecoveryCoordinator`: restart-safe reconciliation with no mutation replay capability.

  `recover` loads one durable snapshot, checks it, and dispatches on the run's state:

      AWAITING_APPROVAL            ─→ recoverAwaitingApproval
      APPROVED                     ─→ recoverApproved
      EXECUTING, RECOVERY_REQUIRED ─→ recoverExecution ─ acknowledged ─→ resumeFromDurableAck
                                                       └ lost ─→ reconcileMissingAck
      VERIFYING                    ─→ recoverVerification
      SUCCESS_WITH_EVIDENCE        ─→ returnVerified
      other terminal, other active ─→ an audited outcome that changes nothing

  Active reconciliation first claims a lease on the run's checkpoint (`claimActiveRecovery`).
  `readBackLoop` is the source's bounded loop; a read-back that shows the target stopped closes the
  run through `completeFromRecoveryObservation`.
-/
import CloudOpsAgent.Verification.Coordinator
import CloudOpsAgent.Agent.ApprovalFlow
import CloudOpsAgent.Nz.Isoformat

namespace CloudOpsAgent

open ClientProg

/-! ## Requests and outcomes -/

inductive RecoveryAction where
  | resumeSafeState | resumeProposal | reconstructApproval | readyForExecution | reconcileLostAck
  | resumeVerification | returnVerifiedResult | preserveTerminal | operatorReview
  deriving DecidableEq

def RecoveryAction.value : RecoveryAction → String
  | resumeSafeState => "RESUME_SAFE_STATE"
  | resumeProposal => "RESUME_PROPOSAL"
  | reconstructApproval => "RECONSTRUCT_APPROVAL"
  | readyForExecution => "READY_FOR_EXECUTION"
  | reconcileLostAck => "RECONCILE_LOST_ACK"
  | resumeVerification => "RESUME_VERIFICATION"
  | returnVerifiedResult => "RETURN_VERIFIED_RESULT"
  | preserveTerminal => "PRESERVE_TERMINAL"
  | operatorReview => "OPERATOR_REVIEW"

inductive RecoveryStatus where
  | resumable | ready | reconciled | terminal | operatorRequired
  deriving DecidableEq

structure RecoveryRequest where
  runId : UUID
  proposalId : Option UUID := none

/-- The part of a recovery decision that its kind determines. -/
structure RecoveryVerdict where
  status : RecoveryStatus
  action : RecoveryAction
  reasonCode : String
  reason : String
  finalState : Option WorkflowState := none
  approvalInterrupt : Option ApprovalInterrupt := none
  verification : Option VerificationCompletion := none
  observedState : Option Ec2InstanceState := none
  evidenceHash : Option Sha256Digest := none
  failure : Option FailureDetail := none
  readyForExecution : Bool := false
  reconciled : Bool := false

/-- Audited, typed result of one deterministic restart decision. -/
structure RecoveryOutcome where
  runId : UUID
  traceId : UUID
  correlationId : UUID
  proposalId : Option UUID
  initialState : WorkflowState
  finalState : WorkflowState
  auditEventId : UUID
  verdict : RecoveryVerdict

/-- `validate_action_payload`: the message of the first check that fails. -/
def RecoveryOutcome.violation (o : RecoveryOutcome) : Option String :=
  if o.verdict.action = .reconstructApproval ∧ o.verdict.approvalInterrupt.isNone then
    some "approval reconstruction requires the durable interrupt"
  else if o.verdict.action = .returnVerifiedResult ∧
      (o.verdict.evidenceHash.isNone ∨ o.finalState ≠ .successWithEvidence) then
    some "verified recovery requires durable success evidence"
  else if o.verdict.readyForExecution ≠ decide (o.verdict.action = .readyForExecution) then
    some "ready_for_execution must match the recovery action"
  else if o.verdict.status = .operatorRequired ∧ o.verdict.failure.isNone then
    some "operator-required recovery needs an explicit failure"
  else none

variable [Sha256]

/-- The collaborators and settings of one coordinator. -/
structure RecoveryConfig where
  approvalReconstructor : Option (UUID → Flow (ControlResult ApprovalInterrupt)) := none
  verificationReconciler : Option (UUID → Flow (ControlResult VerificationCompletion)) := none
  readbackService : Option SandboxTarget := none
  settings : VerificationSettings
  leaseSeconds : Nat := 30
  lease_ok : 1 ≤ leaseSeconds ∧ leaseSeconds ≤ 300

/-- `_Snapshot`: what one recovery call read of durable truth. -/
structure Snapshot where
  run : Run
  proposal : Option ActionProposal
  approval : Option Approval
  idempotency : Option IdempotencyRecord
  checkpoint : Option Checkpoint
  evidence : Option VerificationEvidence

namespace RecoveryCoordinator

/-! ## Failures, audit events and outcomes -/

def failure (code message : String) : FailureDetail := ⟨.recoveryRequirement, code, message, false⟩

def policyFailure (code message : String) : FailureDetail := ⟨.policyDenial, code, message, false⟩

/-- `str(proposal.proposal_id) if proposal else "none"`. -/
def proposalText (proposal : Option ActionProposal) : String :=
  proposal.elim "none" (·.proposalId.str)

/-- `_append_event`. -/
def appendEvent (run : Run) (proposal : Option ActionProposal) (type : AuditEventType)
    (reasonCode : String) (payloadHash : Sha256Digest) : Flow Unit := do
  let eventId ← Flow.freshId
  let timestamp ← Flow.clock
  let _ ← Flow.op <| .appendAuditEvent {
    eventId := eventId
    runId := run.runId
    type := type
    timestamp := timestamp
    source := "nz-recovery"
    redactedPayloadHash := payloadHash
    metadata := Dict.ofPairs [("correlation_id", run.correlationId.str),
      ("proposal_id", proposalText proposal), ("reason_code", reasonCode),
      ("trace_id", run.traceId.str)] }
  return

/-- `_outcome`: audit the decision, then return it. -/
def outcome (run : Run) (proposal : Option ActionProposal) (verdict : RecoveryVerdict)
    (eventType : AuditEventType := .recoveryClassified) :
    Flow (ControlResult RecoveryOutcome) := do
  let finalState := verdict.finalState.getD run.state
  let eventId ← Flow.freshId
  let payloadHash := canonicalDigest <| .obj [("action", .str verdict.action.value),
    ("final_state", .str finalState.value), ("initial_state", .str run.state.value),
    ("proposal_id", .ofOption (fun p => .str p.proposalId.str) proposal),
    ("reason_code", .str verdict.reasonCode), ("run_id", .str run.runId.str)]
  let body : Flow Unit := do
    let timestamp ← Flow.clock
    let _ ← Flow.op <| .appendAuditEvent {
      eventId := eventId
      runId := run.runId
      type := eventType
      timestamp := timestamp
      source := "nz-recovery"
      redactedPayloadHash := payloadHash
      metadata := Dict.ofPairs [("action", verdict.action.value),
        ("correlation_id", run.correlationId.str), ("initial_state", run.state.value),
        ("proposal_id", proposalText proposal), ("reason_code", verdict.reasonCode),
        ("trace_id", run.traceId.str)] }
    return
  let result : RecoveryOutcome := ⟨run.runId, run.traceId, run.correlationId,
    proposal.map (·.proposalId), run.state, finalState, eventId, verdict⟩
  Flow.tryExcept body
    (Flow.catching PyExc.isStorage <| .ret <| controlFailed .dependencyUnavailable
      "RECOVERY_AUDIT_UNAVAILABLE" "Recovery decision could not be durably audited" true)
    fun _ =>
      match result.violation with
      | none => .ret (.succeeded result)
      | some message => .raise (.valueError message)

/-- `_audited_failure`. -/
def auditedFailure (run : Run) (proposal : Option ActionProposal) (failure : FailureDetail)
    (eventType : AuditEventType := .recoveryDeferred) : Flow (ControlResult RecoveryOutcome) :=
  let payloadHash := canonicalDigest <| .obj [("failure_code", .str failure.code),
    ("failure_kind", .str failure.kind.value),
    ("proposal_id", .ofOption (fun p => .str p.proposalId.str) proposal),
    ("run_id", .str run.runId.str), ("state", .str run.state.value)]
  Flow.tryExcept (appendEvent run proposal eventType failure.code payloadHash)
    (Flow.catching PyExc.isStorage <| .ret <| controlFailed .dependencyUnavailable
      "RECOVERY_FAILURE_AUDIT_UNAVAILABLE" "Recovery failure could not be durably audited" true)
    fun _ => .ret (.failed failure)

/-- `_operator_required`. -/
def operatorRequired (run : Run) (proposal : Option ActionProposal) (code message : String)
    (observedState : Option Ec2InstanceState := none) : Flow (ControlResult RecoveryOutcome) :=
  outcome run proposal {
    status := .operatorRequired
    action := .operatorReview
    reasonCode := code
    reason := message
    observedState := observedState
    failure := some (failure code message)
    reconciled := true } .recoveryDeferred

/-- `_mark_recovery_required`: best effort, from `EXECUTING` or `VERIFYING` only. -/
def markRecoveryRequired (run : Run) : Flow Unit :=
  if run.state = .recoveryRequired then .ret ()
  else
    let body : Flow Unit := do
      match ← Flow.op (.getRun run.runId) with
      | none => return
      | some current =>
        if current.state = .executing ∨ current.state = .verifying then
          let updatedAt ← Flow.clock
          let _ ← Flow.op (.transitionRun current.runId .recoveryRequired current.state
            current.version updatedAt none none)
          return
        else return
    Flow.tryExcept body (Flow.catching PyExc.isStorage (.ret ())) .ret

/-! ## The snapshot -/

/-- `if proposal is not None` of one snapshot lookup. -/
def lookupFor {α : Type} (proposal : Option ActionProposal)
    (read : ActionProposal → Flow (Option α)) : Flow (Option α) :=
  match proposal with
  | none => .ret none
  | some p => read p

/-- The proposal a request names, if any. -/
def requestedProposal (request : RecoveryRequest) : Flow (Option ActionProposal) :=
  match request.proposalId with
  | none => .ret none
  | some proposalId => Flow.op (.getProposal proposalId)

/-- The reads of `_load_snapshot` once the run is found. -/
def readRecords (request : RecoveryRequest) (run : Run) : Flow Snapshot := do
  let proposal ← requestedProposal request
  let checkpoint ← Flow.op (.getCheckpoint run.runId)
  let approval ← lookupFor proposal fun p => Flow.op (.getApproval p.proposalId)
  let idempotency ← lookupFor proposal fun p => Flow.op (.getIdempotency (deriveIdempotencyKey p))
  let evidence ← lookupFor proposal fun p =>
    Flow.op (.getVerificationEvidence run.runId p.proposalId)
  return ⟨run, proposal, approval, idempotency, checkpoint, evidence⟩

/-- `_load_snapshot`; `none` when the run does not exist. -/
def readSnapshot (request : RecoveryRequest) : Flow (Option Snapshot) := do
  let some run ← Flow.op (.getRun request.runId)
    | return none
  let snapshot ← readRecords request run
  return some snapshot

/-- The states in which no proposal reference is needed. -/
def proposalOptional (s : WorkflowState) : Bool :=
  s == .received || s == .investigating || s == .evidenceReady

/-- The states in which no checkpoint is needed. -/
def checkpointOptional : WorkflowState → Bool
  | .received | .successWithEvidence | .deniedByHuman | .deniedByPolicy | .executionFailed
  | .verificationFailed | .dependencyUnavailable | .modelOutputInvalid | .ambiguousResult
  | .budgetExhausted => true
  | _ => false

/-- What is wrong with the snapshot's checkpoint.  Membership of an unhashable metadata value in a
    set raises. -/
def validateCheckpoint (run : Run) (proposal : Option ActionProposal) (checkpoint : Checkpoint) :
    Except PyExc (Option FailureDetail) :=
  if checkpoint.runId ≠ run.runId then
    .ok (some (failure "RECOVERY_CHECKPOINT_RUN_MISMATCH"
      "Checkpoint belongs to another durable run"))
  else
    let metadata := checkpoint.resumeMetadata.lookup "proposal_id"
    if proposal.isSome ∧ metadata.any (!·.hashable) then
      .error (.typeError "unhashable type")
    else if proposal.any fun p => metadata.any fun j =>
        !(j matches .null) && j.str? != some p.proposalId.str then
      .ok (some (failure "RECOVERY_CHECKPOINT_PROPOSAL_MISMATCH"
        "Checkpoint proposal metadata is inconsistent"))
    else if run.state = .awaitingApproval ∧ checkpoint.lastSafeState ≠ .awaitingApproval then
      .ok (some (failure "RECOVERY_APPROVAL_CHECKPOINT_INVALID"
        "Awaiting approval is missing its exact safe checkpoint"))
    else .ok none

/-- `_validate_snapshot`. -/
def validateSnapshot (request : RecoveryRequest) (s : Snapshot) :
    Except PyExc (Option FailureDetail) :=
  if !proposalOptional s.run.state ∧ s.proposal.isNone then
    .ok (some (failure "RECOVERY_PROPOSAL_REQUIRED"
      "This durable workflow state requires an exact proposal reference"))
  else if s.proposal.any fun p => p.runId != s.run.runId || some p.proposalId != request.proposalId then
    .ok (some (policyFailure "RECOVERY_PROPOSAL_RUN_MISMATCH"
      "Proposal and run references do not share one durable identity"))
  else
    match s.checkpoint with
    | none =>
      if checkpointOptional s.run.state then .ok none
      else .ok (some (failure "RECOVERY_CHECKPOINT_REQUIRED"
        "Active durable work requires a versioned checkpoint"))
    | some checkpoint => validateCheckpoint s.run s.proposal checkpoint

/-- `_positive_approval_matches`. -/
def positiveApprovalMatches (run : Run) (proposal : ActionProposal) (approval : Option Approval) :
    Bool :=
  approval.any fun a => a.decision == .approved && a.proposalId == proposal.proposalId &&
    a.runId == run.runId && a.action == proposal.action && a.target == proposal.target &&
    a.evidenceHash == proposal.evidenceHash

/-! ## The lease -/

/-- The checkpoint of a claim made at `now`. -/
def claimFields (cfg : RecoveryConfig) (run : Run) (proposal : ActionProposal)
    (checkpoint : Checkpoint) (now : Time) (claimId : UUID) : CheckpointFields where
  runId := checkpoint.runId
  lastSafeState := checkpoint.lastSafeState
  resumeMetadata := (((checkpoint.resumeMetadata.insert "recovery_claim_id" (.str claimId.str)).insert
    "recovery_claim_state" (.str run.state.value)).insert "recovery_lease_expires_at"
    (.str (Time.isoformat (now + seconds cfg.leaseSeconds)))).insert "recovery_proposal_id"
    (.str proposal.proposalId.str)
  toolResultHashes := checkpoint.toolResultHashes
  createdAt := now
  version := checkpoint.version + 1

/-- Whether a lease found in the checkpoint stands in the way at `now`. -/
def leaseFailure (checkpoint : Checkpoint) (now : Time) : Option FailureDetail :=
  match (checkpoint.resumeMetadata.lookup "recovery_lease_expires_at").bind Json.str? with
  | none => none
  | some raw =>
    match Time.fromisoformat raw with
    | none => some (failure "RECOVERY_LEASE_CORRUPT"
        "Recovery checkpoint contains an invalid lease timestamp")
    | some expiry =>
      if now < expiry then some (failure "RECOVERY_ALREADY_CLAIMED"
        "Another bounded recovery attempt currently owns this checkpoint")
      else none

def claimHandler : PyExc → Option (Flow (ControlResult Checkpoint))
  | .storageConflict _ => some <| .ret <| .failed (failure "RECOVERY_CONCURRENT_CLAIM_CONFLICT"
      "Concurrent recovery attempt won the optimistic checkpoint claim")
  | .storageDependency _ => some <| .ret <| controlFailed .dependencyUnavailable
      "RECOVERY_CLAIM_STORAGE_UNAVAILABLE" "Recovery checkpoint claim could not reach durable truth"
      true
  | _ => none

/-- `_claim_active_recovery`. -/
def claimActiveRecovery (cfg : RecoveryConfig) (run : Run) (proposal : ActionProposal)
    (checkpoint : Option Checkpoint) : Flow (ControlResult Checkpoint) :=
  match checkpoint with
  | none => .ret <| .failed (failure "RECOVERY_CLAIM_CHECKPOINT_MISSING"
      "Active reconciliation requires a durable checkpoint")
  | some checkpoint => do
    let now ← Flow.clock
    match leaseFailure checkpoint now with
    | some failure => return .failed failure
    | none =>
      let claimId ← Flow.freshId
      if Time.datetimeMax < now + seconds cfg.leaseSeconds then .raise (.other "date value out of range")
      else
        let claimed ← .ofExcept <| Checkpoint.validate <|
          claimFields cfg run proposal checkpoint now claimId
        Flow.tryExcept (Flow.op (.saveCheckpoint claimed (some checkpoint.version))) claimHandler
          fun saved => .ret (.succeeded saved)

/-! ## The success exits -/

/-- A verdict that returns verified truth. -/
def verifiedVerdict (reasonCode reason : String) (evidenceHash : Sha256Digest)
    (verification : Option VerificationCompletion := none)
    (observedState : Option Ec2InstanceState := none) : RecoveryVerdict where
  status := .reconciled
  action := .returnVerifiedResult
  reasonCode := reasonCode
  reason := reason
  finalState := some .successWithEvidence
  verification := verification
  observedState := observedState
  evidenceHash := some evidenceHash
  reconciled := true

/-- Back into `VERIFYING` from `RECOVERY_REQUIRED`. -/
def reenterVerifying (run : Run) : Flow Run :=
  if run.state = .recoveryRequired then do
    let updatedAt ← Flow.clock
    Flow.op (.transitionRun run.runId .verifying .recoveryRequired run.version updatedAt none none)
  else .ret run

/-- From `VERIFYING` into success. -/
def enterSuccess (run : Run) (proposal : ActionProposal) : Flow Run :=
  if run.state = .verifying then do
    let updatedAt ← Flow.clock
    Flow.op (.transitionRun run.runId .successWithEvidence .verifying run.version updatedAt none
      (some proposal.proposalId))
  else .ret run

/-- The transitions of `_return_verified`. -/
def closeVerified (run : Run) (proposal : ActionProposal) : Flow Run := do
  let run ← reenterVerifying run
  enterSuccess run proposal

/-- `_return_verified`. -/
def returnVerified (s : Snapshot) : Flow (ControlResult RecoveryOutcome) :=
  match s.proposal, s.evidence, s.idempotency with
  | some proposal, some evidence, some record =>
    if record.status ≠ .completed ∨ ¬(record.actionResult.any fun result =>
        result.evidenceHash == some evidence.evidenceHash) then
      auditedFailure s.run s.proposal (failure "RECOVERY_VERIFIED_RESULT_INCONSISTENT"
        "Idempotency result and verification evidence do not match")
    else
      Flow.tryExcept (closeVerified s.run proposal)
        (Flow.catching PyExc.isStorage <| auditedFailure s.run s.proposal <|
          failure "RECOVERY_SUCCESS_RECONCILIATION_CONFLICT"
            "Existing verified proof could not reconcile the durable run state")
        fun run =>
          if run.state ≠ .successWithEvidence then
            operatorRequired run s.proposal "RECOVERY_SUCCESS_STATE_INVALID"
              "Verified result exists in a state that cannot be safely closed"
          else
            outcome s.run s.proposal
              { verifiedVerdict "VERIFIED_RESULT_RETURNED_IDEMPOTENTLY"
                  "Existing durable verification proof was returned without new provider work"
                  evidence.evidenceHash with
                finalState := some run.state } .recoveryCompleted
  | _, _, _ => auditedFailure s.run s.proposal (failure "RECOVERY_VERIFIED_EVIDENCE_MISSING"
      "Completed durable work is missing its independent proof")

/-- Enter `VERIFYING` from the state recovery found the run in. -/
def enterVerifying (run : Run) : Flow Run :=
  if run.state = .executing ∨ run.state = .recoveryRequired then do
    let updatedAt ← Flow.clock
    Flow.op (.transitionRun run.runId .verifying run.state run.version updatedAt none none)
  else .ret run

/-- The writes of `_complete_from_recovery_observation` once the run is `VERIFYING`. -/
def completeBody (proposal : ActionProposal) (observation : VerificationObservation) (run : Run) :
    Flow (VerificationEvidence × Run) := do
  let evidenceId ← Flow.freshId
  let verifiedAt ← Flow.clock
  let evidence ← .ofExcept (VerificationEvidence.createFromRecovery evidenceId proposal run
    verifiedAt observation.observationHash)
  let evidence : VerificationEvidence ← Flow.op (.createVerificationEvidence evidence)
  let completedAt ← Flow.clock
  let _ ← Flow.op (.completeIdempotency (deriveIdempotencyKey proposal)
    (.stopped evidence.evidenceHash) completedAt .registered)
  appendEvent run (some proposal) .recoveryCompleted "LOST_ACK_STOPPED_VERIFIED"
    evidence.evidenceHash
  let updatedAt ← Flow.clock
  let run ← Flow.op (.transitionRun run.runId .successWithEvidence .verifying run.version updatedAt
    none (some proposal.proposalId))
  return (evidence, run)

/-- The failure of a completion.  `run` is what the `try` block had assigned when it raised; the
    handler reads nothing of it but the id and whether it still is `RECOVERY_REQUIRED`. -/
def completeFailed (s : Snapshot) (run : Run) : Flow (ControlResult RecoveryOutcome) := do
  markRecoveryRequired run
  auditedFailure s.run s.proposal (failure "RECOVERY_EVIDENCE_DURABILITY_FAILED"
    "Stopped read-back could not satisfy every durable success invariant")

def isStorageOrValue (e : PyExc) : Bool := e.isStorage || e.isValueError

/-- `_complete_from_recovery_observation`: the transition to `VERIFYING` and the writes after it are
    one `try` block of the source, split here because its handler sees the run assigned so far. -/
def completeFromRecoveryObservation (s : Snapshot) (proposal : ActionProposal)
    (observation : VerificationObservation) : Flow (ControlResult RecoveryOutcome) :=
  Flow.tryExcept (enterVerifying s.run)
    (Flow.catching isStorageOrValue (completeFailed s s.run))
    fun run =>
      Flow.tryExcept (completeBody proposal observation run)
        (Flow.catching isStorageOrValue (completeFailed s run))
        fun (evidence, run) =>
          outcome s.run s.proposal
            { verifiedVerdict "LOST_ACK_RECONCILED_FROM_READ_BACK"
                "Independent stopped-state proof closed the approved lost-ACK action"
                evidence.evidenceHash none (some observation.observedState) with
              finalState := some run.state } .recoveryCompleted

/-- Run the configured read-only verification, and report what it completed. -/
def continueVerification (cfg : RecoveryConfig) (s : Snapshot) (run : Run)
    (proposal : ActionProposal) (unavailable reasonCode reason : String) :
    Flow (ControlResult RecoveryOutcome) :=
  match cfg.verificationReconciler with
  | none => operatorRequired run s.proposal "VERIFICATION_RECONCILER_UNAVAILABLE" unavailable
  | some reconcile => do
    match ← reconcile proposal.proposalId with
    | .failed failure => auditedFailure run s.proposal failure
    | .succeeded completion =>
      outcome s.run s.proposal
        (verifiedVerdict reasonCode reason completion.evidence.evidenceHash (some completion))
        .recoveryCompleted

/-! ## Reconciling active work -/

/-- `_resume_from_durable_ack`. -/
def resumeFromDurableAck (cfg : RecoveryConfig) (s : Snapshot) (proposal : ActionProposal) :
    Flow (ControlResult RecoveryOutcome) :=
  Flow.tryExcept (enterVerifying s.run)
    (Flow.catching PyExc.isStorage <| auditedFailure s.run s.proposal <|
      failure "RECOVERY_VERIFYING_TRANSITION_CONFLICT"
        "Durable acknowledgement could not safely resume verification")
    fun run => continueVerification cfg s run proposal
      "Durable acknowledgement is safe, but read-only verification is not configured"
      "DURABLE_ACK_VERIFICATION_COMPLETED"
      "Durable acknowledgement resumed bounded read-only verification"

/-- `_append_observation_event`, as the failure it may answer. -/
def appendObservationEvent (run : Run) (proposal : ActionProposal)
    (observation : VerificationObservation) : Flow (Option FailureDetail) :=
  Flow.tryExcept
    (appendEvent run (some proposal) .recoveryObserved
      ("LOST_ACK_" ++ (observation.observedState.value.toUpper.replace "-" "_"))
      observation.observationHash)
    (Flow.catching PyExc.isStorage <| .ret <| some ⟨.dependencyUnavailable,
      "RECOVERY_OBSERVATION_AUDIT_UNAVAILABLE",
      "Read-only recovery observation could not be durably audited", true⟩)
    fun _ => .ret none

/-- The bounded read-back loop of `_reconcile_missing_ack`, from attempt `attempt + 1` on, with
    `left` attempts left and `last` the state observed before. -/
def readBackLoop (cfg : RecoveryConfig) (target : SandboxTarget) (s : Snapshot)
    (proposal : ActionProposal) :
    (left attempt : Nat) → Option Ec2InstanceState → Flow (ControlResult RecoveryOutcome)
  | 0, _, last => do
    markRecoveryRequired s.run
    operatorRequired s.run s.proposal "LOST_ACK_STILL_TRANSITIONING"
      "Bounded read-only reconciliation ended without a final state" last
  | left + 1, attempt, _ => do
    let observedAt ← Flow.clock
    match ← VerifyInstanceStateService.observe target proposal (.fromRun s.run) observedAt
        attempt with
    | .failed failure =>
      markRecoveryRequired s.run
      auditedFailure s.run s.proposal failure
    | .succeeded observation =>
      match ← appendObservationEvent s.run proposal observation with
      | some failure =>
        markRecoveryRequired s.run
        return .failed failure
      | none =>
        match observation.observedState with
        | .stopped => completeFromRecoveryObservation s proposal observation
        | .running =>
          markRecoveryRequired s.run
          operatorRequired s.run s.proposal "LOST_ACK_TARGET_STILL_RUNNING"
            "Running state after ambiguous acknowledgement forbids blind replay"
            (some observation.observedState)
        | .stopping =>
          if left ≠ 0 then Flow.sleep cfg.settings.intervalSeconds
          readBackLoop cfg target s proposal left (attempt + 1) (some observation.observedState)
        | _ =>
          markRecoveryRequired s.run
          operatorRequired s.run s.proposal "LOST_ACK_STATE_AMBIGUOUS"
            "Read-only recovery observed an unsafe or ambiguous EC2 state"
            (some observation.observedState)

/-- `_reconcile_missing_ack`. -/
def reconcileMissingAck (cfg : RecoveryConfig) (s : Snapshot) (proposal : ActionProposal) :
    Flow (ControlResult RecoveryOutcome) :=
  match cfg.readbackService with
  | none => operatorRequired s.run s.proposal "LIVE_RECONCILIATION_NOT_CONFIGURED"
      "Lost acknowledgement remains safe and requires read-only reconciliation"
  | some target => readBackLoop cfg target s proposal cfg.settings.maxAttempts 0 none

/-- `_recover_awaiting_approval`. -/
def recoverAwaitingApproval (cfg : RecoveryConfig) (s : Snapshot) (proposal : ActionProposal) :
    Flow (ControlResult RecoveryOutcome) :=
  if s.approval.isSome then
    auditedFailure s.run s.proposal (failure "AWAITING_APPROVAL_HAS_DECISION"
      "Awaiting run conflicts with an existing durable decision")
  else if proposal.state ≠ .awaitingApproval then
    auditedFailure s.run s.proposal (failure "AWAITING_APPROVAL_PROPOSAL_INVALID"
      "Awaiting run and proposal state are inconsistent")
  else
    match cfg.approvalReconstructor with
    | none => operatorRequired s.run s.proposal "APPROVAL_RECONSTRUCTOR_UNAVAILABLE"
        "Durable approval boundary exists but its caller adapter is unavailable"
    | some reconstruct => do
      match ← reconstruct proposal.proposalId with
      | .failed failure => auditedFailure s.run s.proposal failure
      | .succeeded interrupt =>
        outcome s.run s.proposal {
          status := .resumable
          action := .reconstructApproval
          reasonCode := "APPROVAL_INTERRUPT_RECONSTRUCTED"
          reason := "Exact proposal-bound human approval boundary was reconstructed"
          approvalInterrupt := some interrupt
          reconciled := true }

/-- `_recover_approved`. -/
def recoverApproved (s : Snapshot) (proposal : ActionProposal) :
    Flow (ControlResult RecoveryOutcome) :=
  if !positiveApprovalMatches s.run proposal s.approval then
    auditedFailure s.run s.proposal (policyFailure "APPROVED_STATE_BINDING_INVALID"
      "Approved state lacks its exact positive durable decision")
  else if s.idempotency.isNone then
    outcome s.run s.proposal {
      status := .ready
      action := .readyForExecution
      reasonCode := "APPROVAL_READY_NO_EXECUTION_CLAIM"
      reason := "Durable approval is valid and no execution ownership was claimed"
      readyForExecution := true
      reconciled := true }
  else
    operatorRequired s.run s.proposal "APPROVED_WITH_UNRESOLVED_CLAIM"
      "Execution ownership exists but durable state does not prove an API request"

/-- `_recover_execution`. -/
def recoverExecution (cfg : RecoveryConfig) (s : Snapshot) (proposal : ActionProposal) :
    Flow (ControlResult RecoveryOutcome) :=
  if !positiveApprovalMatches s.run proposal s.approval then
    auditedFailure s.run s.proposal (policyFailure "RECOVERY_APPROVAL_BINDING_INVALID"
      "Lost-ACK recovery requires the exact positive durable approval")
  else
    match s.idempotency with
    | none => operatorRequired s.run s.proposal "RECOVERY_IDEMPOTENCY_MISSING"
        "Executing state lacks durable semantic execution ownership"
    | some record =>
      if record.status = .completed then returnVerified s
      else if record.status ≠ .registered then
        operatorRequired s.run s.proposal "RECOVERY_IDEMPOTENCY_UNRESOLVED"
          "Durable action result requires explicit operator reconciliation"
      else do
        match ← claimActiveRecovery cfg s.run proposal s.checkpoint with
        | .failed failure => auditedFailure s.run s.proposal failure .recoveryDeferred
        | .succeeded _ =>
          if record.executionAcknowledgement.isSome then resumeFromDurableAck cfg s proposal
          else reconcileMissingAck cfg s proposal

/-- `_recover_verification`. -/
def recoverVerification (cfg : RecoveryConfig) (s : Snapshot) (proposal : ActionProposal) :
    Flow (ControlResult RecoveryOutcome) :=
  match s.idempotency with
  | none => operatorRequired s.run s.proposal "VERIFYING_IDEMPOTENCY_MISSING"
      "Verification restart lacks durable execution ownership"
  | some record =>
    if record.status = .completed then returnVerified s
    else do
      match ← claimActiveRecovery cfg s.run proposal s.checkpoint with
      | .failed failure => auditedFailure s.run s.proposal failure .recoveryDeferred
      | .succeeded _ =>
        continueVerification cfg s s.run proposal
          "Read-only verification continuation is not configured" "VERIFYING_RESTART_COMPLETED"
          "Bounded read-only verification persisted final proof after restart"

/-! ## `recover` -/

/-- The dispatch of `recover` for a run whose state needs a proposal. -/
def recoverProposal (cfg : RecoveryConfig) (s : Snapshot) (proposal : ActionProposal) :
    Flow (ControlResult RecoveryOutcome) :=
  match s.run.state with
  | .remediationProposed =>
    outcome s.run s.proposal {
      status := .resumable
      action := .resumeProposal
      reasonCode := "PROPOSAL_RECONSTRUCTED"
      reason := "Durable proposal remains unapproved and resumable" }
  | .awaitingApproval => recoverAwaitingApproval cfg s proposal
  | .approved => recoverApproved s proposal
  | .executing | .recoveryRequired => recoverExecution cfg s proposal
  | .verifying => recoverVerification cfg s proposal
  | .successWithEvidence => returnVerified s
  | _ =>
    outcome s.run s.proposal {
      status := .terminal
      action := .preserveTerminal
      reasonCode := "TERMINAL_STATE_PRESERVED"
      reason := "Durable terminal state remains closed after restart" }

/-- `recover` once its snapshot is loaded and consistent. -/
def recoverSnapshot (cfg : RecoveryConfig) (s : Snapshot) : Flow (ControlResult RecoveryOutcome) :=
  if proposalOptional s.run.state then
    outcome s.run s.proposal {
      status := .resumable
      action := .resumeSafeState
      reasonCode := "SAFE_STATE_RESUMABLE"
      reason := "Durable state and checkpoint permit normal non-mutation continuation" }
  else
    match s.proposal with
    -- `validateSnapshot` has refused this state without a proposal
    | none => .raise (.other "AssertionError")
    | some proposal => recoverProposal cfg s proposal

/-- `recover`: reconcile one durable reference. -/
def recover (cfg : RecoveryConfig) (request : RecoveryRequest) :
    Flow (ControlResult RecoveryOutcome) :=
  Flow.tryExcept (readSnapshot request)
    (Flow.catching PyExc.isDependency <| .ret <| controlFailed .dependencyUnavailable
      "RECOVERY_DURABLE_TRUTH_UNAVAILABLE"
      "Authoritative durable truth is unavailable during recovery" true)
    fun
    | none => .ret <| controlFailed .validationFailure "RECOVERY_RUN_NOT_FOUND"
        "Durable run is required for recovery"
    | some s => do
      match ← Prog.ofExcept (validateSnapshot request s) with
      | some failure => auditedFailure s.run s.proposal failure
      | none => recoverSnapshot cfg s

end RecoveryCoordinator

end CloudOpsAgent
