/-
  Independent read-back, and `BoundedVerificationCoordinator`.

  `VerifyInstanceStateService.observe` makes one exact-target EC2 inspection and turns it into an
  observation whose hash covers the target, the ids, the state and the attempt.  `verify` polls it
  within a fixed budget and persists proof before success:

      verify ─ SUCCESS already ─→ reconcileSuccess
             ├ COMPLETED record ─→ finalizeExistingEvidence
             └ poll ─ STOPPED ─→ persistSuccess
                    ├ mismatch, provider failure, budget spent ─→ failVerification
                    └ STOPPING ─→ poll again

  `poll` is the source's `for attempt in range(1, max_attempts + 1)`, by recursion on the attempts
  that are left.
-/
import CloudOpsAgent.Remediation.Coordinator

namespace CloudOpsAgent

/-! ## Settings and the read-back service -/

/-- `VerificationSettings`: a small deterministic polling budget. -/
structure VerificationSettings where
  maxAttempts : Nat := 3
  intervalSeconds : Nat := 1
  attempts_ok : 1 ≤ maxAttempts ∧ maxAttempts ≤ 10
  interval_ok : intervalSeconds ≤ 30

/-- The configured EC2 target and its tag proof; its region is fixed by its type. -/
structure SandboxTarget where
  instanceId : String
  requiredTagKey : String := "AIOACloudOpsSandbox"
  requiredTagValue : String := "true"
  deriving DecidableEq

def SandboxTarget.region (_ : SandboxTarget) : String := "eu-central-1"

/-- The proposal's target is the configured one. -/
def SandboxTarget.Covers (t : SandboxTarget) (target : ActionTarget) : Prop :=
  target.resourceId = t.instanceId ∧ target.region = t.region ∧
    target.requiredTagKey = t.requiredTagKey ∧ target.requiredTagValue = t.requiredTagValue

instance (t : SandboxTarget) (target : ActionTarget) : Decidable (t.Covers target) :=
  inferInstanceAs (Decidable (_ ∧ _))

/-- One normalized provider read, never a mutation acknowledgement.  The disposition is the one the
    validator demands of the observed state. -/
structure VerificationObservation where
  proposalId : UUID
  runId : UUID
  traceId : UUID
  correlationId : UUID
  target : ActionTarget
  observedState : Ec2InstanceState
  observedAt : Time
  attempt : Nat
  inspectionEvidenceHash : Sha256Digest
  observationHash : Sha256Digest
  attempt_pos : 0 < attempt

/-- What the record holds; its proofs are determined by that. -/
abbrev VerificationObservation.data (r : VerificationObservation) :=
  ((r.proposalId, r.runId, r.traceId, r.correlationId, r.target),
   (r.observedState, r.observedAt, r.attempt, r.inspectionEvidenceHash, r.observationHash))

theorem VerificationObservation.data_inj {a b : VerificationObservation} :
    a.data = b.data ↔ a = b := by
  cases a
  cases b
  simp only [data, Prod.mk.injEq, mk.injEq, and_assoc]

set_option synthInstance.maxSize 512 in
instance : DecidableEq VerificationObservation := fun a b =>
  decidable_of_iff (a.data = b.data) VerificationObservation.data_inj

def VerificationObservation.disposition (o : VerificationObservation) : VerificationDisposition :=
  o.observedState.disposition

/-- What an observation hash is computed over. -/
def observationPayload (proposal : ActionProposal) (identity : InvestigationIdentity)
    (inspection : InstanceInspection) (observedAt : Time) (attempt : Nat) : Json :=
  .obj [("proposal_id", .str proposal.proposalId.str), ("run_id", .str identity.runId.str),
    ("trace_id", .str identity.traceId.str), ("correlation_id", .str identity.correlationId.str),
    ("target", proposal.target.toJson),
    ("disposition", .str inspection.state.disposition.value),
    ("observed_state", .str inspection.state.value),
    ("observed_at", .str (Time.isoformat observedAt)), ("attempt", .int attempt),
    ("inspection_evidence_hash", .str inspection.evidenceDigest.hex)]

variable [Sha256]

/-- `VerifyInstanceStateService.observe`, for attempt `attempt + 1`. -/
def VerifyInstanceStateService.observe (target : SandboxTarget) (proposal : ActionProposal)
    (identity : InvestigationIdentity) (observedAt : Time) (attempt : Nat) :
    Flow (ControlResult VerificationObservation) :=
  if target.Covers proposal.target then do
    match ← Flow.inspect proposal.target.resourceId identity with
    | .failed failure => return .failed failure
    | .succeeded inspection =>
      return .succeeded {
        proposalId := proposal.proposalId
        runId := identity.runId
        traceId := identity.traceId
        correlationId := identity.correlationId
        target := proposal.target
        observedState := inspection.state
        observedAt := observedAt
        attempt := attempt + 1
        inspectionEvidenceHash := inspection.evidenceDigest
        observationHash :=
          canonicalDigest (observationPayload proposal identity inspection observedAt (attempt + 1))
        attempt_pos := Nat.succ_pos _ }
  else
    return controlFailed .policyDenial "VERIFICATION_SCOPE_DENIED"
      "Durable proposal is outside configured sandbox scope"

/-- Durable final proof, returned only after the success transition. -/
structure VerificationCompletion where
  evidence : VerificationEvidence
  attempts : Nat
  reconciled : Bool := false

/-- `final_state: Literal[SUCCESS_WITH_EVIDENCE]`. -/
def VerificationCompletion.finalState (_ : VerificationCompletion) : WorkflowState :=
  .successWithEvidence

namespace BoundedVerificationCoordinator

/-! ## Shared steps -/

/-- `_append_event`. -/
def appendEvent (run : Run) (type : AuditEventType) (payloadHash : Sha256Digest)
    (metadata : Dict String String) : Flow Unit := do
  let eventId ← Flow.freshId
  let timestamp ← Flow.clock
  let _ ← Flow.op <| .appendAuditEvent {
    eventId := eventId
    runId := run.runId
    type := type
    timestamp := timestamp
    source := "nz-verification"
    toolName := some "verify_instance_state"
    redactedPayloadHash := payloadHash
    metadata := (metadata.insert "trace_id" run.traceId.str).insert "correlation_id"
      run.correlationId.str }
  return

/-- `_mark_recovery_required`: best effort, from `VERIFYING` only. -/
def markRecoveryRequired (run : Run) : Flow Unit :=
  let body : Flow Unit := do
    match ← Flow.op (.getRun run.runId) with
    | none => return
    | some current =>
      if current.state = .verifying then
        let updatedAt ← Flow.clock
        let _ ← Flow.op (.transitionRun current.runId .recoveryRequired .verifying current.version
          updatedAt none none)
        return
      else return
  Flow.tryExcept body (Flow.catching PyExc.isStorage (.ret ())) .ret

/-- `_fail_verification`. -/
def failVerification (run : Run) (key : String) (failure : FailureDetail) :
    Flow (ControlResult VerificationCompletion) :=
  let body : Flow Unit := do
    let completedAt ← Flow.clock
    let result : ActionResult := ⟨.failed, none, none, some failure, by simp⟩
    let _ ← Flow.op (.completeIdempotency key result completedAt .registered)
    let updatedAt ← Flow.clock
    let _ ← Flow.op (.transitionRun run.runId failure.kind.workflowState .verifying run.version
      updatedAt none none)
    return
  let handler : Flow (ControlResult VerificationCompletion) := do
    markRecoveryRequired run
    return controlFailed .recoveryRequirement "VERIFICATION_FAILURE_DURABILITY_FAILED"
      "Verification failure could not be durably reconciled"
  Flow.tryExcept body (Flow.catching PyExc.isStorage handler) fun _ => .ret (.failed failure)

/-! ## The success exits -/

/-- The writes of `_persist_success`: evidence, result, audit, transition; the stored evidence. -/
def persistSuccessBody (run : Run) (proposal : ActionProposal) (evidence : VerificationEvidence) :
    Flow VerificationEvidence := do
  let evidence : VerificationEvidence ← Flow.op (.createVerificationEvidence evidence)
  let completedAt ← Flow.clock
  let _ ← Flow.op (.completeIdempotency (deriveIdempotencyKey proposal)
    (.stopped evidence.evidenceHash) completedAt .registered)
  appendEvent run .verificationRecorded evidence.evidenceHash
    (Dict.ofPairs [("proposal_id", proposal.proposalId.str),
      ("transition_candidate", WorkflowState.successWithEvidence.value)])
  let updatedAt ← Flow.clock
  let _ ← Flow.op (.transitionRun run.runId .successWithEvidence .verifying run.version updatedAt
    none (some proposal.proposalId))
  return evidence

/-- `_persist_success`. -/
def persistSuccess (run : Run) (proposal : ActionProposal)
    (acknowledgement : ExecutionAcknowledgement) (observation : VerificationObservation) :
    Flow (ControlResult VerificationCompletion) := do
  let verifiedAt ← Flow.clock
  let evidenceId ← Flow.freshId
  let evidence ← .ofExcept (VerificationEvidence.create evidenceId proposal run verifiedAt
    acknowledgement observation.observationHash)
  let handler : Flow (ControlResult VerificationCompletion) := do
    markRecoveryRequired run
    return controlFailed .recoveryRequirement "VERIFICATION_EVIDENCE_DURABILITY_FAILED"
      "Verified provider state could not be durably closed as success"
  Flow.tryExcept (persistSuccessBody run proposal evidence)
    (Flow.catching PyExc.isStorage handler)
    fun evidence => .ret (.succeeded ⟨evidence, observation.attempt, false⟩)

/-- `_finalize_existing_evidence`. -/
def finalizeExistingEvidence (run : Run) (proposalId : UUID) :
    Flow (ControlResult VerificationCompletion) :=
  let body : Flow (Option VerificationEvidence) := do
    let some evidence ← Flow.op (.getVerificationEvidence run.runId proposalId)
      | return none
    appendEvent run .verificationRecorded evidence.evidenceHash
      (Dict.ofPairs [("proposal_id", proposalId.str), ("reconciled", "true"),
        ("transition_candidate", WorkflowState.successWithEvidence.value)])
    let updatedAt ← Flow.clock
    let _ ← Flow.op (.transitionRun run.runId .successWithEvidence .verifying run.version updatedAt
      none (some proposalId))
    return some evidence
  let handler : Flow (ControlResult VerificationCompletion) := do
    markRecoveryRequired run
    return controlFailed .recoveryRequirement "SUCCESS_TRANSITION_RECONCILIATION_FAILED"
      "Durable success transition requires recovery"
  Flow.tryExcept body (Flow.catching PyExc.isStorage handler)
    fun
    | none => .ret <| controlFailed .recoveryRequirement "COMPLETED_RESULT_MISSING_EVIDENCE"
        "Completed idempotency record lacks durable verification evidence"
    | some evidence => .ret (.succeeded ⟨evidence, 0, true⟩)

/-- `_reconcile_success`. -/
def reconcileSuccess (run : Run) (proposalId : UUID) :
    Flow (ControlResult VerificationCompletion) :=
  Flow.tryExcept (Flow.op (.getVerificationEvidence run.runId proposalId))
    (Flow.catching PyExc.isDependency <| .ret <| controlFailed .dependencyUnavailable
      "VERIFIED_EVIDENCE_LOOKUP_UNAVAILABLE" "Durable verified evidence lookup is unavailable" true)
    fun
    | none => .ret <| controlFailed .recoveryRequirement "SUCCESS_EVIDENCE_MISSING"
        "SUCCESS_WITH_EVIDENCE lacks its durable proof"
    | some evidence => .ret (.succeeded ⟨evidence, 0, true⟩)

/-! ## Polling -/

/-- The audit metadata of one observation. -/
def observationMetadata (proposalId : UUID) (o : VerificationObservation) : Dict String String :=
  Dict.ofPairs [("attempt", toString o.attempt), ("disposition", o.disposition.value),
    ("observed_state", o.observedState.value), ("proposal_id", proposalId.str)]

/-- The polling loop, from attempt `attempt + 1` on, with `left` attempts left. -/
def poll (settings : VerificationSettings) (target : SandboxTarget) (proposal : ActionProposal)
    (proposalId : UUID) (run : Run) (idempotency : IdempotencyRecord)
    (acknowledgement : ExecutionAcknowledgement) :
    (left attempt : Nat) → Flow (ControlResult VerificationCompletion)
  | 0, _ => failVerification run idempotency.idempotencyKey ⟨.verificationFailure,
      "VERIFICATION_TIMEOUT", "EC2 remained transitional beyond the bounded verification budget",
      true⟩
  | left + 1, attempt => do
    let observedAt ← Flow.clock
    match ← VerifyInstanceStateService.observe target proposal (.fromRun run) observedAt attempt with
    | .failed failure => failVerification run idempotency.idempotencyKey failure
    | .succeeded observation =>
      let handler : Flow (ControlResult VerificationCompletion) := do
        markRecoveryRequired run
        return controlFailed .recoveryRequirement "VERIFICATION_OBSERVATION_DURABILITY_FAILED"
          "Independent provider observation could not be durably audited"
      Flow.tryExcept
        (appendEvent run .verificationObserved observation.observationHash
          (observationMetadata proposalId observation))
        (Flow.catching PyExc.isStorage handler)
        fun _ =>
          match observation.disposition with
          | .verified => persistSuccess run proposal acknowledgement observation
          | .mismatch => failVerification run idempotency.idempotencyKey ⟨.verificationFailure,
              "VERIFICATION_STATE_MISMATCH",
              "Independent EC2 state does not match the expected stopped state", false⟩
          | .stillTransitioning => do
            if left ≠ 0 then Flow.sleep settings.intervalSeconds
            poll settings target proposal proposalId run idempotency acknowledgement left
              (attempt + 1)

/-! ## `verify` -/

/-- What `verify` reads first: the proposal, its run and the record of its action. -/
def lookup (proposalId : UUID) :
    Flow (ControlResult (ActionProposal × Run × Option IdempotencyRecord)) := do
  let some proposal ← Flow.op (.getProposal proposalId)
    | return controlFailed .validationFailure "VERIFICATION_PROPOSAL_NOT_FOUND"
        "Durable proposal is required for verification"
  let some run ← Flow.op (.getRun proposal.runId)
    | return controlFailed .recoveryRequirement "VERIFICATION_RUN_NOT_FOUND"
        "Durable run is required for verification"
  let idempotency ← Flow.op (.getIdempotency (deriveIdempotencyKey proposal))
  return .succeeded (proposal, run, idempotency)

/-- `verify` after its lookups. -/
def verifyLoaded (settings : VerificationSettings) (target : SandboxTarget) (proposalId : UUID)
    (proposal : ActionProposal) (run : Run) (idempotency : Option IdempotencyRecord) :
    Flow (ControlResult VerificationCompletion) :=
  if run.state = .successWithEvidence then reconcileSuccess run proposalId
  else
    match idempotency with
    | none => .ret <| controlFailed .recoveryRequirement "EXECUTION_ACKNOWLEDGEMENT_MISSING"
        "Independent verification requires a durable execution acknowledgement"
    | some record =>
      match record.executionAcknowledgement with
      | none => .ret <| controlFailed .recoveryRequirement "EXECUTION_ACKNOWLEDGEMENT_MISSING"
          "Independent verification requires a durable execution acknowledgement"
      | some acknowledgement =>
        if run.state ≠ .verifying then
          .ret <| controlFailed .recoveryRequirement "VERIFICATION_STATE_INVALID"
            "Run must be durably VERIFYING before provider read-back"
        else if record.status = .completed then finalizeExistingEvidence run proposalId
        else if record.status ≠ .registered then
          .ret <| controlFailed .recoveryRequirement "VERIFICATION_IDEMPOTENCY_INVALID"
            "Idempotency state cannot safely enter verification"
        else
          Flow.tryExcept
            (appendEvent run .verificationStarted acknowledgement.acknowledgementHash
              (Dict.ofPairs [("proposal_id", proposalId.str)]))
            (Flow.catching PyExc.isStorage <| .ret <| controlFailed .dependencyUnavailable
              "VERIFICATION_AUDIT_UNAVAILABLE" "Verification start could not be persisted" true)
            fun _ => poll settings target proposal proposalId run record acknowledgement
              settings.maxAttempts 0

/-- `verify`: independently verify one acknowledged stop, or reconcile prior verified truth. -/
def verify (settings : VerificationSettings) (target : SandboxTarget) (proposalId : UUID) :
    Flow (ControlResult VerificationCompletion) :=
  Flow.tryExcept (lookup proposalId)
    (Flow.catching PyExc.isDependency <| .ret <| controlFailed .dependencyUnavailable
      "VERIFICATION_DURABILITY_UNAVAILABLE" "Durable verification prerequisites are unavailable"
      true)
    fun
    | .failed failure => .ret (.failed failure)
    | .succeeded (proposal, run, idempotency) =>
      verifyLoaded settings target proposalId proposal run idempotency

end BoundedVerificationCoordinator

end CloudOpsAgent
