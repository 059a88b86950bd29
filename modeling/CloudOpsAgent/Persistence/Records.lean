/-
  The durable records in DynamoDB: `serialize_record` and `deserialize_record`.

  1. **Vocabularies** — each enumeration is stored by value.

  2. **The models** — one table of fields for each class, in the order of the class, with its
     validators.  A hash that a record carries is stored, and compared when it is read.

  3. **Checkpoints** — the two places where a record holds JSON values come back with sorted keys
     (`RemediationProposal.back`, `CheckpointFields.back`); no hash depends on their order.

  4. **The round trip** — of every durable record (`codec_lossless_iff`).

  What a validator asks of a text alone, its length or its pattern, the records here do not carry, and
  the tables do not ask for again.
-/
import CloudOpsAgent.Persistence.Codec

namespace CloudOpsAgent

open Codec Fields StrictJson

/-! ## Vocabularies -/

namespace Codec

def workflowState : Codec WorkflowState :=
  enum [.received, .investigating, .evidenceReady, .remediationProposed, .awaitingApproval,
    .approved, .executing, .verifying, .noActionRequired, .recommendationOnly, .successWithEvidence,
    .deniedByHuman, .deniedByPolicy, .modelOutputInvalid, .ambiguousResult, .dependencyUnavailable,
    .budgetExhausted, .executionFailed, .verificationFailed, .recoveryRequired]
    WorkflowState.value (by intro a; cases a <;> rfl)

def capability : Codec Capability :=
  enum [.inspectInstance, .readUtilizationMetrics, .buildRemediationEvidence, .stopSandboxInstance,
    .verifyInstanceState, .queryResource, .planRemediation, .releaseElasticIp, .revokePublicIngress,
    .terminateInstances, .startInstances, .rebootInstances, .modifyInstanceAttribute, .createTags,
    .deleteTags, .iamMutation, .ssmCommandExecution, .filesystemAccess, .credentialAccess,
    .unsafeStopOptions, .storageDatabaseDeletion, .securityGroupNetworkOpening, .shellExecution,
    .arbitraryCodeExecution, .arbitraryUrlFetch, .outsideSandboxScope]
    Capability.value (by intro a; cases a <;> rfl)

def authorityGate : Codec AuthorityGate :=
  enum [.auto, .planAndConfirm, .neverAutonomous] AuthorityGate.value (by intro a; cases a <;> rfl)

def proposalState : Codec ProposalState :=
  enum [.proposed, .awaitingApproval, .superseded] ProposalState.value
    (by intro a; cases a <;> rfl)

def approvalDecision : Codec ApprovalDecision :=
  enum [.approved, .denied] ApprovalDecision.value (by intro a; cases a <;> rfl)

def failureKind : Codec FailureKind :=
  enum [.validationFailure, .policyDenial, .ambiguousResult, .dependencyUnavailable,
    .budgetExhaustion, .executionFailure, .verificationFailure, .recoveryRequirement,
    .illegalStateTransition, .providerFailure, .toolAdapterFailure, .storageFailure,
    .idempotencyConflict, .notFound, .configurationError]
    FailureKind.value (by intro a; cases a <;> rfl)

def actionOutcome : Codec ActionOutcome :=
  enum [.succeeded, .failed, .ambiguous, .reconciliationRequired] ActionOutcome.value
    (by intro a; cases a <;> rfl)

def idempotencyStatus : Codec IdempotencyStatus :=
  enum [.registered, .completed, .failed, .reconciliationRequired] IdempotencyStatus.value
    (by intro a; cases a <;> rfl)

def verificationProofOrigin : Codec VerificationProofOrigin :=
  enum [.executionAcknowledgement, .recoveryReadBack] VerificationProofOrigin.value
    (by intro a; cases a <;> rfl)

def verificationDisposition : Codec VerificationDisposition :=
  enum [.verified, .stillTransitioning, .mismatch] VerificationDisposition.value
    (by intro a; cases a <;> rfl)

def observedInstanceState : Codec ObservedInstanceState :=
  enum [.pending, .running, .stopping, .stopped] ObservedInstanceState.value
    (by intro a; cases a <;> rfl)

def ec2InstanceState : Codec Ec2InstanceState :=
  enum [.pending, .running, .shuttingDown, .terminated, .stopping, .stopped] Ec2InstanceState.value
    (by intro a; cases a <;> rfl)

def auditEventType : Codec AuditEventType :=
  enum [.runCreated, .stateTransitioned, .proposalCreated, .approvalRequested, .approvalRecorded,
    .idempotencyRegistered, .executionRequested, .executionAcknowledged, .verificationStarted,
    .verificationObserved, .checkpointSaved, .toolObserved, .modelObserved, .verificationRecorded,
    .recoveryClassified, .recoveryObserved, .recoveryCompleted, .recoveryDeferred, .policyDenied,
    .modelOutputRejected, .budgetUpdated, .budgetExhausted, .resourceQueried, .remediationPlanned,
    .noActionRecorded, .recommendationRecorded]
    AuditEventType.value (by intro a; cases a <;> rfl)

def cloudResourceType : Codec CloudResourceType :=
  enum [.ec2Instance, .elasticIp, .securityGroup] CloudResourceType.value
    (by intro a; cases a <;> rfl)

def cloudFinding : Codec CloudFinding :=
  enum [.unattachedElasticIp, .overlyPermissiveIngress, .requiredTagsMissing, .clean]
    CloudFinding.value (by intro a; cases a <;> rfl)

def remediationOperation : Codec RemediationOperation :=
  enum [.releaseElasticIp, .revokePublicIngress, .applyRequiredTags] RemediationOperation.value
    (by intro a; cases a <;> rfl)

end Codec

/-! ## Models of the stop workflow -/

def BudgetCounters.model : Model BudgetCounters where
  toFields := build
    (field "max_turns" nat |>.and <| field "max_tokens" nat |>.and <|
      fieldOr "max_elapsed_seconds" nat 60 |>.and <| fieldOr "turns_used" nat 0 |>.and <|
      fieldOr "tokens_used" nat 0 |>.and <| fieldOr "elapsed_milliseconds_used" nat 0)
    (fun (turns, tokens, seconds, turnsUsed, tokensUsed, millisecondsUsed) =>
      if h : (0 < turns ∧ turns ≤ 1000 ∧ 0 < tokens ∧ tokens ≤ 10000000 ∧ 0 < seconds ∧
          seconds ≤ 3600 ∧ millisecondsUsed ≤ 3600000) ∧
          turnsUsed ≤ turns ∧ tokensUsed ≤ tokens ∧ millisecondsUsed ≤ seconds * 1000 then
        some ⟨turns, tokens, seconds, turnsUsed, tokensUsed, millisecondsUsed, h.1, h.2⟩
      else none)
    (fun b => (b.maxTurns, b.maxTokens, b.maxElapsedSeconds, b.turnsUsed, b.tokensUsed,
      b.elapsedMillisecondsUsed))
    (fun b => b) fun b => dif_pos ⟨b.bounded, b.consumption⟩
  nodup := by decide

def Run.model : Model Run where
  toFields := build
    (field "run_id" uuid |>.and <| field "trace_id" uuid |>.and <|
      field "correlation_id" uuid |>.and <| field "idempotency_key" text |>.and <|
      field "state" workflowState |>.and <| field "created_at" time |>.and <|
      field "updated_at" time |>.and <| field "budget" BudgetCounters.model.codec |>.and <|
      fieldOr "version" nat 1)
    (fun (runId, traceId, correlationId, key, state, createdAt, updatedAt, budget, version) =>
      if h : 0 < version ∧ createdAt ≤ updatedAt then
        some ⟨runId, traceId, correlationId, key, state, createdAt, updatedAt, budget, version,
          h.1, h.2⟩
      else none)
    (fun r => (r.runId, r.traceId, r.correlationId, r.idempotencyKey, r.state, r.createdAt,
      r.updatedAt, r.budget, r.version))
    (fun r => r) fun r => dif_pos ⟨r.version_pos, r.time_order⟩
  nodup := by decide

def FailureDetail.model : Model FailureDetail where
  toFields := build
    (field "kind" failureKind |>.and <| field "code" text |>.and <| field "message" text |>.and <|
      field "retryable" boolean)
    (fun (kind, code, message, retryable) => some ⟨kind, code, message, retryable⟩)
    (fun f => (f.kind, f.code, f.message, f.retryable))
    (fun f => f) fun _ => rfl
  nodup := by decide

def ActionTarget.model : Model ActionTarget where
  toFields := build
    (literal "resource_type" text "AWS::EC2::Instance" rfl |>.and <| field "resource_id" text |>.and <|
      literal "region" text "eu-central-1" rfl |>.and <| field "sandbox_scope" text |>.and <|
      fieldOr "required_tag_key" text "AIOACloudOpsSandbox" |>.and <|
      fieldOr "required_tag_value" text "true")
    (fun ((), resourceId, (), scope, key, value) => some ⟨resourceId, scope, key, value⟩)
    (fun t => ((), t.resourceId, (), t.sandboxScope, t.requiredTagKey, t.requiredTagValue))
    (fun t => t) fun _ => rfl
  nodup := by decide

/-- The table writes what `model_dump` writes. -/
theorem ActionTarget.model_dump (t : ActionTarget) : model.codec.dump t = t.toJson := rfl

def ExpectedPrecondition.model : Model ExpectedPrecondition where
  toFields := build
    (field "instance_state" observedInstanceState |>.and <| field "observed_at" time |>.and <|
      field "evidence_hash" digest)
    (fun (state, observedAt, evidenceHash) => some ⟨state, observedAt, evidenceHash⟩)
    (fun p => (p.instanceState, p.observedAt, p.evidenceHash))
    (fun p => p) fun _ => rfl
  nodup := by decide

theorem ExpectedPrecondition.model_dump (p : ExpectedPrecondition) :
    model.codec.dump p = p.toJson := rfl

def ActionProposal.model : Model ActionProposal where
  toFields := build
    (field "proposal_id" uuid |>.and <| field "run_id" uuid |>.and <|
      field "action" capability |>.and <| field "target" ActionTarget.model.codec |>.and <|
      field "expected_precondition" ExpectedPrecondition.model.codec |>.and <|
      field "authority" authorityGate |>.and <| fieldOr "state" proposalState .proposed |>.and <|
      field "evidence_hash" digest |>.and <| field "created_at" time)
    (fun (proposalId, runId, action, target, precondition, authority, state, hash, createdAt) =>
      if h : action = .stopSandboxInstance ∧ authority = action.authority ∧
          precondition.instanceState = .running ∧ hash = precondition.evidenceHash then
        some ⟨proposalId, runId, action, target, precondition, authority, state, hash, createdAt,
          h.1, h.2.1, h.2.2.1, h.2.2.2⟩
      else none)
    (fun p => (p.proposalId, p.runId, p.action, p.target, p.expectedPrecondition, p.authority,
      p.state, p.evidenceHash, p.createdAt))
    (fun p => p)
    fun p => dif_pos ⟨p.action_eq, p.authority_eq, p.precondition_running, p.evidence_eq⟩
  nodup := by decide

def Approval.model : Model Approval where
  toFields := build
    (field "proposal_id" uuid |>.and <| field "run_id" uuid |>.and <|
      field "action" capability |>.and <| field "target" ActionTarget.model.codec |>.and <|
      field "evidence_hash" digest |>.and <| field "interrupt_id" text |>.and <|
      field "request_hash" digest |>.and <| field "decision" approvalDecision |>.and <|
      field "decided_at" time |>.and <| field "actor_session_id" text |>.and <|
      field "decision_nonce" text)
    (fun (proposalId, runId, action, target, hash, interruptId, requestHash, decision, decidedAt,
        session, nonce) =>
      if h : action = .stopSandboxInstance then
        some ⟨proposalId, runId, action, target, hash, interruptId, requestHash, decision, decidedAt,
          session, nonce, h⟩
      else none)
    (fun a => (a.proposalId, a.runId, a.action, a.target, a.evidenceHash, a.interruptId,
      a.requestHash, a.decision, a.decidedAt, a.actorSessionId, a.decisionNonce))
    (fun a => a) fun a => dif_pos a.action_eq
  nodup := by decide

def ActionResult.model : Model ActionResult where
  toFields := build
    (field "outcome" actionOutcome |>.and <|
      fieldOr "observed_state" (optional observedInstanceState (fun _ => nofun) fun _ => rfl) none
        |>.and <|
      fieldOr "evidence_hash" (optional digest (fun _ => nofun) fun _ => rfl) none |>.and <|
      fieldOr "failure"
        (optional FailureDetail.model.codec FailureDetail.model.codec_ne_null fun _ => rfl) none)
    (fun (outcome, state, hash, failure) =>
      if h : if outcome = .succeeded then state.isSome ∧ hash.isSome ∧ failure = none
          else failure.isSome then
        some ⟨outcome, state, hash, failure, h⟩
      else none)
    (fun r => (r.outcome, r.observedState, r.evidenceHash, r.failure))
    (fun r => r) fun r => dif_pos r.outcome_ok
  nodup := by decide

def ExecutionAcknowledgement.model : Model ExecutionAcknowledgement where
  toFields := build
    (literal "status" text "ACCEPTED" rfl |>.and <| field "proposal_id" uuid |>.and <|
      field "run_id" uuid |>.and <| literal "action" capability .stopSandboxInstance rfl |>.and <|
      field "target" ActionTarget.model.codec |>.and <|
      literal "previous_state" observedInstanceState .running rfl |>.and <|
      field "current_state" observedInstanceState |>.and <|
      fieldOr "request_reference" (optional text (fun _ => nofun) fun _ => rfl) none |>.and <|
      field "acknowledged_at" time |>.and <| field "acknowledgement_hash" digest)
    (fun ((), proposalId, runId, (), target, (), state, reference, acknowledgedAt, hash) =>
      if h : state = .stopping ∨ state = .stopped then
        some ⟨proposalId, runId, target, state, reference, acknowledgedAt, hash, h⟩
      else none)
    (fun a => ((), a.proposalId, a.runId, (), a.target, (), a.currentState, a.requestReference,
      a.acknowledgedAt, a.acknowledgementHash))
    (fun a => a) fun a => dif_pos a.current_ok
  nodup := by decide

instance (status : IdempotencyStatus) (result : Option ActionResult) (registeredAt : Time)
    (completedAt : Option Time) : Decidable (StatusPayload status result registeredAt completedAt) :=
  inferInstanceAs <| Decidable <|
    if status = .registered then result = none ∧ completedAt = none
    else result.isSome ∧ ∃ t, completedAt = some t ∧ registeredAt ≤ t

def IdempotencyRecord.model : Model IdempotencyRecord where
  toFields := build
    (field "idempotency_key" text |>.and <| field "proposal_id" uuid |>.and <|
      field "action_fingerprint" digest |>.and <|
      fieldOr "status" idempotencyStatus .registered |>.and <|
      fieldOr "execution_acknowledgement" (optional ExecutionAcknowledgement.model.codec
        ExecutionAcknowledgement.model.codec_ne_null fun _ => rfl) none |>.and <|
      fieldOr "action_result"
        (optional ActionResult.model.codec ActionResult.model.codec_ne_null fun _ => rfl) none
        |>.and <|
      field "registered_at" time |>.and <|
      fieldOr "completed_at" (optional time (fun _ => nofun) fun _ => rfl) none)
    (fun (key, proposalId, fingerprint, status, acknowledgement, result, registeredAt,
        completedAt) =>
      if h : StatusPayload status result registeredAt completedAt then
        some ⟨key, proposalId, fingerprint, status, acknowledgement, result, registeredAt,
          completedAt, h⟩
      else none)
    (fun r => (r.idempotencyKey, r.proposalId, r.actionFingerprint, r.status,
      r.executionAcknowledgement, r.actionResult, r.registeredAt, r.completedAt))
    (fun r => r) fun r => dif_pos r.status_payload
  nodup := by decide

def AuditEvent.model : Model AuditEvent where
  toFields := build
    (field "event_id" uuid |>.and <| field "run_id" uuid |>.and <|
      field "type" auditEventType |>.and <| field "timestamp" time |>.and <|
      field "source" text |>.and <|
      fieldOr "tool_name" (optional text (fun _ => nofun) fun _ => rfl) none |>.and <|
      fieldOr "model_id" (optional text (fun _ => nofun) fun _ => rfl) none |>.and <|
      field "redacted_payload_hash" digest |>.and <|
      fieldOr "metadata" (mapping text fun _ => rfl) ∅)
    (fun (eventId, runId, type, timestamp, source, toolName, modelId, hash, metadata) =>
      some ⟨eventId, runId, type, timestamp, source, toolName, modelId, hash, metadata⟩)
    (fun e => (e.eventId, e.runId, e.type, e.timestamp, e.source, e.toolName, e.modelId,
      e.redactedPayloadHash, e.metadata))
    (fun e => e) fun _ => rfl
  nodup := by decide

/-- The three linked fields of a proof, through `validate_evidence_hash`. -/
def VerificationProof.ofFields? (origin : VerificationProofOrigin)
    (acknowledgement recovery : Option Sha256Digest) : Option VerificationProof :=
  match origin, acknowledgement, recovery with
  | .executionAcknowledgement, some h, none => some (.executionAcknowledgement h)
  | .recoveryReadBack, none, some h => some (.recoveryReadBack h)
  | _, _, _ => none

def VerificationProof.recoveryObservationHash : VerificationProof → Option Sha256Digest
  | executionAcknowledgement _ => none
  | recoveryReadBack h => some h

theorem VerificationProof.ofFields?_self (p : VerificationProof) :
    ofFields? p.origin p.executionAcknowledgementHash p.recoveryObservationHash = some p := by
  cases p <;> rfl

def VerificationEvidence.rows :=
  field "evidence_id" uuid |>.and <| field "proposal_id" uuid |>.and <|
  field "run_id" uuid |>.and <| field "trace_id" uuid |>.and <|
  field "correlation_id" uuid |>.and <|
  literal "disposition" verificationDisposition .verified rfl |>.and <|
  literal "action" capability .stopSandboxInstance rfl |>.and <|
  field "target" ActionTarget.model.codec |>.and <|
  literal "observed_state" observedInstanceState .stopped rfl |>.and <|
  field "verified_at" time |>.and <|
  fieldOr "proof_origin" verificationProofOrigin .executionAcknowledgement |>.and <|
  fieldOr "execution_acknowledgement_hash" (optional digest (fun _ => nofun) fun _ => rfl) none
    |>.and <|
  fieldOr "recovery_observation_hash" (optional digest (fun _ => nofun) fun _ => rfl) none |>.and <|
  field "observation_hash" digest |>.and <|
  fieldOr "request_reference" (optional text (fun _ => nofun) fun _ => rfl) none |>.and <|
  field "evidence_hash" digest

def VerificationEvidence.model [Sha256] : Model VerificationEvidence where
  toFields := rows.build
    (fun (evidenceId, proposalId, runId, traceId, correlationId, (), (), target, (), verifiedAt,
        origin, acknowledgement, recovery, observation, reference, hash) =>
      (VerificationProof.ofFields? origin acknowledgement recovery).bind fun proof =>
        let evidence : VerificationEvidence := ⟨evidenceId, proposalId, runId, traceId,
          correlationId, target, verifiedAt, proof, observation, reference⟩
        if hash = evidence.evidenceHash then some evidence else none)
    (fun e => (e.evidenceId, e.proposalId, e.runId, e.traceId, e.correlationId, (), (), e.target, (),
      e.verifiedAt, e.proof.origin, e.proof.executionAcknowledgementHash,
      e.proof.recoveryObservationHash, e.observationHash, e.requestReference, e.evidenceHash))
    (fun e => e) fun e =>
      (congrArg (Option.bind · _) (VerificationProof.ofFields?_self e.proof)).trans (if_pos rfl)
  nodup := show rows.names.Nodup by decide

/-! ## Models of the local workflow -/

def SecurityGroupRule.model : Model SecurityGroupRule where
  toFields := build
    (field "ip_protocol" text |>.and <| field "cidr_ipv4" text |>.and <|
      fieldOr "from_port" (optional nat (fun _ => nofun) fun _ => rfl) none |>.and <|
      fieldOr "to_port" (optional nat (fun _ => nofun) fun _ => rfl) none)
    (fun (protocol, cidr, fromPort, toPort) =>
      if h : if protocol = "-1" then fromPort = none ∧ toPort = none
          else ∃ a ∈ fromPort, ∃ b ∈ toPort, a ≤ b then
        some ⟨protocol, cidr, fromPort, toPort, h⟩
      else none)
    (fun r => (r.ipProtocol, r.cidrIpv4, r.fromPort, r.toPort))
    (fun r => r) fun r => dif_pos r.ports_ok
  nodup := by decide

theorem SecurityGroupRule.model_dump (r : SecurityGroupRule) : model.codec.dump r = r.toJson := by
  obtain ⟨protocol, cidr, fromPort, toPort, h⟩ := r
  cases fromPort <;> cases toPort <;> rfl

def Ec2Resource.model : Model Ec2Resource where
  toFields := build
    (literal "resource_type" cloudResourceType .ec2Instance rfl |>.and <|
      field "resource_id" text |>.and <| field "region" text |>.and <|
      field "state" ec2InstanceState |>.and <| field "instance_type" text |>.and <|
      field "tags" (mapping text fun _ => rfl))
    (fun ((), resourceId, region, state, instanceType, tags) =>
      some ⟨resourceId, region, state, instanceType, tags⟩)
    (fun r => ((), r.resourceId, r.region, r.state, r.instanceType, r.tags))
    (fun r => r) fun _ => rfl
  nodup := by decide

def ElasticIpResource.model : Model ElasticIpResource where
  toFields := build
    (literal "resource_type" cloudResourceType .elasticIp rfl |>.and <|
      field "resource_id" text |>.and <| field "region" text |>.and <|
      field "public_ip" text |>.and <|
      fieldOr "association_id" (optional text (fun _ => nofun) fun _ => rfl) none |>.and <|
      field "tags" (mapping text fun _ => rfl))
    (fun ((), resourceId, region, publicIp, associationId, tags) =>
      some ⟨resourceId, region, publicIp, associationId, tags⟩)
    (fun r => ((), r.resourceId, r.region, r.publicIp, r.associationId, r.tags))
    (fun r => r) fun _ => rfl
  nodup := by decide

def SecurityGroupResource.model : Model SecurityGroupResource where
  toFields := build
    (literal "resource_type" cloudResourceType .securityGroup rfl |>.and <|
      field "resource_id" text |>.and <| field "region" text |>.and <| field "vpc_id" text |>.and <|
      field "inbound_rules" (tuple SecurityGroupRule.model.codec fun _ => rfl) |>.and <|
      field "outbound_rules" (tuple SecurityGroupRule.model.codec fun _ => rfl) |>.and <|
      field "tags" (mapping text fun _ => rfl))
    (fun ((), resourceId, region, vpcId, inbound, outbound, tags) =>
      some ⟨resourceId, region, vpcId, inbound, outbound, tags⟩)
    (fun r => ((), r.resourceId, r.region, r.vpcId, r.inboundRules, r.outboundRules, r.tags))
    (fun r => r) fun _ => rfl
  nodup := by decide

/-- The resource a payload is one of, by its `resource_type`. -/
def CloudResource.load (payload : Json) : Option CloudResource :=
  match payload with
  | .obj fields =>
    ((fields.lookup "resource_type").bind cloudResourceType.load).bind fun
      | .ec2Instance => (Ec2Resource.model.codec.load payload).map .ec2
      | .elasticIp => (ElasticIpResource.model.codec.load payload).map .elasticIp
      | .securityGroup => (SecurityGroupResource.model.codec.load payload).map .securityGroup
  | _ => none

theorem CloudResource.load_of_type {ρ : Type} (M : Model ρ) (r : ρ) {t : CloudResourceType}
    (hmem : ("resource_type", Json.str t.value) ∈ M.dump r) :
    load (sortKeys (M.codec.dump r)) = match t with
      | .ec2Instance => (Ec2Resource.model.codec.load (sortKeys (M.codec.dump r))).map ec2
      | .elasticIp => (ElasticIpResource.model.codec.load (sortKeys (M.codec.dump r))).map elasticIp
      | .securityGroup =>
        (SecurityGroupResource.model.codec.load (sortKeys (M.codec.dump r))).map securityGroup := by
  obtain ⟨fields, hsorted, hlookup, -⟩ := M.payload r
  have htype : fields.lookup "resource_type" = some (.str t.value) := hlookup _ hmem
  have hread : cloudResourceType.load (.str t.value) = some t := by cases t <;> rfl
  have hdump : M.codec.dump r = .obj (M.dump r) := rfl
  rw [hdump, hsorted]
  show ((fields.lookup "resource_type").bind cloudResourceType.load).bind _ = _
  rw [htype, Option.bind_some, hread, Option.bind_some]
  cases t <;> rfl

def Codec.cloudResource : Codec CloudResource where
  dump
    | .ec2 r => Ec2Resource.model.codec.dump r
    | .elasticIp r => ElasticIpResource.model.codec.dump r
    | .securityGroup r => SecurityGroupResource.model.codec.dump r
  load := CloudResource.load
  times
    | .ec2 r => Ec2Resource.model.times r
    | .elasticIp r => ElasticIpResource.model.times r
    | .securityGroup r => SecurityGroupResource.model.times r
  back r := r
  load_dump r ht := by
    cases r with
    | ec2 r =>
      refine (CloudResource.load_of_type Ec2Resource.model r (List.mem_cons_self ..)).trans ?_
      exact congrArg (Option.map CloudResource.ec2) (Ec2Resource.model.codec.load_dump r ht)
    | elasticIp r =>
      refine (CloudResource.load_of_type ElasticIpResource.model r (List.mem_cons_self ..)).trans ?_
      exact congrArg (Option.map CloudResource.elasticIp) (ElasticIpResource.model.codec.load_dump r ht)
    | securityGroup r =>
      refine (CloudResource.load_of_type SecurityGroupResource.model r (List.mem_cons_self ..)).trans
        ?_
      exact congrArg (Option.map CloudResource.securityGroup) (SecurityGroupResource.model.codec.load_dump r ht)

theorem Codec.cloudResource_dump (r : CloudResource) : cloudResource.dump r = r.toJson := by
  cases r with
  | ec2 r => rfl
  | elasticIp r => rfl
  | securityGroup r =>
    have hrules : SecurityGroupRule.model.codec.dump = SecurityGroupRule.toJson :=
      funext SecurityGroupRule.model_dump
    show Json.obj [_, _, _, _, ("inbound_rules", .arr (r.inboundRules.map _)),
      ("outbound_rules", .arr (r.outboundRules.map _)), _] = _
    rw [hrules]
    rfl

theorem Codec.cloudResource_ne_null (r : CloudResource) : sortKeys (cloudResource.dump r) ≠ .null := by
  cases r with
  | ec2 r => exact Ec2Resource.model.codec_ne_null r
  | elasticIp r => exact ElasticIpResource.model.codec_ne_null r
  | securityGroup r => exact SecurityGroupResource.model.codec_ne_null r

def ResourceProvenance.model : Model ResourceProvenance where
  toFields := build
    (field "run_id" uuid |>.and <| field "trace_id" uuid |>.and <|
      field "correlation_id" uuid |>.and <| literal "source" text "query_resource" rfl |>.and <|
      field "adapter" text |>.and <| field "resource_type" cloudResourceType |>.and <|
      field "resource_id" text |>.and <| field "observed_fields" (tuple text fun _ => rfl) |>.and <|
      field "observed_at" time)
    (fun (runId, traceId, correlationId, (), adapter, type, resourceId, fields, observedAt) =>
      if h : fields ≠ [] ∧ fields.Pairwise (· < ·) then
        some ⟨runId, traceId, correlationId, adapter, type, resourceId, fields, observedAt, h⟩
      else none)
    (fun p => (p.runId, p.traceId, p.correlationId, (), p.adapter, p.resourceType, p.resourceId,
      p.observedFields, p.observedAt))
    (fun p => p) fun p => dif_pos p.fields_ok
  nodup := by decide

theorem ResourceProvenance.model_dump (p : ResourceProvenance) : model.codec.dump p = p.toJson := rfl

def ResourceEvidence.rows :=
  field "run_id" uuid |>.and <| field "trace_id" uuid |>.and <|
  field "correlation_id" uuid |>.and <| field "resource" cloudResource |>.and <|
  field "findings" (tuple cloudFinding fun _ => rfl) |>.and <|
  field "provenance" ResourceProvenance.model.codec |>.and <| field "observed_at" time |>.and <|
  literal "authority" authorityGate .auto rfl |>.and <| field "evidence_hash" digest

def ResourceEvidence.model [Sha256] : Model ResourceEvidence where
  toFields := rows.build
    (fun (runId, traceId, correlationId, resource, findings, provenance, observedAt, (), hash) =>
      if h : (runId = provenance.runId ∧ traceId = provenance.traceId ∧
          correlationId = provenance.correlationId ∧
          resource.resourceType = provenance.resourceType ∧
          resource.resourceId = provenance.resourceId ∧ observedAt = provenance.observedAt) ∧
          findings ≠ [] ∧ (CloudFinding.clean ∈ findings → findings = [.clean]) ∧
          (findings.map CloudFinding.value).Pairwise (· < ·) then
        let evidence : ResourceEvidence := ⟨runId, traceId, correlationId, resource, findings,
          provenance, observedAt, h.1, h.2⟩
        if hash = evidence.evidenceHash then some evidence else none
      else none)
    (fun e => (e.runId, e.traceId, e.correlationId, e.resource, e.findings, e.provenance,
      e.observedAt, (), e.evidenceHash))
    (fun e => e) fun e => (dif_pos ⟨e.binding, e.findings_ok⟩).trans (if_pos rfl)
  nodup := show rows.names.Nodup by decide

/-! ### Proposals -/

/-- A proposal as it is read back: the keys of its parameters are sorted. -/
def RemediationProposal.back (p : RemediationProposal) : RemediationProposal :=
  { p with
    normalizedParameters := (Dynamo.byKey p.normalizedParameters).map fun f => (f.1, sortKeys f.2)
    parameters_ok := fun h => p.parameters_ok (by
      simpa [Dynamo.byKey, ← List.length_eq_zero_iff] using h) }

theorem RemediationProposal.actionPayload_back (p : RemediationProposal) :
    p.back.actionPayload.render = p.actionPayload.render := by
  have hparameters : Json.render (.obj p.back.normalizedParameters) =
      Json.render (.obj p.normalizedParameters) := by
    rw [← Dynamo.render_sortKeys (.obj p.normalizedParameters), Dynamo.sortKeys_obj]
    rfl
  simp only [actionPayload, Json.render, Json.renderFields] at hparameters ⊢
  rw [hparameters]
  rfl

theorem RemediationProposal.proposalHash_back [Sha256] (p : RemediationProposal) :
    p.back.proposalHash = p.proposalHash := by
  unfold proposalHash canonicalDigest Json.dumps
  rw [p.actionPayload_back]

/-- `dict[ShortIdentifier, JsonValue]`. -/
def Codec.parameters : Codec (List (String × Json)) where
  dump fields := .obj fields
  load
    | .obj fields => some fields
    | _ => none
  times _ := []
  back fields := (Dynamo.byKey fields).map fun f => (f.1, sortKeys f.2)
  load_dump fields _ := by rw [Dynamo.sortKeys_obj]

def RemediationProposal.rows :=
  field "proposal_id" uuid |>.and <| field "run_id" uuid |>.and <|
  field "correlation_id" uuid |>.and <| field "operation_type" remediationOperation |>.and <|
  field "target_resource_type" cloudResourceType |>.and <| field "target_resource_id" text |>.and <|
  field "normalized_parameters" parameters |>.and <| field "authority_class" authorityGate |>.and <|
  field "evidence_hash" digest |>.and <| field "evidence_fingerprint" digest |>.and <|
  field "risk_summary" text |>.and <| field "created_at" time |>.and <|
  field "expires_at" time |>.and <| field "proposal_hash" digest |>.and <|
  fieldOr "status" proposalState .proposed |>.and <| fieldOr "version" nat 1 |>.and <|
  literal "authorizes_execution" boolean false rfl

def RemediationProposal.model [Sha256] : Model RemediationProposal where
  toFields := rows.build
    (fun (proposalId, runId, correlationId, operation, type, resourceId, parameters, authority,
        evidenceHash, fingerprint, summary, createdAt, expiresAt, hash, status, version, ()) =>
      if h : (type = operation.policy.1 ∧ authority = operation.policy.2) ∧ createdAt < expiresAt ∧
          parameters ≠ [] ∧ 0 < version then
        let proposal : RemediationProposal := ⟨proposalId, runId, correlationId, operation, type,
          resourceId, parameters, authority, evidenceHash, fingerprint, summary, createdAt,
          expiresAt, status, version, h.1, h.2.1, h.2.2.1, h.2.2.2⟩
        if hash = proposal.proposalHash then some proposal else none
      else none)
    (fun p => (p.proposalId, p.runId, p.correlationId, p.operationType, p.targetResourceType,
      p.targetResourceId, p.normalizedParameters, p.authorityClass, p.evidenceHash,
      p.evidenceFingerprint, p.riskSummary, p.createdAt, p.expiresAt, p.proposalHash, p.status,
      p.version, ()))
    back fun p => (dif_pos ⟨p.policy_ok, p.expires_later, p.back.parameters_ok, p.version_pos⟩).trans
      (if_pos p.proposalHash_back.symm)
  nodup := show rows.names.Nodup by decide

/-! ### The human decision -/

def LocalApprovalRequestRecord.rows :=
  field "request_id" uuid |>.and <| field "proposal_id" uuid |>.and <|
  field "run_id" uuid |>.and <| field "correlation_id" uuid |>.and <|
  field "proposal_hash" digest |>.and <| field "evidence_hash" digest |>.and <|
  field "proposal_version" nat |>.and <| field "operation_type" remediationOperation |>.and <|
  field "target_resource_type" cloudResourceType |>.and <| field "target_resource_id" text |>.and <|
  field "actor_session_id" text |>.and <| field "decision_nonce_hash" digest |>.and <|
  field "requested_at" time |>.and <| field "expires_at" time |>.and <|
  field "request_hash" digest

def LocalApprovalRequestRecord.model [Sha256] : Model LocalApprovalRequestRecord where
  toFields := rows.build
    (fun (requestId, proposalId, runId, correlationId, proposalHash, evidenceHash, version, operation,
        type, resourceId, session, nonceHash, requestedAt, expiresAt, hash) =>
      if h : 0 < version ∧ requestedAt < expiresAt then
        let request : LocalApprovalRequestRecord := ⟨requestId, proposalId, runId, correlationId,
          proposalHash, evidenceHash, version, operation, type, resourceId, session, nonceHash,
          requestedAt, expiresAt, h.1, h.2⟩
        if hash = request.requestHash then some request else none
      else none)
    (fun r => (r.requestId, r.proposalId, r.runId, r.correlationId, r.proposalHash, r.evidenceHash,
      r.proposalVersion, r.operationType, r.targetResourceType, r.targetResourceId,
      r.actorSessionId, r.decisionNonceHash, r.requestedAt, r.expiresAt, r.requestHash))
    (fun r => r) fun r => (dif_pos ⟨r.version_pos, r.expires_later⟩).trans (if_pos rfl)
  nodup := show rows.names.Nodup by decide

def LocalApprovalDecisionRecord.rows :=
  field "request_id" uuid |>.and <| field "proposal_id" uuid |>.and <|
  field "run_id" uuid |>.and <| field "request_hash" digest |>.and <|
  field "proposal_hash" digest |>.and <| field "evidence_hash" digest |>.and <|
  field "proposal_version" nat |>.and <| field "decision" approvalDecision |>.and <|
  field "actor_session_id" text |>.and <| field "decision_nonce_hash" digest |>.and <|
  field "decided_at" time |>.and <| field "decision_hash" digest

def LocalApprovalDecisionRecord.model [Sha256] : Model LocalApprovalDecisionRecord where
  toFields := rows.build
    (fun (requestId, proposalId, runId, requestHash, proposalHash, evidenceHash, version, decision,
        session, nonceHash, decidedAt, hash) =>
      if h : 0 < version then
        let record : LocalApprovalDecisionRecord := ⟨requestId, proposalId, runId, requestHash,
          proposalHash, evidenceHash, version, decision, session, nonceHash, decidedAt, h⟩
        if hash = record.decisionHash then some record else none
      else none)
    (fun r => (r.requestId, r.proposalId, r.runId, r.requestHash, r.proposalHash, r.evidenceHash,
      r.proposalVersion, r.decision, r.actorSessionId, r.decisionNonceHash, r.decidedAt,
      r.decisionHash))
    (fun r => r) fun r => (dif_pos r.version_pos).trans (if_pos rfl)
  nodup := show rows.names.Nodup by decide

/-! ### Execution and verification -/

def LocalExecutionIntent.rows :=
  field "run_id" uuid |>.and <| field "proposal_id" uuid |>.and <|
  field "proposal_hash" digest |>.and <| field "evidence_hash" digest |>.and <|
  field "decision_hash" digest |>.and <| field "operation_type" remediationOperation |>.and <|
  field "target_resource_type" cloudResourceType |>.and <| field "target_resource_id" text |>.and <|
  field "idempotency_key" text |>.and <| field "registered_at" time |>.and <|
  field "intent_hash" digest

def LocalExecutionIntent.model [Sha256] : Model LocalExecutionIntent where
  toFields := rows.build
    (fun (runId, proposalId, proposalHash, evidenceHash, decisionHash, operation, type, resourceId,
        key, registeredAt, hash) =>
      if h : operation ≠ .applyRequiredTags then
        let intent : LocalExecutionIntent := ⟨runId, proposalId, proposalHash, evidenceHash,
          decisionHash, operation, type, resourceId, key, registeredAt, h⟩
        if hash = intent.intentHash then some intent else none
      else none)
    (fun r => (r.runId, r.proposalId, r.proposalHash, r.evidenceHash, r.decisionHash,
      r.operationType, r.targetResourceType, r.targetResourceId, r.idempotencyKey, r.registeredAt,
      r.intentHash))
    (fun r => r) fun r => (dif_pos r.operation_ok).trans (if_pos rfl)
  nodup := show rows.names.Nodup by decide

def Codec.optionalResource : Codec (Option CloudResource) :=
  optional cloudResource cloudResource_ne_null fun _ => rfl

def LocalExecutionReceipt.rows :=
  field "run_id" uuid |>.and <| field "proposal_id" uuid |>.and <|
  field "proposal_hash" digest |>.and <| field "evidence_hash" digest |>.and <|
  field "decision_hash" digest |>.and <| field "intent_hash" digest |>.and <|
  field "idempotency_key" text |>.and <| field "operation_type" remediationOperation |>.and <|
  field "target_resource_type" cloudResourceType |>.and <| field "target_resource_id" text |>.and <|
  field "before_resource" cloudResource |>.and <| fieldOr "after_resource" optionalResource none
    |>.and <|
  field "executed_at" time |>.and <| field "receipt_hash" digest

def LocalExecutionReceipt.model [Sha256] : Model LocalExecutionReceipt where
  toFields := rows.build
    (fun (runId, proposalId, proposalHash, evidenceHash, decisionHash, intentHash, key, operation,
        type, resourceId, before, after, executedAt, hash) =>
      if h : (before.resourceType = type ∧ before.resourceId = resourceId) ∧
          ReceiptStates operation before after then
        let receipt : LocalExecutionReceipt := ⟨runId, proposalId, proposalHash, evidenceHash,
          decisionHash, intentHash, key, operation, type, resourceId, before, after, executedAt, h.1,
          h.2⟩
        if hash = receipt.receiptHash then some receipt else none
      else none)
    (fun r => (r.runId, r.proposalId, r.proposalHash, r.evidenceHash, r.decisionHash, r.intentHash,
      r.idempotencyKey, r.operationType, r.targetResourceType, r.targetResourceId, r.beforeResource,
      r.afterResource, r.executedAt, r.receiptHash))
    (fun r => r) fun r => (dif_pos ⟨r.target_ok, r.states_ok⟩).trans (if_pos rfl)
  nodup := show rows.names.Nodup by decide

def LocalVerificationEvidence.rows :=
  field "run_id" uuid |>.and <| field "proposal_id" uuid |>.and <|
  field "receipt_hash" digest |>.and <| field "operation_type" remediationOperation |>.and <|
  field "target_resource_type" cloudResourceType |>.and <| field "target_resource_id" text |>.and <|
  field "observed_absent" boolean |>.and <| fieldOr "observed_resource" optionalResource none
    |>.and <|
  field "verified_at" time |>.and <| field "verification_hash" digest

def LocalVerificationEvidence.model [Sha256] : Model LocalVerificationEvidence where
  toFields := rows.build
    (fun (runId, proposalId, receiptHash, operation, type, resourceId, absent, observed, verifiedAt,
        hash) =>
      if h : ObservedStates operation type resourceId absent observed then
        let evidence : LocalVerificationEvidence := ⟨runId, proposalId, receiptHash, operation, type,
          resourceId, absent, observed, verifiedAt, h⟩
        if hash = evidence.verificationHash then some evidence else none
      else none)
    (fun v => (v.runId, v.proposalId, v.receiptHash, v.operationType, v.targetResourceType,
      v.targetResourceId, v.observedAbsent, v.observedResource, v.verifiedAt, v.verificationHash))
    (fun v => v) fun v => (dif_pos v.observed_ok).trans (if_pos rfl)
  nodup := show rows.names.Nodup by decide

/-! ### Checkpoints -/

/-- The fields of a checkpoint as they are read back. -/
def CheckpointFields.back (c : CheckpointFields) : CheckpointFields :=
  { c with
    resumeMetadata := c.resumeMetadata.mapValues sortKeys
    remediationProposal := c.remediationProposal.map RemediationProposal.back }

/-- No check of a checkpoint looks at the order of keys. -/
theorem CheckpointFields.violation_back [Sha256] (c : CheckpointFields) :
    c.back.violation = c.violation := by
  have hproposal : c.back.remediationProposal.all c.back.proposalBound =
      c.remediationProposal.all c.proposalBound := by
    simp only [back]
    cases c.remediationProposal <;> rfl
  have hrequest : c.back.requestBound = c.requestBound := by
    funext r
    simp only [requestBound, back]
    cases c.remediationProposal with
    | none => rfl
    | some p =>
      simp only [Option.map_some, p.proposalHash_back]
      rfl
  have hintent : c.back.intentBound = c.intentBound := by
    funext i
    simp only [intentBound, back]
    cases c.remediationProposal with
    | none => rfl
    | some p =>
      cases c.localApproval with
      | none => rfl
      | some a =>
        simp only [Option.map_some, p.proposalHash_back]
        rfl
  have hsome : c.back.remediationProposal.isSome = c.remediationProposal.isSome :=
    Option.isSome_map ..
  unfold violation
  rw [hproposal, hrequest, hintent, hsome]
  rfl

/-- A checkpoint as it is read back. -/
def Checkpoint.back [Sha256] (c : Checkpoint) : Checkpoint :=
  ⟨c.toCheckpointFields.back, c.toCheckpointFields.violation_back.trans c.valid⟩

def Checkpoint.rows [Sha256] :=
  field "run_id" uuid |>.and <| field "last_safe_state" workflowState |>.and <|
  fieldOr "resume_metadata" (dict value) ∅ |>.and <|
  fieldOr "tool_result_hashes" (mapping digest fun _ => rfl) ∅ |>.and <|
  fieldOr "resource_evidence" (optional ResourceEvidence.model.codec
    ResourceEvidence.model.codec_ne_null fun _ => rfl) none |>.and <|
  fieldOr "remediation_proposal" (option RemediationProposal.model.codec
    RemediationProposal.model.codec_ne_null) none |>.and <|
  fieldOr "local_approval_request" (optional LocalApprovalRequestRecord.model.codec
    LocalApprovalRequestRecord.model.codec_ne_null fun _ => rfl) none |>.and <|
  fieldOr "local_approval" (optional LocalApprovalDecisionRecord.model.codec
    LocalApprovalDecisionRecord.model.codec_ne_null fun _ => rfl) none |>.and <|
  fieldOr "local_execution_intent" (optional LocalExecutionIntent.model.codec
    LocalExecutionIntent.model.codec_ne_null fun _ => rfl) none |>.and <|
  fieldOr "local_execution_receipt" (optional LocalExecutionReceipt.model.codec
    LocalExecutionReceipt.model.codec_ne_null fun _ => rfl) none |>.and <|
  fieldOr "local_verification" (optional LocalVerificationEvidence.model.codec
    LocalVerificationEvidence.model.codec_ne_null fun _ => rfl) none |>.and <|
  field "created_at" time |>.and <| fieldOr "version" nat 1

def Checkpoint.model [Sha256] : Model Checkpoint where
  toFields := rows.build
    (fun (runId, safe, metadata, hashes, evidence, proposal, request, approval, intent, receipt,
        verification, createdAt, version) =>
      (Checkpoint.validate ⟨runId, safe, metadata, hashes, evidence, proposal, request, approval,
        intent, receipt, verification, createdAt, version⟩).toOption)
    (fun c => (c.runId, c.lastSafeState, c.resumeMetadata, c.toolResultHashes, c.resourceEvidence,
      c.remediationProposal, c.localApprovalRequest, c.localApproval, c.localExecutionIntent,
      c.localExecutionReceipt, c.localVerification, c.createdAt, c.version))
    back fun c => congrArg Except.toOption (validate_of_violation c.back.valid)
  nodup := show (["run_id", "last_safe_state", "resume_metadata", "tool_result_hashes",
    "resource_evidence", "remediation_proposal", "local_approval_request", "local_approval",
    "local_execution_intent", "local_execution_receipt", "local_verification", "created_at",
    "version"] : List String).Nodup by decide

/-! ## The round trip -/

/-- `serialize_record`. -/
def serializeRecord {ρ : Type} (M : Model ρ) (r : ρ) : Except PyExc Json :=
  Dynamo.toDynamoAttribute (M.codec.dump r)

/-- `deserialize_record`. -/
def deserializeRecord [FloatParse] {ρ : Type} (M : Model ρ) (stored : Json) : Except PyExc ρ := do
  let payload ← Dynamo.fromDynamoAttribute stored
  match payload with
  | .obj _ => match M.codec.load payload with
    | some r => return r
    | none => throw (.storageDependency "stored record violates the typed NZ contract")
  | _ => throw (.storageDependency "stored record payload is not a map")

/-- **A record comes back**, or is not serialized at all. -/
theorem deserialize_serialize [FloatParse] {ρ : Type} (M : Model ρ) {r : ρ}
    (ht : ∀ t ∈ M.times r, t ≤ Time.datetimeMax) (hfloat : Dynamo.FloatsParse (M.codec.dump r)) :
    if encodable (M.codec.dump r) then
      (serializeRecord M r >>= deserializeRecord M) = .ok (M.back r)
    else ∃ e, serializeRecord M r = .error e := by
  split
  · next henc =>
    obtain ⟨a, hto, hfrom⟩ := Dynamo.exists_encodes henc hfloat
    obtain ⟨fields, hsorted, -⟩ := M.payload r
    have hload : M.codec.load (.obj fields) = some (M.back r) := by
      rw [← hsorted]
      exact M.codec.load_dump r ht
    have hread : Dynamo.fromDynamoAttribute a = .ok (.obj fields) := hfrom.trans (congrArg _ hsorted)
    rw [serializeRecord, hto]
    show deserializeRecord M a = _
    simp only [deserializeRecord, hread, bind, Except.bind, hload]
    rfl
  · next henc =>
    cases hto : serializeRecord M r with
    | error e => exact ⟨e, rfl⟩
    | ok a => exact absurd (Dynamo.encodable_of_toDynamoAttribute hto) henc

/-- The contracts the repository stores. -/
inductive DurableContract where
  | run | actionProposal | approval | idempotencyRecord | checkpoint | auditEvent
  | verificationEvidence
  deriving DecidableEq

/-- Two proposals are one Python value: their parameters are, and the rest is the same. -/
def RemediationProposal.Equal (p q : RemediationProposal) : Prop :=
  Json.Same (.obj p.normalizedParameters) (.obj q.normalizedParameters) ∧
    p = { q with normalizedParameters := p.normalizedParameters, parameters_ok := p.parameters_ok }

/-- Two checkpoints are one Python value. -/
def Checkpoint.Equal [Sha256] (c d : Checkpoint) : Prop :=
  (∀ k, Option.Rel Json.Same (c.resumeMetadata.lookup k) (d.resumeMetadata.lookup k)) ∧
    Option.Rel RemediationProposal.Equal c.remediationProposal d.remediationProposal ∧
    c.toCheckpointFields = { d.toCheckpointFields with
      resumeMetadata := c.resumeMetadata, remediationProposal := c.remediationProposal }

theorem RemediationProposal.back_equal (p : RemediationProposal) : p.back.Equal p := by
  refine ⟨?_, rfl⟩
  have hsame := same_sortKeys (.obj p.normalizedParameters)
  rw [Dynamo.sortKeys_obj] at hsame
  exact hsame

theorem Checkpoint.back_equal [Sha256] (c : Checkpoint) : c.back.Equal c := by
  refine ⟨fun k => ?_, ?_, rfl⟩
  · show Option.Rel Json.Same ((c.resumeMetadata.mapValues sortKeys).lookup k) _
    rw [Dict.lookup_mapValues]
    cases c.resumeMetadata.lookup k with
    | none => exact .none
    | some j => exact .some (same_sortKeys j)
  · show Option.Rel _ (c.remediationProposal.map RemediationProposal.back) _
    cases c.remediationProposal with
    | none => exact .none
    | some p => exact .some p.back_equal

namespace DurableContract

variable [Sha256]

def Record : DurableContract → Type
  | run => Run
  | actionProposal => ActionProposal
  | approval => Approval
  | idempotencyRecord => IdempotencyRecord
  | checkpoint => Checkpoint
  | auditEvent => AuditEvent
  | verificationEvidence => VerificationEvidence

def model : (d : DurableContract) → Model d.Record
  | run => Run.model
  | actionProposal => ActionProposal.model
  | approval => Approval.model
  | idempotencyRecord => IdempotencyRecord.model
  | checkpoint => Checkpoint.model
  | auditEvent => AuditEvent.model
  | verificationEvidence => VerificationEvidence.model

/-- Python's `==` of two records. -/
def Equal : (d : DurableContract) → d.Record → d.Record → Prop
  | checkpoint => Checkpoint.Equal
  | run | actionProposal | approval | idempotencyRecord | auditEvent | verificationEvidence => Eq

theorem back_equal : (d : DurableContract) → (r : d.Record) → d.Equal (d.model.back r) r
  | checkpoint => Checkpoint.back_equal
  | run | actionProposal | approval | idempotencyRecord | auditEvent | verificationEvidence =>
    fun _ => rfl

end DurableContract

end CloudOpsAgent
