/-
  The closed vocabularies of the Non-Zero workflow and its transition table.

  Each `StrEnum` of the source is an inductive type with a `value`, its wire text.  Two facts about
  the table carry most of what is proved about runs later:

  * `beforeExecuting_of_allowed` — no transition leads back into the states before `EXECUTING`, so
    a run can enter `EXECUTING` once;

  * `terminal_allows_nothing` — a terminal state has no successor.
-/
import Mathlib.Data.Finset.Basic

namespace CloudOpsAgent

/-! ## Workflow states -/

inductive WorkflowState where
  | received | investigating | evidenceReady | remediationProposed | awaitingApproval | approved
  | executing | verifying | noActionRequired | recommendationOnly | successWithEvidence
  | deniedByHuman | deniedByPolicy | modelOutputInvalid | ambiguousResult | dependencyUnavailable
  | budgetExhausted | executionFailed | verificationFailed | recoveryRequired
  deriving DecidableEq, Repr

namespace WorkflowState

def value : WorkflowState → String
  | received => "RECEIVED"
  | investigating => "INVESTIGATING"
  | evidenceReady => "EVIDENCE_READY"
  | remediationProposed => "REMEDIATION_PROPOSED"
  | awaitingApproval => "AWAITING_APPROVAL"
  | approved => "APPROVED"
  | executing => "EXECUTING"
  | verifying => "VERIFYING"
  | noActionRequired => "NO_ACTION_REQUIRED"
  | recommendationOnly => "RECOMMENDATION_ONLY"
  | successWithEvidence => "SUCCESS_WITH_EVIDENCE"
  | deniedByHuman => "DENIED_BY_HUMAN"
  | deniedByPolicy => "DENIED_BY_POLICY"
  | modelOutputInvalid => "MODEL_OUTPUT_INVALID"
  | ambiguousResult => "AMBIGUOUS_RESULT"
  | dependencyUnavailable => "DEPENDENCY_UNAVAILABLE"
  | budgetExhausted => "BUDGET_EXHAUSTED"
  | executionFailed => "EXECUTION_FAILED"
  | verificationFailed => "VERIFICATION_FAILED"
  | recoveryRequired => "RECOVERY_REQUIRED"

end WorkflowState

open WorkflowState

def TERMINAL_WORKFLOW_STATES : List WorkflowState :=
  [successWithEvidence, noActionRequired, recommendationOnly, deniedByHuman, deniedByPolicy,
    modelOutputInvalid, ambiguousResult, dependencyUnavailable, budgetExhausted, executionFailed,
    verificationFailed]

/-- `_COMMON_INVESTIGATION_FAILURES`. -/
def commonInvestigationFailures : List WorkflowState :=
  [deniedByPolicy, modelOutputInvalid, ambiguousResult, dependencyUnavailable, budgetExhausted,
    recoveryRequired]

def ALLOWED_WORKFLOW_TRANSITIONS : WorkflowState → List WorkflowState
  | received =>
    [investigating, deniedByPolicy, modelOutputInvalid, dependencyUnavailable, budgetExhausted]
  | investigating => evidenceReady :: commonInvestigationFailures
  | evidenceReady =>
    [remediationProposed, noActionRequired, recommendationOnly, deniedByPolicy] ++
      commonInvestigationFailures
  | remediationProposed => [awaitingApproval, deniedByPolicy, dependencyUnavailable, recoveryRequired]
  | awaitingApproval =>
    [approved, deniedByHuman, deniedByPolicy, modelOutputInvalid, dependencyUnavailable,
      budgetExhausted, recoveryRequired]
  | approved => [executing, dependencyUnavailable, recoveryRequired]
  | executing =>
    [verifying, deniedByPolicy, executionFailed, ambiguousResult, dependencyUnavailable,
      budgetExhausted, recoveryRequired]
  | verifying =>
    [successWithEvidence, deniedByPolicy, modelOutputInvalid, verificationFailed, ambiguousResult,
      dependencyUnavailable, budgetExhausted, recoveryRequired]
  | recoveryRequired => [verifying, deniedByPolicy, dependencyUnavailable, verificationFailed]
  | _ => []

/-- The states a run passes through before it can be `EXECUTING`. -/
def WorkflowState.beforeExecuting : WorkflowState → Bool
  | received | investigating | evidenceReady | remediationProposed | awaitingApproval | approved =>
    true
  | _ => false

/-- The states before a human decision can have been applied. -/
def WorkflowState.beforeApproved (s : WorkflowState) : Bool := s.beforeExecuting && s != approved

/-- Nothing leads back to the states before `EXECUTING` once they are left. -/
theorem beforeExecuting_of_allowed {cur next : WorkflowState}
    (h : next ∈ ALLOWED_WORKFLOW_TRANSITIONS cur) (hn : next.beforeExecuting = true) :
    cur.beforeExecuting = true := by
  cases cur <;> cases next <;> revert h hn <;> decide

theorem beforeApproved_of_allowed {cur next : WorkflowState}
    (h : next ∈ ALLOWED_WORKFLOW_TRANSITIONS cur) (hn : next.beforeApproved = true) :
    cur.beforeApproved = true := by
  cases cur <;> cases next <;> revert h hn <;> decide

/-- `EXECUTING` is entered only from `APPROVED`. -/
theorem approved_of_executing_allowed {cur : WorkflowState}
    (h : executing ∈ ALLOWED_WORKFLOW_TRANSITIONS cur) : cur = approved := by
  cases cur <;> revert h <;> decide

/-- `SUCCESS_WITH_EVIDENCE` is entered only from `VERIFYING`. -/
theorem verifying_of_success_allowed {cur : WorkflowState}
    (h : successWithEvidence ∈ ALLOWED_WORKFLOW_TRANSITIONS cur) : cur = verifying := by
  cases cur <;> revert h <;> decide

/-- `VERIFYING` is entered from `EXECUTING` or back from `RECOVERY_REQUIRED`. -/
theorem origin_of_verifying_allowed {cur : WorkflowState}
    (h : verifying ∈ ALLOWED_WORKFLOW_TRANSITIONS cur) :
    cur = executing ∨ cur = recoveryRequired := by
  cases cur <;> revert h <;> decide

/-- Past the human decision, `RECOVERY_REQUIRED` is entered from three states. -/
theorem origin_of_recoveryRequired_allowed {cur : WorkflowState}
    (h : recoveryRequired ∈ ALLOWED_WORKFLOW_TRANSITIONS cur) (hb : cur.beforeApproved = false) :
    cur = approved ∨ cur = executing ∨ cur = verifying := by
  cases cur <;> revert h hb <;> decide

theorem terminal_allows_nothing {cur next : WorkflowState} (h : cur ∈ TERMINAL_WORKFLOW_STATES) :
    next ∉ ALLOWED_WORKFLOW_TRANSITIONS cur := by
  cases cur <;> revert h <;> simp [TERMINAL_WORKFLOW_STATES, ALLOWED_WORKFLOW_TRANSITIONS]

/-! ## Policy and outcome vocabularies -/

inductive AuthorityGate where
  | auto | planAndConfirm | neverAutonomous
  deriving DecidableEq, Repr

def AuthorityGate.value : AuthorityGate → String
  | auto => "AUTO"
  | planAndConfirm => "PLAN_AND_CONFIRM"
  | neverAutonomous => "NEVER_AUTONOMOUS"

inductive Capability where
  | inspectInstance | readUtilizationMetrics | buildRemediationEvidence | stopSandboxInstance
  | verifyInstanceState | queryResource | planRemediation | releaseElasticIp | revokePublicIngress
  | terminateInstances | startInstances | rebootInstances | modifyInstanceAttribute | createTags
  | deleteTags | iamMutation | ssmCommandExecution | filesystemAccess | credentialAccess
  | unsafeStopOptions | storageDatabaseDeletion | securityGroupNetworkOpening | shellExecution
  | arbitraryCodeExecution | arbitraryUrlFetch | outsideSandboxScope
  deriving DecidableEq, Repr

namespace Capability

def value : Capability → String
  | inspectInstance => "inspect_instance"
  | readUtilizationMetrics => "read_utilization_metrics"
  | buildRemediationEvidence => "build_remediation_evidence"
  | stopSandboxInstance => "stop_sandbox_instance"
  | verifyInstanceState => "verify_instance_state"
  | queryResource => "query_resource"
  | planRemediation => "plan_remediation"
  | releaseElasticIp => "ReleaseAddress"
  | revokePublicIngress => "RevokeSecurityGroupIngress"
  | terminateInstances => "TerminateInstances"
  | startInstances => "StartInstances"
  | rebootInstances => "RebootInstances"
  | modifyInstanceAttribute => "ModifyInstanceAttribute"
  | createTags => "CreateTags"
  | deleteTags => "DeleteTags"
  | iamMutation => "IAM_MUTATION"
  | ssmCommandExecution => "SSM_COMMAND_EXECUTION"
  | filesystemAccess => "FILESYSTEM_ACCESS"
  | credentialAccess => "CREDENTIAL_ACCESS"
  | unsafeStopOptions => "UNSAFE_STOP_OPTIONS"
  | storageDatabaseDeletion => "STORAGE_DATABASE_DELETION"
  | securityGroupNetworkOpening => "SECURITY_GROUP_NETWORK_OPENING"
  | shellExecution => "SHELL_EXECUTION"
  | arbitraryCodeExecution => "ARBITRARY_CODE_EXECUTION"
  | arbitraryUrlFetch => "ARBITRARY_URL_FETCH"
  | outsideSandboxScope => "OUTSIDE_SANDBOX_SCOPE"

/-- `_CAPABILITY_AUTHORITY`. -/
def authority : Capability → AuthorityGate
  | inspectInstance | readUtilizationMetrics | buildRemediationEvidence | verifyInstanceState
  | queryResource => .auto
  | stopSandboxInstance | planRemediation | releaseElasticIp | revokePublicIngress =>
    .planAndConfirm
  | _ => .neverAutonomous

end Capability

inductive ProposalState where
  | proposed | awaitingApproval | superseded
  deriving DecidableEq, Repr

def ProposalState.value : ProposalState → String
  | proposed => "PROPOSED"
  | awaitingApproval => "AWAITING_APPROVAL"
  | superseded => "SUPERSEDED"

inductive ApprovalDecision where
  | approved | denied
  deriving DecidableEq, Repr

def ApprovalDecision.value : ApprovalDecision → String
  | approved => "APPROVED"
  | denied => "DENIED"

theorem ApprovalDecision.value_inj {d d' : ApprovalDecision} (h : d.value = d'.value) : d = d' := by
  revert h
  cases d <;> cases d' <;> decide

/-- The workflow state a decision leads to. -/
def ApprovalDecision.targetState : ApprovalDecision → WorkflowState
  | approved => .approved
  | denied => .deniedByHuman

inductive FailureKind where
  | validationFailure | policyDenial | ambiguousResult | dependencyUnavailable | budgetExhaustion
  | executionFailure | verificationFailure | recoveryRequirement | illegalStateTransition
  | providerFailure | toolAdapterFailure | storageFailure | idempotencyConflict | notFound
  | configurationError
  deriving DecidableEq, Repr

namespace FailureKind

def value : FailureKind → String
  | validationFailure => "VALIDATION_FAILURE"
  | policyDenial => "POLICY_DENIAL"
  | ambiguousResult => "AMBIGUOUS_RESULT"
  | dependencyUnavailable => "DEPENDENCY_UNAVAILABLE"
  | budgetExhaustion => "BUDGET_EXHAUSTION"
  | executionFailure => "EXECUTION_FAILURE"
  | verificationFailure => "VERIFICATION_FAILURE"
  | recoveryRequirement => "RECOVERY_REQUIREMENT"
  | illegalStateTransition => "ILLEGAL_STATE_TRANSITION"
  | providerFailure => "PROVIDER_FAILURE"
  | toolAdapterFailure => "TOOL_ADAPTER_FAILURE"
  | storageFailure => "STORAGE_FAILURE"
  | idempotencyConflict => "IDEMPOTENCY_CONFLICT"
  | notFound => "NOT_FOUND"
  | configurationError => "CONFIGURATION_ERROR"

/-- `workflow_state_for_failure`: the one durable state of each failure category. -/
def workflowState : FailureKind → WorkflowState
  | validationFailure => .modelOutputInvalid
  | policyDenial => .deniedByPolicy
  | ambiguousResult => .ambiguousResult
  | dependencyUnavailable => .dependencyUnavailable
  | budgetExhaustion => .budgetExhausted
  | executionFailure => .executionFailed
  | verificationFailure => .verificationFailed
  | recoveryRequirement => .recoveryRequired
  | illegalStateTransition => .recoveryRequired
  | providerFailure => .dependencyUnavailable
  | toolAdapterFailure => .dependencyUnavailable
  | storageFailure => .dependencyUnavailable
  | idempotencyConflict => .recoveryRequired
  | notFound => .ambiguousResult
  | configurationError => .deniedByPolicy

/-- No failure is filed under success or under a state a mutation can still start from. -/
theorem workflowState_not_active (k : FailureKind) :
    k.workflowState ≠ .successWithEvidence ∧ k.workflowState ≠ .verifying ∧
      k.workflowState.beforeExecuting = false ∧ k.workflowState ≠ .executing := by
  cases k <;> decide

end FailureKind

inductive ActionOutcome where
  | succeeded | failed | ambiguous | reconciliationRequired
  deriving DecidableEq, Repr

def ActionOutcome.value : ActionOutcome → String
  | succeeded => "SUCCEEDED"
  | failed => "FAILED"
  | ambiguous => "AMBIGUOUS"
  | reconciliationRequired => "RECONCILIATION_REQUIRED"

inductive IdempotencyStatus where
  | registered | completed | failed | reconciliationRequired
  deriving DecidableEq, Repr

def IdempotencyStatus.value : IdempotencyStatus → String
  | registered => "REGISTERED"
  | completed => "COMPLETED"
  | failed => "FAILED"
  | reconciliationRequired => "RECONCILIATION_REQUIRED"

inductive VerificationDisposition where
  | verified | stillTransitioning | mismatch
  deriving DecidableEq, Repr

def VerificationDisposition.value : VerificationDisposition → String
  | verified => "VERIFIED"
  | stillTransitioning => "STILL_TRANSITIONING"
  | mismatch => "MISMATCH"

inductive VerificationProofOrigin where
  | executionAcknowledgement | recoveryReadBack
  deriving DecidableEq, Repr

def VerificationProofOrigin.value : VerificationProofOrigin → String
  | executionAcknowledgement => "EXECUTION_ACKNOWLEDGEMENT"
  | recoveryReadBack => "RECOVERY_READ_BACK"

inductive ObservedInstanceState where
  | pending | running | stopping | stopped
  deriving DecidableEq, Repr

def ObservedInstanceState.value : ObservedInstanceState → String
  | pending => "pending"
  | running => "running"
  | stopping => "stopping"
  | stopped => "stopped"

/-- States returned by EC2 `DescribeInstances`. -/
inductive Ec2InstanceState where
  | pending | running | shuttingDown | terminated | stopping | stopped
  deriving DecidableEq, Repr

namespace Ec2InstanceState

def value : Ec2InstanceState → String
  | pending => "pending"
  | running => "running"
  | shuttingDown => "shutting-down"
  | terminated => "terminated"
  | stopping => "stopping"
  | stopped => "stopped"

/-- What a read-back of this state means for a stop that should have happened. -/
def disposition : Ec2InstanceState → VerificationDisposition
  | stopped => .verified
  | stopping => .stillTransitioning
  | _ => .mismatch

theorem disposition_verified {s : Ec2InstanceState} : s.disposition = .verified ↔ s = .stopped := by
  cases s <;> simp [disposition]

end Ec2InstanceState

inductive AuditEventType where
  | runCreated | stateTransitioned | proposalCreated | approvalRequested | approvalRecorded
  | idempotencyRegistered | executionRequested | executionAcknowledged | verificationStarted
  | verificationObserved | checkpointSaved | toolObserved | modelObserved | verificationRecorded
  | recoveryClassified | recoveryObserved | recoveryCompleted | recoveryDeferred | policyDenied
  | modelOutputRejected | budgetUpdated | budgetExhausted | resourceQueried | remediationPlanned
  | noActionRecorded | recommendationRecorded
  deriving DecidableEq, Repr

def AuditEventType.value : AuditEventType → String
  | runCreated => "RUN_CREATED"
  | stateTransitioned => "STATE_TRANSITIONED"
  | proposalCreated => "PROPOSAL_CREATED"
  | approvalRequested => "APPROVAL_REQUESTED"
  | approvalRecorded => "APPROVAL_RECORDED"
  | idempotencyRegistered => "IDEMPOTENCY_REGISTERED"
  | executionRequested => "EXECUTION_REQUESTED"
  | executionAcknowledged => "EXECUTION_ACKNOWLEDGED"
  | verificationStarted => "VERIFICATION_STARTED"
  | verificationObserved => "VERIFICATION_OBSERVED"
  | checkpointSaved => "CHECKPOINT_SAVED"
  | toolObserved => "TOOL_OBSERVED"
  | modelObserved => "MODEL_OBSERVED"
  | verificationRecorded => "VERIFICATION_RECORDED"
  | recoveryClassified => "RECOVERY_CLASSIFIED"
  | recoveryObserved => "RECOVERY_OBSERVED"
  | recoveryCompleted => "RECOVERY_COMPLETED"
  | recoveryDeferred => "RECOVERY_DEFERRED"
  | policyDenied => "POLICY_DENIED"
  | modelOutputRejected => "MODEL_OUTPUT_REJECTED"
  | budgetUpdated => "BUDGET_UPDATED"
  | budgetExhausted => "BUDGET_EXHAUSTED"
  | resourceQueried => "RESOURCE_QUERIED"
  | remediationPlanned => "REMEDIATION_PLANNED"
  | noActionRecorded => "NO_ACTION_RECORDED"
  | recommendationRecorded => "RECOMMENDATION_RECORDED"

/-! ## Local CloudSecOps vocabularies -/

inductive CloudResourceType where
  | ec2Instance | elasticIp | securityGroup
  deriving DecidableEq, Repr

def CloudResourceType.value : CloudResourceType → String
  | ec2Instance => "AWS::EC2::Instance"
  | elasticIp => "AWS::EC2::EIP"
  | securityGroup => "AWS::EC2::SecurityGroup"

theorem CloudResourceType.value_inj {t t' : CloudResourceType} (h : t.value = t'.value) :
    t = t' := by
  revert h
  cases t <;> cases t' <;> decide

inductive CloudFinding where
  | unattachedElasticIp | overlyPermissiveIngress | requiredTagsMissing | clean
  deriving DecidableEq, Repr

def CloudFinding.value : CloudFinding → String
  | unattachedElasticIp => "UNATTACHED_ELASTIC_IP"
  | overlyPermissiveIngress => "OVERLY_PERMISSIVE_INGRESS"
  | requiredTagsMissing => "REQUIRED_TAGS_MISSING"
  | clean => "CLEAN"

inductive RemediationOperation where
  | releaseElasticIp | revokePublicIngress | applyRequiredTags
  deriving DecidableEq, Repr

namespace RemediationOperation

def value : RemediationOperation → String
  | releaseElasticIp => "RELEASE_ELASTIC_IP"
  | revokePublicIngress => "REVOKE_PUBLIC_INGRESS"
  | applyRequiredTags => "APPLY_REQUIRED_TAGS"

theorem value_inj {o o' : RemediationOperation} (h : o.value = o'.value) : o = o' := by
  revert h
  cases o <;> cases o' <;> decide

/-- The resource kind and authority the proposal validator requires of each operation. -/
def policy : RemediationOperation → CloudResourceType × AuthorityGate
  | releaseElasticIp => (.elasticIp, .planAndConfirm)
  | revokePublicIngress => (.securityGroup, .planAndConfirm)
  | applyRequiredTags => (.ec2Instance, .neverAutonomous)

end RemediationOperation

end CloudOpsAgent
