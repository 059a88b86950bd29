/-
  Ownership-bound, plan-only rollback and cleanup.

  A contract says what the stack may hold, an observation what is there, and a plan what may be done
  about it; nothing is executed.  The planner and the validator of a plan each work out the status,
  the actions and the hash, and an approval is checked against the plan that was validated:

      contract, observations ── plan_cleanup ──→ CleanupPlan ── authorize_cleanup_plan ──→ envelope

  1. **Records** — each with its validator as a field; `PlanFields.violation` and
     `EnvelopeFields.violation` are the two that recompute a hash.

  2. **The planner and the gate** — as the source runs them.

  3. **Items** — what one item says of the resource with its id (`planItem_spec`).

  4. **Safety** — the plan validates, and is destructive exactly when all that was observed is owned
     and something of it may go (`planCleanup_spec`); who is authorized (`authorize_ok_iff`).
-/
import CloudOpsAgent.Nz.Encoding
import CloudOpsAgent.Nz.Sha256
import Mathlib.Data.List.Dedup

namespace CloudOpsAgent

namespace Cleanup

/-! ## Records -/

/-- `CleanupError`, by its reason, and `ValidationError`, by its message. -/
inductive CleanupError where
  | deploymentContractMismatch | resourceManifestMismatch | ruleInternalError
  | authorizationClockInvalid | planNotAuthorizable | approvalDeploymentMismatch
  | approvalPlanMismatch | approvalActionSetMismatch | approvalStale | approvalReplayed
  | validation (message : String)
  deriving DecidableEq

/-- `^[0-9a-f]{40}$`. -/
structure GitSha where
  bits : BitVec 160
  deriving DecidableEq

def GitSha.hex (s : GitSha) : String := String.ofList (UUID.hexDigits s.bits.toNat 40)

/-- `^p3-[0-9a-f]{8}-[0-9a-f]{4}-[0-9a-f]{4}$`. -/
structure DeploymentId where
  bits : BitVec 64
  deriving DecidableEq

def DeploymentId.str (d : DeploymentId) : String :=
  let n := d.bits.toNat
  String.ofList <| 'p' :: '3' :: '-' :: UUID.hexDigits (n / 2 ^ 32) 8 ++
    '-' :: UUID.hexDigits (n / 2 ^ 16) 4 ++ '-' :: UUID.hexDigits n 4

/-- `^[A-Za-z][A-Za-z0-9]{0,254}$`. -/
def isLogicalId (s : String) : Bool :=
  s.toList.head?.any Char.isAlpha && s.toList.all Char.isAlphanum && s.length ≤ 255

structure LogicalId where
  text : String
  valid : isLogicalId text
  deriving DecidableEq

inductive DeploymentPartialState where
  | deploymentStartedThenFailed | resourceExistsVerificationFailed | approvalExpired | retry
  | rollbackPartiallyFailed | deploymentVerified
  deriving DecidableEq

namespace DeploymentPartialState

def value : DeploymentPartialState → String
  | deploymentStartedThenFailed => "DEPLOYMENT_STARTED_THEN_FAILED"
  | resourceExistsVerificationFailed => "RESOURCE_EXISTS_VERIFICATION_FAILED"
  | approvalExpired => "APPROVAL_EXPIRED"
  | retry => "RETRY"
  | rollbackPartiallyFailed => "ROLLBACK_PARTIALLY_FAILED"
  | deploymentVerified => "DEPLOYMENT_VERIFIED"

/-- `tuple(DeploymentPartialState)`. -/
def all : List DeploymentPartialState :=
  [deploymentStartedThenFailed, resourceExistsVerificationFailed, approvalExpired, retry,
    rollbackPartiallyFailed, deploymentVerified]

end DeploymentPartialState

inductive CleanupAttemptState where
  | neverAttempted | previouslyFailed | previouslyConfirmedAbsent
  deriving DecidableEq

inductive CleanupPlanStatus where
  | readyForOperatorReview | blockedOwnership | noActionRequired
  deriving DecidableEq

def CleanupPlanStatus.value : CleanupPlanStatus → String
  | readyForOperatorReview => "READY_FOR_OPERATOR_REVIEW"
  | blockedOwnership => "BLOCKED_OWNERSHIP"
  | noActionRequired => "NO_ACTION_REQUIRED"

inductive CleanupAction where
  | deleteWithCloudformationStack | retryCloudformationStackDelete
  | retainPendingExplicitDisposition | noObservedResource | alreadyConfirmedAbsent
  | doNotDeleteOwnershipUnproven
  deriving DecidableEq

namespace CleanupAction

def value : CleanupAction → String
  | deleteWithCloudformationStack => "DELETE_WITH_CLOUDFORMATION_STACK"
  | retryCloudformationStackDelete => "RETRY_CLOUDFORMATION_STACK_DELETE"
  | retainPendingExplicitDisposition => "RETAIN_PENDING_EXPLICIT_DISPOSITION"
  | noObservedResource => "NO_OBSERVED_RESOURCE"
  | alreadyConfirmedAbsent => "ALREADY_CONFIRMED_ABSENT"
  | doNotDeleteOwnershipUnproven => "DO_NOT_DELETE_OWNERSHIP_UNPROVEN"

/-- `destructive_actions`. -/
def isDestructive (a : CleanupAction) : Bool :=
  a = deleteWithCloudformationStack || a = retryCloudformationStackDelete

end CleanupAction

inductive ResourceLifecycle where
  | stackDelete | retainExplicitDisposition | conditionalStackDelete
  deriving DecidableEq

def ResourceLifecycle.value : ResourceLifecycle → String
  | stackDelete => "STACK_DELETE"
  | retainExplicitDisposition => "RETAIN_EXPLICIT_DISPOSITION"
  | conditionalStackDelete => "CONDITIONAL_STACK_DELETE"

inductive OwnershipProof where
  | stackAndExactTags | stackMembershipAndLogicalId
  deriving DecidableEq

def OwnershipProof.value : OwnershipProof → String
  | stackAndExactTags => "STACK_AND_EXACT_TAGS"
  | stackMembershipAndLogicalId => "STACK_MEMBERSHIP_AND_LOGICAL_ID"

structure CleanupRule where
  logicalId : LogicalId
  resourceType : String
  ownershipProof : OwnershipProof
  lifecycle : ResourceLifecycle
  rollbackAction : CleanupAction
  partialFailureAction : CleanupAction
  cleanupBehavior : String
  rule_ok :
    if lifecycle = .retainExplicitDisposition then
      rollbackAction = .retainPendingExplicitDisposition ∧
        partialFailureAction = .retainPendingExplicitDisposition
    else
      rollbackAction = .deleteWithCloudformationStack ∧
        partialFailureAction = .retryCloudformationStackDelete

def CleanupRule.toJson (r : CleanupRule) : Json :=
  .obj [("logical_id", .str r.logicalId.text), ("resource_type", .str r.resourceType),
    ("ownership_proof", .str r.ownershipProof.value), ("lifecycle", .str r.lifecycle.value),
    ("rollback_action", .str r.rollbackAction.value),
    ("partial_failure_action", .str r.partialFailureAction.value),
    ("cleanup_behavior", .str r.cleanupBehavior)]

inductive OwnershipRequirement where
  | deploymentIdMatch | stackIdHashMatch | stackMembershipConfirmed | contractHashMatch
  | logicalIdAndTypeMatch | exactTagsWhenSupported

def OwnershipRequirement.value : OwnershipRequirement → String
  | deploymentIdMatch => "DEPLOYMENT_ID_MATCH"
  | stackIdHashMatch => "STACK_ID_HASH_MATCH"
  | stackMembershipConfirmed => "STACK_MEMBERSHIP_CONFIRMED"
  | contractHashMatch => "CONTRACT_HASH_MATCH"
  | logicalIdAndTypeMatch => "LOGICAL_ID_AND_TYPE_MATCH"
  | exactTagsWhenSupported => "EXACT_TAGS_WHEN_SUPPORTED"

inductive ApprovalRequirement where
  | explicitApprovedDecision | planHashMatch | deploymentIdMatch | fifteenMinuteMaxLifetime
  | oneTimeNonce | exactActionSet

def ApprovalRequirement.value : ApprovalRequirement → String
  | explicitApprovedDecision => "EXPLICIT_APPROVED_DECISION"
  | planHashMatch => "PLAN_HASH_MATCH"
  | deploymentIdMatch => "DEPLOYMENT_ID_MATCH"
  | fifteenMinuteMaxLifetime => "FIFTEEN_MINUTE_MAX_LIFETIME"
  | oneTimeNonce => "ONE_TIME_NONCE"
  | exactActionSet => "EXACT_ACTION_SET"

/-- The tags a contract must have. -/
def ownershipTagFields : List (String × String) :=
  [("AIOAProject", "NonZeroCloudOps"), ("AIOAStage", "hackathon"), ("ManagedBy", "CloudFormation")]

def exactOwnershipTags : Dict String String := Dict.ofPairs ownershipTagFields

/-- The ids of a tuple are in order, and each stands once. -/
def Ordered (ids : List LogicalId) : Prop :=
  (ids.map LogicalId.text).Pairwise (· ≤ ·) ∧ ids.Nodup

structure RollbackCleanupContract where
  deploymentContractSha256 : Sha256Digest
  expectedResourceManifestSha256 : Sha256Digest
  ownershipRequirements : List OwnershipRequirement
  approvalRequirements : List ApprovalRequirement
  ownershipTags : Dict String String
  rules : List CleanupRule
  rules_ok : Ordered (rules.map CleanupRule.logicalId)
  tags_ok : ownershipTags = exactOwnershipTags

/-- `model_dump(mode="json")`; the states and the tags have one value each. -/
def RollbackCleanupContract.toJson (c : RollbackCleanupContract) : Json :=
  .obj [("schema_version", .int 1), ("contract_id", .str "AIOA_PHASE3_ROLLBACK_CLEANUP_CONTRACT"),
    ("policy", .str "OWNERSHIP_BOUND_EXPLICIT_APPROVAL_ONLY"),
    ("deployment_contract_sha256", .str c.deploymentContractSha256.hex),
    ("expected_resource_manifest_sha256", .str c.expectedResourceManifestSha256.hex),
    ("partial_states", .arr (DeploymentPartialState.all.map fun s => .str s.value)),
    ("ownership_requirements", .arr (c.ownershipRequirements.map fun r => .str r.value)),
    ("approval_requirements", .arr (c.approvalRequirements.map fun r => .str r.value)),
    ("ownership_tags", .obj (ownershipTagFields.map fun t => (t.1, .str t.2))),
    ("rules", .arr (c.rules.map CleanupRule.toJson)),
    ("retained_resources_require_separate_disposition", .bool true),
    ("execution_default_enabled", .bool false), ("cli_emits_cloud_commands", .bool false),
    ("network_connections", .int 0), ("aws_mutations", .int 0), ("live_receipts", .int 0)]

structure DeploymentCleanupBinding where
  deploymentId : DeploymentId
  repoSha : GitSha
  deploymentContractSha256 : Sha256Digest
  expectedResourceManifestSha256 : Sha256Digest
  stackIdSha256 : Sha256Digest

def DeploymentCleanupBinding.toJson (b : DeploymentCleanupBinding) : Json :=
  .obj [("deployment_id", .str b.deploymentId.str), ("repo_sha", .str b.repoSha.hex),
    ("deployment_contract_sha256", .str b.deploymentContractSha256.hex),
    ("expected_resource_manifest_sha256", .str b.expectedResourceManifestSha256.hex),
    ("stack_id_sha256", .str b.stackIdSha256.hex)]

structure ObservedCleanupResource where
  logicalId : LogicalId
  resourceType : String
  deploymentId : DeploymentId
  deploymentContractSha256 : Sha256Digest
  stackIdSha256 : Sha256Digest
  stackMembershipConfirmed : Bool
  ownershipTags : Option (Dict String String)
  cleanupAttemptState : CleanupAttemptState

structure CleanupObservationFixture where
  binding : DeploymentCleanupBinding
  resources : List ObservedCleanupResource
  resources_ok : Ordered (resources.map ObservedCleanupResource.logicalId)

structure CleanupPlanItem where
  logicalId : LogicalId
  resourceType : String
  action : CleanupAction
  ownershipProven : Bool
  reason : String
  destructive : Bool
  flag_ok : destructive = action.isDestructive
  owned_ok : destructive → ownershipProven

def CleanupPlanItem.toJson (i : CleanupPlanItem) : Json :=
  .obj [("logical_id", .str i.logicalId.text), ("resource_type", .str i.resourceType),
    ("action", .str i.action.value), ("ownership_proven", .bool i.ownershipProven),
    ("reason", .str i.reason), ("destructive", .bool i.destructive)]

/-- `Literal["CLEANUP_STACK_DELETE"]`. -/
inductive DestructiveActionId where
  | cleanupStackDelete
  deriving DecidableEq

def DestructiveActionId.value : DestructiveActionId → String
  | cleanupStackDelete => "CLEANUP_STACK_DELETE"

/-- The fields of a plan that are not fixed. -/
structure PlanFields where
  status : CleanupPlanStatus
  deploymentState : DeploymentPartialState
  binding : DeploymentCleanupBinding
  cleanupContractSha256 : Sha256Digest
  items : List CleanupPlanItem
  destructiveActionIds : List DestructiveActionId
  planSha256 : Sha256Digest

namespace PlanFields

/-- `model_dump(mode="json", exclude={"plan_sha256"})`, in the order of the class. -/
def modelDump (f : PlanFields) : Json :=
  .obj [("schema_version", .int 1), ("plan_type", .str "PHASE3_CLEANUP_PLAN_ONLY"),
    ("status", .str f.status.value), ("deployment_state", .str f.deploymentState.value),
    ("binding", f.binding.toJson), ("cleanup_contract_sha256", .str f.cleanupContractSha256.hex),
    ("items", .arr (f.items.map CleanupPlanItem.toJson)),
    ("destructive_action_ids", .arr (f.destructiveActionIds.map fun a => .str a.value)),
    ("requires_explicit_operator_approval", .bool true),
    ("execution_default_enabled", .bool false), ("cloud_commands_emitted", .int 0),
    ("network_connections", .int 0), ("aws_mutations", .int 0), ("live_receipts", .int 0)]

/-- `validate_plan`: the message of the first check that fails. -/
def violation [Sha256] (f : PlanFields) : Option String :=
  let blocked := f.items.any fun i => i.action = .doNotDeleteOwnershipUnproven
  let destructive := f.items.any CleanupPlanItem.destructive
  let expectedStatus : CleanupPlanStatus :=
    if blocked then .blockedOwnership
    else if destructive then .readyForOperatorReview
    else .noActionRequired
  let expectedActions := if destructive && !blocked then [DestructiveActionId.cleanupStackDelete] else []
  if ¬ (f.items.map fun i => i.logicalId.text).Pairwise (· ≤ ·) then
    some "cleanup plan items must be ordered by logical ID"
  else if f.status ≠ expectedStatus then some "cleanup plan status is inconsistent"
  else if f.destructiveActionIds ≠ expectedActions then
    some "cleanup destructive action set is inconsistent"
  else if f.planSha256 ≠ canonicalDigest f.modelDump then some "cleanup plan hash is invalid"
  else none

end PlanFields

structure CleanupPlan [Sha256] extends PlanFields where
  valid : toPlanFields.violation = none

/-- `CleanupPlan.model_validate_json`. -/
def PlanFields.validate [Sha256] (f : PlanFields) : Except CleanupError CleanupPlan :=
  match h : f.violation with
  | none => .ok { f with valid := h }
  | some message => .error (.validation message)

structure CleanupApproval where
  deploymentId : DeploymentId
  planSha256 : Sha256Digest
  destructiveActionIds : List DestructiveActionId
  operatorSubjectSha256 : Sha256Digest
  approvalNonceSha256 : Sha256Digest
  issuedAt : Time
  expiresAt : Time
  lifetime_ok : issuedAt < expiresAt ∧ expiresAt ≤ issuedAt + seconds 900
  actions_ok : destructiveActionIds = [.cleanupStackDelete]

/-- The fields of an authorization that are not fixed. -/
structure EnvelopeFields where
  deploymentId : DeploymentId
  planSha256 : Sha256Digest
  approvalNonceSha256 : Sha256Digest
  destructiveActionIds : List DestructiveActionId
  authorizationSha256 : Sha256Digest

namespace EnvelopeFields

/-- `model_dump(mode="json", exclude={"authorization_sha256"})`, in the order of the class. -/
def modelDump (f : EnvelopeFields) : Json :=
  .obj [("schema_version", .int 1), ("status", .str "AUTHORIZED_BUT_NOT_EXECUTED"),
    ("deployment_id", .str f.deploymentId.str), ("plan_sha256", .str f.planSha256.hex),
    ("approval_nonce_sha256", .str f.approvalNonceSha256.hex),
    ("destructive_action_ids", .arr (f.destructiveActionIds.map fun a => .str a.value)),
    ("execution_default_enabled", .bool false), ("cloud_commands_emitted", .int 0),
    ("network_connections", .int 0), ("aws_mutations", .int 0), ("live_receipts", .int 0)]

/-- `validate_authorization`. -/
def violation [Sha256] (f : EnvelopeFields) : Option String :=
  if f.authorizationSha256 ≠ canonicalDigest f.modelDump then
    some "cleanup authorization hash is invalid"
  else none

end EnvelopeFields

structure CleanupAuthorizationEnvelope [Sha256] extends EnvelopeFields where
  valid : toEnvelopeFields.violation = none

/-- `CleanupAuthorizationEnvelope.model_validate_json`. -/
def EnvelopeFields.validate [Sha256] (f : EnvelopeFields) :
    Except CleanupError CleanupAuthorizationEnvelope :=
  match h : f.violation with
  | none => .ok { f with valid := h }
  | some message => .error (.validation message)

/-! ## The planner and the gate -/

/-- `_ownership_proven`. -/
def ownershipProven (observation : ObservedCleanupResource) (rule : CleanupRule)
    (binding : DeploymentCleanupBinding) (tags : Dict String String) : Bool :=
  if observation.logicalId ≠ rule.logicalId ∨ observation.resourceType ≠ rule.resourceType ∨
      observation.deploymentId ≠ binding.deploymentId ∨
      observation.deploymentContractSha256 ≠ binding.deploymentContractSha256 ∨
      observation.stackIdSha256 ≠ binding.stackIdSha256 ∨
      observation.stackMembershipConfirmed = false then false
  else if rule.ownershipProof = .stackAndExactTags then observation.ownershipTags = some tags
  else observation.ownershipTags = none

/-- The action on a resource that is owned, and its reason. -/
def ownedAction (deploymentState : DeploymentPartialState) (rule : CleanupRule)
    (observation : ObservedCleanupResource) : CleanupAction × String :=
  if observation.cleanupAttemptState = .previouslyConfirmedAbsent then
    (.alreadyConfirmedAbsent, "INDEPENDENT_ABSENCE_ALREADY_RECORDED")
  else if rule.lifecycle = .retainExplicitDisposition then
    (.retainPendingExplicitDisposition,
      "RETAIN_POLICY_REQUIRES_SEPARATE_DATA_OR_VERSION_DISPOSITION")
  else if deploymentState = .rollbackPartiallyFailed ∨
      observation.cleanupAttemptState = .previouslyFailed then
    (.retryCloudformationStackDelete, "OWNED_STACK_RESOURCE_REMAINS_AFTER_FAILED_CLEANUP")
  else
    (.deleteWithCloudformationStack, "OWNED_STACK_RESOURCE_ELIGIBLE_AFTER_EXPLICIT_APPROVAL")

section Planner

variable (contract : RollbackCleanupContract) (observations : CleanupObservationFixture)
  (deploymentState : DeploymentPartialState)

/-- `rules.get(logical_id)`; ids are unique. -/
def ruleOf (id : LogicalId) : Option CleanupRule := contract.rules.find? (·.logicalId = id)

/-- `observed.get(logical_id)`. -/
def observationOf (id : LogicalId) : Option ObservedCleanupResource :=
  observations.resources.find? (·.logicalId = id)

/-- The body of the loop. -/
def planItem (id : LogicalId) : Except CleanupError CleanupPlanItem :=
  match ruleOf contract id, observationOf observations id with
  | none, some observation => .ok {
      logicalId := id, resourceType := observation.resourceType
      action := .doNotDeleteOwnershipUnproven, ownershipProven := false
      reason := "RESOURCE_NOT_IN_EXPECTED_MANIFEST", destructive := false
      flag_ok := rfl, owned_ok := nofun }
  | none, none => .error .ruleInternalError
  | some rule, none => .ok {
      logicalId := id, resourceType := rule.resourceType
      action := .noObservedResource, ownershipProven := false
      reason := "RESOURCE_NOT_OBSERVED_IN_PARTIAL_STATE", destructive := false
      flag_ok := rfl, owned_ok := nofun }
  | some rule, some observation =>
    if !ownershipProven observation rule observations.binding contract.ownershipTags then .ok {
      logicalId := id, resourceType := observation.resourceType
      action := .doNotDeleteOwnershipUnproven, ownershipProven := false
      reason := "OWNERSHIP_BINDING_NOT_PROVEN", destructive := false
      flag_ok := rfl, owned_ok := nofun }
    else
      let (action, reason) := ownedAction deploymentState rule observation
      .ok {
        logicalId := id, resourceType := rule.resourceType
        action, ownershipProven := true, reason, destructive := action.isDestructive
        flag_ok := rfl, owned_ok := fun _ => rfl }

/-- `sorted(set(rules) | set(observed))`. -/
def plannedIds : List LogicalId :=
  ((contract.rules.map CleanupRule.logicalId ++
    observations.resources.map ObservedCleanupResource.logicalId).dedup).insertionSort
      fun a b => a.text ≤ b.text

/-- `_plan_material`. -/
def planMaterial (f : PlanFields) : Json :=
  .obj [("aws_mutations", .int 0), ("binding", f.binding.toJson),
    ("cleanup_contract_sha256", .str f.cleanupContractSha256.hex),
    ("cloud_commands_emitted", .int 0), ("deployment_state", .str f.deploymentState.value),
    ("destructive_action_ids", .arr (f.destructiveActionIds.map fun a => .str a.value)),
    ("execution_default_enabled", .bool false),
    ("items", .arr (f.items.map CleanupPlanItem.toJson)), ("live_receipts", .int 0),
    ("network_connections", .int 0), ("plan_type", .str "PHASE3_CLEANUP_PLAN_ONLY"),
    ("requires_explicit_operator_approval", .bool true), ("schema_version", .int 1),
    ("status", .str f.status.value)]

/-- The plan of these items, hashed and validated. -/
def planOf [Sha256] (items : List CleanupPlanItem) : Except CleanupError CleanupPlan :=
  let blocked := items.any fun i => i.action = .doNotDeleteOwnershipUnproven
  let destructive := items.any CleanupPlanItem.destructive
  let status : CleanupPlanStatus :=
    if blocked then .blockedOwnership
    else if destructive then .readyForOperatorReview
    else .noActionRequired
  let destructiveActionIds :=
    if destructive && !blocked then [DestructiveActionId.cleanupStackDelete] else []
  -- the digest is of the other fields
  let fields : PlanFields :=
    { status, deploymentState, binding := observations.binding
      cleanupContractSha256 := canonicalDigest contract.toJson, items, destructiveActionIds
      planSha256 := ⟨0⟩ }
  { fields with planSha256 := canonicalDigest (planMaterial fields) }.validate

/-- `plan_cleanup`; a plan that is not valid is refused. -/
def planCleanup [Sha256] : Except CleanupError CleanupPlan :=
  if observations.binding.deploymentContractSha256 ≠ contract.deploymentContractSha256 then
    .error .deploymentContractMismatch
  else if observations.binding.expectedResourceManifestSha256 ≠
      contract.expectedResourceManifestSha256 then .error .resourceManifestMismatch
  else do
    let items ← (plannedIds contract observations).mapM
      (planItem contract observations deploymentState)
    planOf contract observations deploymentState items

end Planner

/-- The material of an authorization. -/
def authorizationMaterial (f : EnvelopeFields) : Json :=
  .obj [("approval_nonce_sha256", .str f.approvalNonceSha256.hex), ("aws_mutations", .int 0),
    ("cloud_commands_emitted", .int 0), ("deployment_id", .str f.deploymentId.str),
    ("destructive_action_ids", .arr (f.destructiveActionIds.map fun a => .str a.value)),
    ("execution_default_enabled", .bool false), ("live_receipts", .int 0),
    ("network_connections", .int 0), ("plan_sha256", .str f.planSha256.hex),
    ("schema_version", .int 1), ("status", .str "AUTHORIZED_BUT_NOT_EXECUTED")]

/-- `authorize_cleanup_plan`. -/
def authorizeCleanupPlan [Sha256] (plan : CleanupPlan) (approval : CleanupApproval) (now : Reading)
    (consumedNonceHashes : List Sha256Digest) : Except CleanupError CleanupAuthorizationEnvelope :=
  if !now.utc then .error .authorizationClockInvalid
  else if plan.status ≠ .readyForOperatorReview then .error .planNotAuthorizable
  else if approval.deploymentId ≠ plan.binding.deploymentId then .error .approvalDeploymentMismatch
  else if approval.planSha256 ≠ plan.planSha256 then .error .approvalPlanMismatch
  else if approval.destructiveActionIds ≠ plan.destructiveActionIds then
    .error .approvalActionSetMismatch
  else if now.time < approval.issuedAt ∨ approval.expiresAt ≤ now.time then .error .approvalStale
  else if approval.approvalNonceSha256 ∈ consumedNonceHashes then .error .approvalReplayed
  else
    -- the digest is of the other fields
    let fields : EnvelopeFields :=
      { deploymentId := plan.binding.deploymentId, planSha256 := plan.planSha256
        approvalNonceSha256 := approval.approvalNonceSha256
        destructiveActionIds := plan.destructiveActionIds, authorizationSha256 := ⟨0⟩ }
    { fields with
      authorizationSha256 := canonicalDigest (authorizationMaterial fields) }.validate

/-! ## Items -/

/-- In a list whose keys are unique, the one with the key is the one that is found. -/
theorem find?_key_eq_some {α κ : Type} [DecidableEq κ] {key : α → κ} {l : List α} {k : κ} {a : α}
    (hn : (l.map key).Nodup) : l.find? (key · = k) = some a ↔ a ∈ l ∧ key a = k := by
  constructor
  · intro h
    exact ⟨List.mem_of_find?_eq_some h, by simpa using List.find?_some h⟩
  · rintro ⟨ha, hk⟩
    cases hf : l.find? (key · = k) with
    | none => exact absurd hk (by simpa using List.find?_eq_none.1 hf a ha)
    | some b =>
      have hb : key b = k := by simpa using List.find?_some hf
      rw [List.inj_on_of_nodup_map hn (List.mem_of_find?_eq_some hf) ha (hb.trans hk.symm)]

theorem find?_key_eq_none {α κ : Type} [DecidableEq κ] {key : α → κ} {l : List α} {k : κ} :
    l.find? (key · = k) = none ↔ k ∉ l.map key := by
  rw [List.find?_eq_none, List.mem_map]
  constructor
  · rintro h ⟨a, ha, hk⟩
    exact absurd hk (by simpa using h a ha)
  · intro h a ha
    have hne : key a ≠ k := fun hk => h ⟨a, ha, hk⟩
    simpa using hne

section Items

variable (contract : RollbackCleanupContract) (observations : CleanupObservationFixture)
  (deploymentState : DeploymentPartialState)

/-- A resource that a rule of the contract lists, and that is proven to belong to the deployment. -/
def Owned (o : ObservedCleanupResource) : Prop :=
  ∃ r ∈ contract.rules, ownershipProven o r observations.binding contract.ownershipTags

def Listed (id : LogicalId) : Prop := ∃ r ∈ contract.rules, r.logicalId = id

def Retained (id : LogicalId) : Prop :=
  ∃ r ∈ contract.rules, r.logicalId = id ∧ r.lifecycle = .retainExplicitDisposition

/-- An observed resource whose deletion a plan may propose. -/
def Removable (o : ObservedCleanupResource) : Prop :=
  ¬ Retained contract o.logicalId ∧ o.cleanupAttemptState ≠ .previouslyConfirmedAbsent

variable {contract observations deploymentState} {id : LogicalId} {o : ObservedCleanupResource}
  {r : CleanupRule}

theorem id_of_owned {binding : DeploymentCleanupBinding} {tags : Dict String String}
    (h : ownershipProven o r binding tags) : o.logicalId = r.logicalId := by
  by_contra hne
  simp [ownershipProven, hne] at h

/-- Against the rule with its id, a resource is owned or it is not. -/
theorem owned_iff (observations : CleanupObservationFixture) (hr : r ∈ contract.rules)
    (hid : r.logicalId = o.logicalId) :
    Owned contract observations o ↔
      ownershipProven o r observations.binding contract.ownershipTags := by
  constructor
  · rintro ⟨r', hr', h⟩
    have hsame : r' = r := List.inj_on_of_nodup_map contract.rules_ok.2 hr' hr
      ((id_of_owned h).symm.trans hid.symm)
    exact hsame ▸ h
  · exact fun h => ⟨r, hr, h⟩

theorem retained_iff (hr : r ∈ contract.rules) :
    Retained contract r.logicalId ↔ r.lifecycle = .retainExplicitDisposition := by
  constructor
  · rintro ⟨r', hr', hid, h⟩
    exact List.inj_on_of_nodup_map contract.rules_ok.2 hr' hr hid ▸ h
  · exact fun h => ⟨r, hr, rfl, h⟩

theorem ownedAction_destructive : (ownedAction deploymentState r o).1.isDestructive ↔
    r.lifecycle ≠ .retainExplicitDisposition ∧
      o.cleanupAttemptState ≠ .previouslyConfirmedAbsent := by
  unfold ownedAction
  split
  · next h => simp [h, CleanupAction.isDestructive]
  · split
    · next h => simp [h, CleanupAction.isDestructive]
    · next h1 h2 => split <;> simp [h1, h2, CleanupAction.isDestructive]

theorem ownedAction_ne : (ownedAction deploymentState r o).1 ≠ .doNotDeleteOwnershipUnproven := by
  unfold ownedAction
  split
  · simp
  · split
    · simp
    · split <;> simp

/-- **What an item says** of the resource with its id. -/
theorem planItem_spec (deploymentState : DeploymentPartialState) (hid : id ∈ plannedIds contract observations) :
    ∃ item, planItem contract observations deploymentState id = .ok item ∧ item.logicalId = id ∧
      (item.action = .doNotDeleteOwnershipUnproven ↔
        ∃ o ∈ observations.resources, o.logicalId = id ∧ ¬ Owned contract observations o) ∧
      (item.destructive ↔ ∃ o ∈ observations.resources, o.logicalId = id ∧
        Owned contract observations o ∧ Removable contract o) := by
  have rule : ∀ r, ruleOf contract id = some r ↔ r ∈ contract.rules ∧ r.logicalId = id := fun r =>
    find?_key_eq_some contract.rules_ok.2
  have observation : ∀ o, observationOf observations id = some o ↔
      o ∈ observations.resources ∧ o.logicalId = id := fun o =>
    find?_key_eq_some observations.resources_ok.2
  have unique : ∀ {o o'}, observationOf observations id = some o → o' ∈ observations.resources →
      o'.logicalId = id → o' = o := by
    intro o o' ho ho' hid'
    have := (observation o').2 ⟨ho', hid'⟩
    rw [ho] at this
    exact (Option.some.inj this).symm
  unfold planItem
  cases hr : ruleOf contract id with
  | none =>
    have hunlisted : ∀ r ∈ contract.rules, r.logicalId ≠ id := by
      intro r hmem hk
      have := (rule r).2 ⟨hmem, hk⟩
      rw [hr] at this
      cases this
    cases ho : observationOf observations id with
    | none =>
      -- an id that was planned is a rule's or an observation's
      rw [plannedIds, List.mem_insertionSort, List.mem_dedup, List.mem_append] at hid
      rcases hid with h | h
      · exact absurd h (find?_key_eq_none.1 hr)
      · exact absurd h (find?_key_eq_none.1 ho)
    | some o =>
      obtain ⟨hmem, hk⟩ := (observation o).1 ho
      have hforeign : ¬ Owned contract observations o := by
        rintro ⟨r, hmem', hown⟩
        exact hunlisted r hmem' ((id_of_owned hown).symm.trans hk)
      refine ⟨_, rfl, rfl, iff_of_true rfl ⟨o, hmem, hk, hforeign⟩, ?_⟩
      refine iff_of_false nofun ?_
      rintro ⟨o', hmem', hk', hown, -⟩
      exact hforeign (unique ho hmem' hk' ▸ hown)
  | some r =>
    obtain ⟨hrmem, hrk⟩ := (rule r).1 hr
    cases ho : observationOf observations id with
    | none =>
      have hnone : ∀ o ∈ observations.resources, o.logicalId ≠ id := by
        intro o hmem hk
        have := (observation o).2 ⟨hmem, hk⟩
        rw [ho] at this
        cases this
      refine ⟨_, rfl, rfl, iff_of_false nofun ?_, iff_of_false nofun ?_⟩
      · rintro ⟨o, hmem, hk, -⟩
        exact hnone o hmem hk
      · rintro ⟨o, hmem, hk, -⟩
        exact hnone o hmem hk
    | some o =>
      obtain ⟨hmem, hk⟩ := (observation o).1 ho
      have hown := owned_iff observations hrmem (hrk.trans hk.symm)
      by_cases h : ownershipProven o r observations.binding contract.ownershipTags
      · simp only [h, Bool.not_true, Bool.false_eq_true, if_false]
        refine ⟨_, rfl, rfl, iff_of_false ownedAction_ne ?_, ?_⟩
        · rintro ⟨o', hmem', hk', hnot⟩
          exact hnot (unique ho hmem' hk' ▸ hown.2 h)
        · show (ownedAction deploymentState r o).1.isDestructive ↔ _
          have hret := retained_iff hrmem
          rw [hrk] at hret
          rw [ownedAction_destructive, ne_eq, ← hret]
          constructor
          · rintro ⟨hkeep, habsent⟩
            exact ⟨o, hmem, hk, hown.2 h, hk ▸ hkeep, habsent⟩
          · rintro ⟨o', hmem', hk', -, hkeep, habsent⟩
            obtain rfl := unique ho hmem' hk'
            exact ⟨hk ▸ hkeep, habsent⟩
      · simp only [h, Bool.not_false, if_true]
        refine ⟨_, rfl, rfl, iff_of_true rfl ⟨o, hmem, hk, mt hown.1 h⟩, iff_of_false nofun ?_⟩
        rintro ⟨o', hmem', hk', hown', -⟩
        exact h (hown.1 (unique ho hmem' hk' ▸ hown'))

end Items

/-! ## Safety -/

section Safety

variable [Sha256] {contract : RollbackCleanupContract} {observations : CleanupObservationFixture}
  {deploymentState : DeploymentPartialState}

omit [Sha256] in
theorem mem_plannedIds (contract : RollbackCleanupContract) {o : ObservedCleanupResource}
    (h : o ∈ observations.resources) :
    o.logicalId ∈ plannedIds contract observations := by
  rw [plannedIds, List.mem_insertionSort, List.mem_dedup, List.mem_append]
  exact .inr (List.mem_map.2 ⟨o, h, rfl⟩)

omit [Sha256] in
theorem plannedIds_sorted (contract : RollbackCleanupContract)
    (observations : CleanupObservationFixture) :
    ((plannedIds contract observations).map LogicalId.text).Pairwise (· ≤ ·) := by
  have trans : IsTrans LogicalId fun a b => a.text ≤ b.text := ⟨fun _ _ _ => String.le_trans⟩
  have total : Std.Total fun a b : LogicalId => a.text ≤ b.text :=
    ⟨fun a b => String.le_total a.text b.text⟩
  exact List.pairwise_map.2 (List.pairwise_insertionSort _ _)

omit [Sha256] in
/-- The loop gives one item for each id. -/
theorem planItems_spec (deploymentState : DeploymentPartialState) (ids : List LogicalId)
    (hids : ids ⊆ plannedIds contract observations) :
    ∃ items, ids.mapM (planItem contract observations deploymentState) = .ok items ∧
      items.map CleanupPlanItem.logicalId = ids ∧
      ∀ item ∈ items, planItem contract observations deploymentState item.logicalId = .ok item := by
  induction ids with
  | nil => exact ⟨[], rfl, rfl, nofun⟩
  | cons id ids ih =>
    rw [List.cons_subset] at hids
    obtain ⟨item, hitem, hid, -⟩ := planItem_spec deploymentState hids.1
    obtain ⟨items, hitems, hmap, hall⟩ := ih hids.2
    refine ⟨item :: items, ?_, by rw [List.map_cons, hid, hmap], ?_⟩
    · rw [List.mapM_cons, hitem, hitems]
      rfl
    · refine List.forall_mem_cons.2 ⟨?_, hall⟩
      rw [hid, hitem]

omit [Sha256] in
/-- The planner's material and the validator's are one text. -/
theorem planMaterial_dumps (f : PlanFields) : (planMaterial f).dumps = f.modelDump.dumps := by
  refine Json.dumps_of_subset ?_ ?_ (Nat.le_refl _)
  · show ["aws_mutations", "binding", "cleanup_contract_sha256", "cloud_commands_emitted",
      "deployment_state", "destructive_action_ids", "execution_default_enabled", "items",
      "live_receipts", "network_connections", "plan_type", "requires_explicit_operator_approval",
      "schema_version", "status"].Nodup
    decide
  · simp only [List.cons_subset, List.nil_subset, List.mem_cons, true_or, or_true, and_self]

omit [Sha256] in
theorem authorizationMaterial_dumps (f : EnvelopeFields) :
    (authorizationMaterial f).dumps = f.modelDump.dumps := by
  refine Json.dumps_of_subset ?_ ?_ (Nat.le_refl _)
  · show ["approval_nonce_sha256", "aws_mutations", "cloud_commands_emitted", "deployment_id",
      "destructive_action_ids", "execution_default_enabled", "live_receipts",
      "network_connections", "plan_sha256", "schema_version", "status"].Nodup
    decide
  · simp only [List.cons_subset, List.nil_subset, List.mem_cons, true_or, or_true, and_self]

omit [Sha256] in
theorem check_eq_none {c : Prop} [Decidable c] {message : String} {rest : Option String} :
    (if c then some message else rest) = none ↔ ¬ c ∧ rest = none := by
  split <;> simp [*]

theorem validate_ok {f : PlanFields} (h : f.violation = none) :
    ∃ plan : CleanupPlan, f.validate = .ok plan ∧ plan.toPlanFields = f := by
  unfold PlanFields.validate
  split
  · exact ⟨_, rfl, rfl⟩
  · next message hm =>
    rw [h] at hm
    cases hm

/-- The planner, without its hash. -/
theorem planCleanup_eq (deploymentState : DeploymentPartialState)
    (hcontract : observations.binding.deploymentContractSha256 = contract.deploymentContractSha256)
    (hmanifest : observations.binding.expectedResourceManifestSha256 =
      contract.expectedResourceManifestSha256) :
    ∃ plan : CleanupPlan, planCleanup contract observations deploymentState = .ok plan ∧
      plan.items.map CleanupPlanItem.logicalId = plannedIds contract observations ∧
      (∀ item ∈ plan.items,
        planItem contract observations deploymentState item.logicalId = .ok item) ∧
      plan.destructiveActionIds = if plan.items.any CleanupPlanItem.destructive &&
        !plan.items.any (fun i => i.action = .doNotDeleteOwnershipUnproven) then
          [.cleanupStackDelete] else [] := by
  obtain ⟨items, hitems, hmap, hall⟩ := planItems_spec deploymentState
    (plannedIds contract observations) (List.Subset.refl _)
  have hsorted : (items.map fun i => i.logicalId.text).Pairwise (· ≤ ·) := by
    have h := plannedIds_sorted contract observations
    rw [← hmap, List.map_map] at h
    exact h
  unfold planCleanup
  rw [if_neg (not_not_intro hcontract), if_neg (not_not_intro hmanifest), hitems]
  refine Exists.imp (fun plan => And.imp_right fun h => ?_) (validate_ok ?_)
  · rw [h]
    exact ⟨hmap, hall, rfl⟩
  · simp only [PlanFields.violation, check_eq_none, ne_eq, not_not]
    exact ⟨hsorted, trivial, trivial, congrArg Sha256.hexdigest (planMaterial_dumps _), trivial⟩

/-- **The plan** validates, and is destructive exactly when everything that was observed is owned and
    something of it may go; and no item is destructive but for an owned resource that may go. -/
theorem planCleanup_spec (deploymentState : DeploymentPartialState)
    (hcontract : observations.binding.deploymentContractSha256 = contract.deploymentContractSha256)
    (hmanifest : observations.binding.expectedResourceManifestSha256 =
      contract.expectedResourceManifestSha256) :
    ∃ plan : CleanupPlan, planCleanup contract observations deploymentState = .ok plan ∧
      (plan.destructiveActionIds ≠ [] ↔
        (∀ o ∈ observations.resources, Owned contract observations o) ∧
          ∃ o ∈ observations.resources, Removable contract o) ∧
      ∀ item ∈ plan.items, item.destructive → ∃ o ∈ observations.resources,
        o.logicalId = item.logicalId ∧ Owned contract observations o ∧ Removable contract o := by
  obtain ⟨plan, hplan, hids, hall, hactions⟩ :=
    planCleanup_eq deploymentState hcontract hmanifest
  have spec : ∀ item ∈ plan.items,
      (item.action = .doNotDeleteOwnershipUnproven ↔ ∃ o ∈ observations.resources,
        o.logicalId = item.logicalId ∧ ¬ Owned contract observations o) ∧
      (item.destructive ↔ ∃ o ∈ observations.resources, o.logicalId = item.logicalId ∧
        Owned contract observations o ∧ Removable contract o) := by
    intro item hitem
    have hid : item.logicalId ∈ plannedIds contract observations :=
      hids ▸ List.mem_map.2 ⟨item, hitem, rfl⟩
    obtain ⟨item', he, -, hspec⟩ := planItem_spec deploymentState hid
    rw [hall item hitem] at he
    obtain rfl := Except.ok.inj he
    exact hspec
  -- every observed resource has an item
  have item : ∀ o ∈ observations.resources, ∃ item ∈ plan.items, item.logicalId = o.logicalId := by
    intro o ho
    have hmem := mem_plannedIds contract ho
    rw [← hids] at hmem
    exact List.mem_map.1 hmem
  have hblocked : (plan.items.any fun i => i.action = .doNotDeleteOwnershipUnproven) = false ↔
      ∀ o ∈ observations.resources, Owned contract observations o := by
    rw [List.any_eq_false]
    constructor
    · intro h o ho
      by_contra hnot
      obtain ⟨i, hi, hid⟩ := item o ho
      exact h i hi (by simpa using (spec i hi).1.2 ⟨o, ho, hid.symm, hnot⟩)
    · intro h i hi hact
      obtain ⟨o, ho, -, hnot⟩ := (spec i hi).1.1 (by simpa using hact)
      exact hnot (h o ho)
  have hdestructive : plan.items.any CleanupPlanItem.destructive = true ↔
      ∃ o ∈ observations.resources, Owned contract observations o ∧ Removable contract o := by
    rw [List.any_eq_true]
    constructor
    · rintro ⟨i, hi, hd⟩
      obtain ⟨o, ho, -, h⟩ := (spec i hi).2.1 hd
      exact ⟨o, ho, h⟩
    · rintro ⟨o, ho, h⟩
      obtain ⟨i, hi, hid⟩ := item o ho
      exact ⟨i, hi, (spec i hi).2.2 ⟨o, ho, hid.symm, h⟩⟩
  refine ⟨plan, hplan, ?_, fun i hi hd => (spec i hi).2.1 hd⟩
  rw [hactions]
  constructor
  · intro h
    have hboth : (plan.items.any CleanupPlanItem.destructive &&
        !plan.items.any fun i => i.action = .doNotDeleteOwnershipUnproven) = true := by
      by_contra hnot
      exact h (if_neg hnot)
    simp only [Bool.and_eq_true, Bool.not_eq_true'] at hboth
    obtain ⟨o, ho, -, hrem⟩ := hdestructive.1 hboth.1
    exact ⟨hblocked.1 hboth.2, o, ho, hrem⟩
  · rintro ⟨howned, o, ho, hrem⟩
    rw [hdestructive.2 ⟨o, ho, howned o ho, hrem⟩, hblocked.2 howned]
    exact List.cons_ne_nil _ _

/-- A valid plan is ready for review exactly when it has an action, which is the one there is. -/
theorem CleanupPlan.ready_iff (plan : CleanupPlan) :
    (plan.status = .readyForOperatorReview ↔ plan.destructiveActionIds ≠ []) ∧
    (plan.destructiveActionIds ≠ [] → plan.destructiveActionIds = [.cleanupStackDelete]) := by
  have h := plan.valid
  simp only [PlanFields.violation, check_eq_none, ne_eq, not_not] at h
  obtain ⟨-, hstatus, hactions, -⟩ := h
  rw [hstatus, hactions]
  by_cases hb : (plan.items.any fun i => i.action = .doNotDeleteOwnershipUnproven) = true
  · simp [hb]
  · by_cases hd : plan.items.any CleanupPlanItem.destructive = true
    · simp [hb, hd]
    · simp [hb, hd]

theorem validate_isOk {f : EnvelopeFields} (h : f.violation = none) :
    ∃ envelope, f.validate = .ok envelope := by
  unfold EnvelopeFields.validate
  split
  · exact ⟨_, rfl⟩
  · next message hm =>
    rw [h] at hm
    cases hm

/-- **The gate** opens for a plan with an action and an approval of exactly that plan, read by a UTC
    clock within its window, with a nonce that was not consumed. -/
theorem authorize_ok_iff (plan : CleanupPlan) (approval : CleanupApproval) (now : Reading)
    (consumed : List Sha256Digest) :
    (∃ envelope, authorizeCleanupPlan plan approval now consumed = .ok envelope) ↔
      now.utc ∧ plan.destructiveActionIds ≠ [] ∧ approval.planSha256 = plan.planSha256 ∧
        approval.deploymentId = plan.binding.deploymentId ∧
        (approval.issuedAt ≤ now.time ∧ now.time < approval.expiresAt) ∧
        approval.approvalNonceSha256 ∉ consumed := by
  obtain ⟨hready, haction⟩ := plan.ready_iff
  have denied : ∀ {e : CleanupError} {P : Prop}, ¬ P →
      ((∃ envelope, (Except.error e : Except CleanupError CleanupAuthorizationEnvelope) =
        .ok envelope) ↔ P) := by
    intro e P hP
    refine iff_of_false ?_ hP
    rintro ⟨envelope, h⟩
    cases h
  unfold authorizeCleanupPlan
  by_cases hutc : now.utc
  swap
  · rw [if_pos (by simpa using hutc)]
    exact denied fun h => hutc h.1
  rw [if_neg (by simp [hutc])]
  by_cases hstatus : plan.status = .readyForOperatorReview
  swap
  · rw [if_pos hstatus]
    exact denied fun h => hstatus (hready.2 h.2.1)
  rw [if_neg (not_not_intro hstatus)]
  by_cases hdeployment : approval.deploymentId = plan.binding.deploymentId
  swap
  · rw [if_pos hdeployment]
    exact denied fun h => hdeployment h.2.2.2.1
  rw [if_neg (not_not_intro hdeployment)]
  by_cases hplan : approval.planSha256 = plan.planSha256
  swap
  · rw [if_pos hplan]
    exact denied fun h => hplan h.2.2.1
  have hactions := hready.1 hstatus
  rw [if_neg (not_not_intro hplan),
    if_neg (not_not_intro (approval.actions_ok.trans (haction hactions).symm))]
  by_cases hstale : now.time < approval.issuedAt ∨ approval.expiresAt ≤ now.time
  · rw [if_pos hstale]
    refine denied fun h => ?_
    obtain ⟨-, -, -, -, ⟨hissued, hexpires⟩, -⟩ := h
    rcases hstale with h | h
    · exact Nat.not_lt.2 hissued h
    · exact Nat.not_lt.2 h hexpires
  rw [if_neg hstale]
  rw [not_or, Nat.not_lt, Nat.not_le] at hstale
  by_cases hnonce : approval.approvalNonceSha256 ∈ consumed
  · rw [if_pos hnonce]
    exact denied fun h => h.2.2.2.2.2 hnonce
  rw [if_neg hnonce]
  refine iff_of_true (validate_isOk ?_) ⟨hutc, hactions, hplan, hdeployment, hstale, hnonce⟩
  exact check_eq_none.2 ⟨not_not_intro (congrArg Sha256.hexdigest (authorizationMaterial_dumps _)),
    rfl⟩

/-- **Cleanup destroys nothing it cannot prove it owns.**  A plan validates, and has its action
    exactly when every observed resource is listed and owned and one that is not retained is not
    known to be absent; an item for a retained, unlisted or unproven resource is never destructive;
    and the gate opens exactly for a plan with the action, its own approval, a UTC clock within the
    window and a fresh nonce. -/
theorem cleanup_exact :
    (∀ contract observations deploymentState,
      observations.binding.deploymentContractSha256 = contract.deploymentContractSha256 →
      observations.binding.expectedResourceManifestSha256 =
        contract.expectedResourceManifestSha256 →
      ∃ plan : CleanupPlan, planCleanup contract observations deploymentState = .ok plan ∧
        (plan.destructiveActionIds ≠ [] ↔
          (∀ o ∈ observations.resources, Owned contract observations o) ∧
            ∃ o ∈ observations.resources, Removable contract o) ∧
        ∀ item ∈ plan.items, (Retained contract item.logicalId ∨ ¬ Listed contract item.logicalId ∨
          ∀ o ∈ observations.resources, o.logicalId = item.logicalId →
            ¬ Owned contract observations o) → item.destructive = false) ∧
    ∀ (plan : CleanupPlan) approval now consumed,
      (∃ envelope, authorizeCleanupPlan plan approval now consumed = .ok envelope) ↔
        now.utc ∧ plan.destructiveActionIds ≠ [] ∧ approval.planSha256 = plan.planSha256 ∧
          approval.deploymentId = plan.binding.deploymentId ∧
          (approval.issuedAt ≤ now.time ∧ now.time < approval.expiresAt) ∧
          approval.approvalNonceSha256 ∉ consumed := by
  refine ⟨?_, authorize_ok_iff⟩
  intro contract observations deploymentState hcontract hmanifest
  obtain ⟨plan, hplan, hactions, hitems⟩ := planCleanup_spec deploymentState hcontract hmanifest
  refine ⟨plan, hplan, hactions, fun item hitem hkind => ?_⟩
  by_contra hdestructive
  obtain ⟨o, ho, hid, ⟨r, hr, hproven⟩, hkeep, -⟩ :=
    hitems item hitem (by simpa using hdestructive)
  rcases hkind with hretained | hunlisted | hunproven
  · exact hkeep (hid ▸ hretained)
  · exact hunlisted ⟨r, hr, (id_of_owned hproven).symm.trans hid⟩
  · exact hunproven o ho hid ⟨r, hr, hproven⟩

end Safety

/-! ## A sample -/

namespace Sample

def function : LogicalId := ⟨"Orchestrator", by decide⟩

def rule : CleanupRule where
  logicalId := function
  resourceType := "AWS::Lambda::Function"
  ownershipProof := .stackMembershipAndLogicalId
  lifecycle := .stackDelete
  rollbackAction := .deleteWithCloudformationStack
  partialFailureAction := .retryCloudformationStackDelete
  cleanupBehavior := "DELETE"
  rule_ok := by simp

def contract : RollbackCleanupContract where
  deploymentContractSha256 := ⟨1⟩
  expectedResourceManifestSha256 := ⟨2⟩
  ownershipRequirements := []
  approvalRequirements := []
  ownershipTags := exactOwnershipTags
  rules := [rule]
  rules_ok := ⟨by simp, by simp⟩
  tags_ok := rfl

def observed : ObservedCleanupResource where
  logicalId := function
  resourceType := "AWS::Lambda::Function"
  deploymentId := ⟨3⟩
  deploymentContractSha256 := ⟨1⟩
  stackIdSha256 := ⟨4⟩
  stackMembershipConfirmed := true
  ownershipTags := none
  cleanupAttemptState := .neverAttempted

def observations : CleanupObservationFixture where
  binding := ⟨⟨3⟩, ⟨5⟩, ⟨1⟩, ⟨2⟩, ⟨4⟩⟩
  resources := [observed]
  resources_ok := ⟨by simp, by simp⟩

def approval (plan : PlanFields) : CleanupApproval where
  deploymentId := plan.binding.deploymentId
  planSha256 := plan.planSha256
  destructiveActionIds := [.cleanupStackDelete]
  operatorSubjectSha256 := ⟨6⟩
  approvalNonceSha256 := ⟨7⟩
  issuedAt := 0
  expiresAt := seconds 900
  lifetime_ok := by decide
  actions_ok := rfl

/-- A plan with its action, an approval of it and a fresh nonce, at the right time by a clock that
    does not say UTC: the gate stays shut. -/
theorem shut_without_utc : ¬ ∀ (plan : @CleanupPlan Sha256.standard) approval now consumed,
    (∃ envelope, @authorizeCleanupPlan Sha256.standard plan approval now consumed = .ok envelope) ↔
      plan.destructiveActionIds ≠ [] ∧ approval.planSha256 = plan.planSha256 ∧
        approval.deploymentId = plan.binding.deploymentId ∧
        (approval.issuedAt ≤ now.time ∧ now.time < approval.expiresAt) ∧
        approval.approvalNonceSha256 ∉ consumed := by
  intro h
  let _ : Sha256 := Sha256.standard
  obtain ⟨plan, -, hactions, -⟩ := @planCleanup_spec Sha256.standard contract observations
    .rollbackPartiallyFailed rfl rfl
  have hremovable : Removable contract observed := by
    refine ⟨?_, by decide⟩
    rintro ⟨r, hr, -, hretained⟩
    obtain rfl := List.mem_singleton.1 hr
    cases hretained
  have howned : ∀ o ∈ observations.resources, Owned contract observations o := by
    intro o ho
    obtain rfl := List.mem_singleton.1 ho
    exact ⟨rule, List.mem_singleton_self _, by simp [ownershipProven, observed, rule, observations]⟩
  have hids := hactions.2 ⟨howned, observed, List.mem_singleton_self _, hremovable⟩
  obtain ⟨envelope, hok⟩ := (h plan (approval plan.toPlanFields) ⟨0, false⟩ []).2
    ⟨hids, rfl, rfl, ⟨Nat.le_refl _, show 0 < seconds 900 by decide⟩, List.not_mem_nil⟩
  cases hok

end Sample

end Cleanup

end CloudOpsAgent
