/-
  The offline gate over the SAM template: `validate_iac` and the manifest behind it.

  A template is untrusted nested data.  The eleven checks read it key by key and compare what they
  find with the deployment contract; `build_expected_resource_manifest` projects the template only
  after all of them passed.

  1. **The contract and the template** — what the checks read of either.

  2. **The checks** — one definition for each list of reasons, as the source computes it.

  3. **The manifest** — intents, dependencies and counts.

  4. **What a role is granted** — CloudFormation's grammar for the policies of a role, and which of
     its shapes `_actions` collects (`mem_actions_iff`): a policy document may hold ONE statement
     instead of a list, and managed policies are attached beside the inline ones.

  5. **The gate** — what a passing IAM check says (`boundary_passed_iff`), and precisely when it
     bounds every grant (`iam_gate_sound_iff`).
-/
import CloudOpsAgent.Nz.Contracts
import CloudOpsAgent.Nz.Mapping
import CloudOpsAgent.Release.Cleanup

namespace CloudOpsAgent

namespace Iac

open Json

/-! ## The contract and the template -/

/-- `tuple(sorted(set(texts)))`. -/
def sortedSet (texts : List String) : List String := texts.dedup.insertionSort (· ≤ ·)

theorem mem_sortedSet {texts : List String} {text : String} :
    text ∈ sortedSet texts ↔ text ∈ texts := by
  rw [sortedSet, List.mem_insertionSort, List.mem_dedup]

theorem sortedSet_idem (texts : List String) : sortedSet (sortedSet texts) = sortedSet texts := by
  have hnodup : (sortedSet texts).Nodup :=
    (List.perm_insertionSort (· ≤ ·) _).nodup_iff.mpr (List.nodup_dedup _)
  have hsorted : (sortedSet texts).Pairwise (· ≤ ·) := List.pairwise_insertionSort _ _
  calc sortedSet (sortedSet texts) = (sortedSet texts).insertionSort (· ≤ ·) := by
        rw [sortedSet, List.dedup_eq_self.mpr hnodup]
    _ = sortedSet texts := hsorted.insertionSort_eq

/-- The texts are already sorted and unique. -/
def Canonical (texts : List String) : Prop := sortedSet texts = texts

instance (texts : List String) : Decidable (Canonical texts) :=
  inferInstanceAs (Decidable (sortedSet texts = texts))

structure LambdaDefinition where
  logicalId : String
  handler : String
  runtime : String
  architecture : String
  memoryMb : Nat
  timeoutSeconds : Nat
  reservedConcurrency : Nat

structure IamBoundary where
  orchestratorActions : List String
  executorActions : List String
  orchestrator_canonical : Canonical orchestratorActions
  executor_canonical : Canonical executorActions
  no_direct_stop : "ec2:StopInstances" ∉ orchestratorActions

/-- What is read of an `AwsDeploymentContract`; of the sections that are only tested for a value,
    whether there is one. -/
structure AwsDeploymentContract where
  ownershipTags : Option (Dict String String)
  lambdaFunctions : Option (List LambdaDefinition)
  environmentVariables : Option (List (String × List String))
  iam : Option IamBoundary
  dynamodb : Bool
  observability : Bool
  cost : Bool
  /-- `contract_sha256`. -/
  sha256 : Sha256Digest

/-- A loaded template.  `aliased` says that the two role names refer to one object, as a YAML alias
    makes them. -/
structure Template where
  fields : Mapping
  aliased : Bool := false

/-- `canonical_json`: dictionaries have distinct keys, so all that can be wrong is a float. -/
def canonicalJson (j : Json) : Except PyExc (List Char) :=
  if j.wellFormed then .ok j.render
  else .error (.valueError "Out of range float values are not JSON compliant")

/-- `needle in text`. -/
def holds (text : List Char) (needle : String) : Bool := decide (needle.toList <:+: text)

def reason (found : Bool) (text : String) : List String := if found then [text] else []

/-- `set(mapping) == names`. -/
def sameNames (names : List String) (expected : List String) : Bool :=
  names.all (· ∈ expected) && expected.all (· ∈ names)

def isMapping : Json → Bool
  | .obj _ => true
  | _ => false

/-- `_resources`. -/
def resources (template : Mapping) : List (String × Mapping) :=
  let raw := (template.get "Resources").mapping
  if raw.all fun r => isMapping r.2 then raw.map fun r => (r.1, r.2.mapping) else []

/-- `_properties`. -/
def properties (resource : Mapping) : Mapping := (resource.get "Properties").mapping

/-- `[action] if isinstance(action, str) else action`, and its texts if that is a list. -/
def actionTexts : Json → List String
  | .str action => [action]
  | .arr values => values.filterMap str?
  | _ => []

/-- What `_actions` collects of one policy. -/
def policyActions (policy : Json) : List String :=
  ((policy.mapping.get "PolicyDocument").mapping.get "Statement").items.flatMap fun statement =>
    actionTexts (statement.mapping.get "Action")

/-- `_actions`. -/
def actions (resource : Mapping) : List String :=
  sortedSet <| ((properties resource).get "Policies").items.flatMap policyActions

/-- The tags of a list of key-value entries; a key must not come twice. -/
def tagEntries : List Json → Option (Dict String String)
  | [] => some ∅
  | entry :: entries =>
    match tagEntries entries, (entry.mapping.get "Key").str?, (entry.mapping.get "Value").str? with
    | some tags, some key, some value => if key ∈ tags then none else some (tags.insert key value)
    | _, _, _ => none

/-- `_normalized_tags`. -/
def normalizedTags (resource : Mapping) : Option (Dict String String) :=
  match (properties resource).get "Tags" with
  | .obj tags =>
    if tags.all fun tag => tag.2.str?.isSome then
      some (Dict.ofPairs (tags.filterMap fun tag => tag.2.str?.map (tag.1, ·)))
    else none
  | .arr entries => tagEntries entries
  | _ => none

/-- `_parameter_value`. -/
def parameterValue (template : Mapping) (name : String) : Mapping :=
  ((template.get "Parameters").mapping.get name).mapping

/-- The resources of a type. -/
def ofType (declared : List (String × Mapping)) (type : String) : List (String × Mapping) :=
  declared.filter fun r => (r.2.get "Type").isStr type

/-- `resources.get(name, {})`. -/
def named (declared : List (String × Mapping)) (name : String) : Mapping :=
  (declared.lookup name).getD []

def TAGGABLE_TYPES : List String :=
  ["AWS::CloudWatch::Alarm", "AWS::DynamoDB::Table", "AWS::IAM::Role", "AWS::Logs::LogGroup",
    "AWS::SecretsManager::Secret", "AWS::Serverless::Function"]

def ALLOWED_TYPES : List String :=
  TAGGABLE_TYPES ++
    ["AWS::Lambda::Alias", "AWS::Lambda::Permission", "AWS::Lambda::Url", "AWS::Lambda::Version"]

def FORBIDDEN_TYPES : List String :=
  ["AWS::ApiGateway::RestApi", "AWS::ApiGatewayV2::Api", "AWS::CloudFront::Distribution",
    "AWS::DynamoDB::GlobalTable", "AWS::EC2::Instance", "AWS::ECS::Service", "AWS::RDS::DBInstance",
    "AWS::S3::Bucket", "AWS::Serverless::Api", "AWS::Serverless::HttpApi"]

def PURPOSES : List (String × String) := [
  ("JudgeTokenSecret", "Bounded judge bearer-token material"),
  ("StateTable", "Durable run, approval, idempotency, provenance, and evidence truth"),
  ("OrchestratorFunctionLogGroup", "Bounded orchestrator logs"),
  ("RemediationExecutorLogGroup", "Bounded private executor logs"),
  ("RemediationExecutorRole", "Exact private executor read and tagged-instance stop authority"),
  ("RemediationExecutorFunction", "Private exact-plan-and-confirm remediation executor"),
  ("RemediationExecutorVersion", "Immutable reviewed executor rollback target"),
  ("RemediationExecutorAlias", "Stable routing to one reviewed executor version"),
  ("OrchestratorRole", "Read, plan, state, model, secret, and exact executor-invoke authority"),
  ("OrchestratorFunction", "Read/plan judge API and durable HITL orchestration"),
  ("OrchestratorVersion", "Immutable reviewed orchestrator rollback target"),
  ("OrchestratorAlias", "Stable routing to one reviewed orchestrator version"),
  ("OrchestratorFunctionUrl", "Disabled-by-default public read-only judge ingress"),
  ("PublicFunctionUrlInvokePermission", "Conditional Function URL invocation permission"),
  ("PublicFunctionInvokeViaUrlPermission", "Conditional invocation-via-URL permission"),
  ("OrchestratorErrorsAlarm", "Orchestrator error guardrail"),
  ("OrchestratorThrottlesAlarm", "Orchestrator throttle guardrail"),
  ("OrchestratorDurationAlarm", "Orchestrator duration guardrail"),
  ("RemediationExecutorErrorsAlarm", "Executor error guardrail"),
  ("RemediationExecutorThrottlesAlarm", "Executor throttle guardrail"),
  ("RemediationExecutorDurationAlarm", "Executor duration guardrail"),
  ("StateTableThrottledRequestsAlarm", "Durable-state throttle guardrail")]

/-! ## The checks -/

section Checks

variable [FloatValue] (template : Mapping) (declared : List (String × Mapping))
  (contract : AwsDeploymentContract)

/-- `types`: the types that are texts. -/
def types : List String := declared.filterMap fun r => (r.2.get "Type").str?

def mechanismReasons : List String :=
  reason (¬ (template.get "AWSTemplateFormatVersion").isStr "2010-09-09")
      "TEMPLATE_FORMAT_INVALID" ++
    reason (¬ (template.get "Transform").isStr "AWS::Serverless-2016-10-31")
      "SAM_TRANSFORM_INVALID" ++
    reason (declared.isEmpty || (types declared).length != declared.length) "RESOURCE_MAP_INVALID"

/-- `expected_parameters`: the default and the allowed values of a feature flag. -/
def expectedParameters : List (String × String × List String) := [
  ("PublicIngressEnabled", "false", ["false", "true"]), ("AwsMutationsEnabled", "false", ["false"]),
  ("AllowLiveSandboxStop", "false", ["false"]), ("EmergencyExecutionDisabled", "true", ["true"])]

def texts (values : List String) : Json := .arr (values.map .str)

def parameterReasons : Except PyExc (List String) := do
  let stage := parameterValue template "AppStage"
  let rules ← canonicalJson (.obj (template.get "Rules").mapping)
  return reason (¬ pyEq ((parameterValue template "DeploymentRegion").get "AllowedValues")
      (texts ["eu-central-1"])) "REGION_NOT_FROZEN" ++
    reason (¬ (stage.get "Default").isStr "hackathon" ||
      ¬ pyEq (stage.get "AllowedValues") (texts ["hackathon"])) "STAGE_NOT_FROZEN" ++
    expectedParameters.flatMap (fun (name, default, allowed) =>
      let parameter := parameterValue template name
      reason (¬ (parameter.get "Default").isStr default ||
        ¬ pyEq (parameter.get "AllowedValues") (texts allowed)) "FEATURE_FLAG_PARAMETER_UNSAFE") ++
    reason (¬ expectedParameters.all fun p => holds rules p.1) "PUBLIC_INGRESS_VETO_RULE_INCOMPLETE"

/-- The reasons of one function of the contract. -/
def lambdaReasons (functions : List (String × Mapping)) (definition : LambdaDefinition) :
    List String :=
  let configured := properties (named functions definition.logicalId)
  let expected : Mapping := [("Handler", .str definition.handler),
    ("Runtime", .str definition.runtime), ("Architectures", texts [definition.architecture]),
    ("MemorySize", .int definition.memoryMb), ("Timeout", .int definition.timeoutSeconds),
    ("ReservedConcurrentExecutions", .int definition.reservedConcurrency),
    ("CodeUri", .str "../../dist/day15/aioa-lambda.zip"), ("Tracing", .str "Active")]
  let environment := ((configured.get "Environment").mapping.get "Variables").mapping
  let environmentKey :=
    if definition.logicalId = "OrchestratorFunction" then "orchestrator" else "executor"
  reason (expected.any fun e => ¬ pyEq (configured.get e.1) e.2) "LAMBDA_CONFIGURATION_MISMATCH" ++
    reason (some (sortedSet (environment.map Prod.fst)) !=
      (contract.environmentVariables.getD []).lookup environmentKey)
      "LAMBDA_ENVIRONMENT_MISMATCH" ++
    reason (configured.has "ProvisionedConcurrencyConfig") "PROVISIONED_CONCURRENCY_FORBIDDEN"

def functionReasons : List String :=
  let functions := ofType declared "AWS::Serverless::Function"
  let expected := contract.lambdaFunctions.getD []
  reason (¬ sameNames (functions.map Prod.fst) (expected.map (·.logicalId)))
      "LAMBDA_SET_MISMATCH" ++
    expected.flatMap (lambdaReasons contract functions)

/-- What the executor's role must mention, as JSON text. -/
def requiredStopFragments : List String :=
  ["ec2:StopInstances", "instance/${SandboxInstanceId}", "aws:RequestedRegion", "eu-central-1",
    "aws:ResourceTag/AIOACloudOpsSandbox"]

/-- The reasons of the two roles. -/
def roleReasons (iam : IamBoundary) (aliased : Bool) : Except PyExc (List String) := do
  let orchestrator := named declared "OrchestratorRole"
  let executor := named declared "RemediationExecutorRole"
  let serialized ← canonicalJson (.obj executor)
  return reason (aliased || orchestrator.isEmpty || executor.isEmpty) "IAM_ROLES_NOT_SEPARATE" ++
    reason (actions orchestrator != iam.orchestratorActions)
      "ORCHESTRATOR_ACTION_ALLOWLIST_MISMATCH" ++
    reason (actions executor != iam.executorActions) "EXECUTOR_ACTION_ALLOWLIST_MISMATCH" ++
    reason ((actions orchestrator ++ actions executor).any fun a => a.toList.contains '*')
      "IAM_ACTION_WILDCARD_FORBIDDEN" ++
    reason ((actions orchestrator).contains "ec2:StopInstances")
      "ORCHESTRATOR_WRITE_AUTHORITY_FORBIDDEN" ++
    reason (¬ requiredStopFragments.all (holds serialized)) "EXECUTOR_STOP_SCOPE_INVALID"

def negativeScopeReasons (resource : String × Mapping) : Except PyExc (List String) := do
  let serialized ← canonicalJson (.obj resource.2)
  return reason (holds serialized "\"NotAction\"" || holds serialized "\"NotResource\"")
    "IAM_NEGATIVE_SCOPE_FORBIDDEN"

def boundaryReasons (aliased : Bool) : Option IamBoundary → Except PyExc (List String)
  | none => .ok ["IAM_CONTRACT_MISSING"]
  | some iam => roleReasons declared iam aliased

def iamReasons (aliased : Bool) : Except PyExc (List String) := do
  let roles ← boundaryReasons declared aliased contract.iam
  let negative ← declared.mapM negativeScopeReasons
  return roles ++ negative.flatten

def dataReasons : List String :=
  let table := named declared "StateTable"
  let exact : Mapping := [("BillingMode", .str "PAY_PER_REQUEST"),
    ("DeletionProtectionEnabled", .bool true),
    ("PointInTimeRecoverySpecification", .obj [("PointInTimeRecoveryEnabled", .bool true)]),
    ("SSESpecification", .obj [("SSEEnabled", .bool true)])]
  let secret := named declared "JudgeTokenSecret"
  let generated := ((properties secret).get "GenerateSecretString").mapping
  (if ¬ contract.dynamodb ∨ ¬ (table.get "Type").isStr "AWS::DynamoDB::Table" then
    ["DYNAMODB_TABLE_MISSING"]
  else
    reason (¬ (table.get "DeletionPolicy").isStr "Retain" ||
      ¬ (table.get "UpdateReplacePolicy").isStr "Retain") "DYNAMODB_RETENTION_INVALID" ++
    reason (exact.any fun e => ¬ pyEq ((properties table).get e.1) e.2)
      "DYNAMODB_SAFETY_SETTINGS_INVALID" ++
    reason ((properties table).has "TimeToLiveSpecification")
      "DYNAMODB_TTL_CONTRADICTS_DURABLE_AUTHORITY" ++
    reason ((properties table).has "GlobalSecondaryIndexes") "DYNAMODB_GSI_UNEXPECTED") ++
  reason (¬ (secret.get "Type").isStr "AWS::SecretsManager::Secret" ||
    ¬ pyEq (generated.get "PasswordLength") (.int 64) ||
    ¬ (generated.get "GenerateStringKey").isStr "token" ||
    (template.get "Outputs").mapping.has "JudgeTokenSecret") "JUDGE_SECRET_CONTRACT_INVALID"

def publicNames : List String :=
  ["OrchestratorFunctionUrl", "PublicFunctionUrlInvokePermission",
    "PublicFunctionInvokeViaUrlPermission"]

def ingressReasons : List String :=
  let urls := ofType declared "AWS::Lambda::Url"
  let permissions := ofType declared "AWS::Lambda::Permission"
  reason (¬ sameNames (urls.map Prod.fst) ["OrchestratorFunctionUrl"] ||
      ¬ ((parameterValue template "PublicIngressEnabled").get "Default").isStr "false")
      "PUBLIC_INGRESS_DEFAULT_INVALID" ++
    reason (¬ sameNames (permissions.map Prod.fst) publicNames.tail)
      "PUBLIC_PERMISSION_SET_INVALID" ++
    reason (publicNames.any fun name =>
      ¬ ((named declared name).get "Condition").isStr "PublicIngressEnabledCondition")
      "PUBLIC_RESOURCE_NOT_CONDITIONED" ++
    reason (permissions.any fun p => ¬ ((properties p.2).get "Principal").isStr "*" ||
      ¬ pyEq ((properties p.2).get "FunctionName") (.obj [("Ref", .str "OrchestratorAlias")]))
      "PUBLIC_PERMISSION_SCOPE_INVALID" ++
    reason ((types declared).any fun type => FORBIDDEN_TYPES.contains type)
      "PARALLEL_OR_FORBIDDEN_PUBLIC_TOPOLOGY"

def observabilityReasons : Except PyExc (List String) := do
  let logGroups := ofType declared "AWS::Logs::LogGroup"
  let alarms := ofType declared "AWS::CloudWatch::Alarm"
  let serialized ← canonicalJson (.obj template)
  return reason (¬ contract.observability || logGroups.length != 2 || logGroups.any fun g =>
      ¬ pyEq ((properties g.2).get "RetentionInDays") (.int 3)) "LOG_RETENTION_INVALID" ++
    reason (alarms.length != 7 || alarms.any fun a =>
      ¬ ((properties a.2).get "TreatMissingData").isStr "notBreaching")
      "ALARM_GUARDRAILS_INVALID" ++
    reason (holds serialized "ProvisionedConcurrencyConfig") "PROVISIONED_CONCURRENCY_FORBIDDEN"

/-- The loop over the tags: how many taggable resources it counted before it ended or broke off. -/
def scanTags (tagged : Nat) : List (String × Mapping) → Except PyExc (Nat × List String)
  | [] => .ok (tagged, [])
  | (_, resource) :: rest =>
    let type := resource.get "Type"
    if ¬ type.hashable then .error (.typeError "unhashable type")
    else if TAGGABLE_TYPES.any type.isStr then
      if normalizedTags resource ≠ contract.ownershipTags then
        .ok (tagged + 1, ["OWNERSHIP_TAGS_MISSING_OR_INVALID"])
      else scanTags (tagged + 1) rest
    else scanTags tagged rest

def tagReasons : Except PyExc (List String) := do
  let (tagged, reasons) ← scanTags contract 0 declared
  return reasons ++ reason (tagged != 15) "TAGGABLE_RESOURCE_COUNT_DRIFT"

def costReasons : Except PyExc (List String) := do
  let serialized ← canonicalJson (.obj template)
  return reason ((types declared).any fun type => ¬ ALLOWED_TYPES.contains type)
      "UNREVIEWED_RESOURCE_TYPE" ++
    reason (¬ contract.cost ||
      ¬ ((properties (named declared "StateTable")).get "BillingMode").isStr "PAY_PER_REQUEST")
      "UNBOUNDED_TABLE_CAPACITY" ++
    reason (["ProvisionedThroughput", "DesiredCount", "MinCapacity", "DBInstanceClass"].any
      (holds serialized)) "UNBOUNDED_OR_PROVISIONED_COST_SETTING"

def lifecycleReasons : List String :=
  let retained := declared.filter fun r =>
    (r.2.get "DeletionPolicy").isStr "Retain" || (r.2.get "UpdateReplacePolicy").isStr "Retain"
  reason (¬ sameNames (declared.map Prod.fst) (PURPOSES.map Prod.fst))
      "RESOURCE_LIFECYCLE_COVERAGE_DRIFT" ++
    reason (¬ sameNames (retained.map Prod.fst)
      ["StateTable", "OrchestratorVersion", "RemediationExecutorVersion"])
      "RETAINED_RESOURCE_SET_DRIFT"

/-- `re.findall(r"\$\{([A-Za-z][A-Za-z0-9]*)", text)`. -/
def substitutions : List Char → List String
  | [] => []
  | c :: rest =>
    (match c, rest with
      | '$', '\x7b' :: a :: name =>
        if a.isAlpha then [String.ofList (a :: name.takeWhile Char.isAlphanum)] else []
      | _, _ => []) ++ substitutions rest

/-- What one mapping refers to, before its values are walked. -/
def references (fields : Mapping) : List String :=
  (fields.get "Ref").str?.toList ++
    (match fields.get "Fn::GetAtt" with
      | .arr (.str name :: _) => [name]
      | _ => []) ++
    (match fields.get "Fn::Sub" with
      | .str text => substitutions text.toList
      | _ => [])

mutual

/-- `_walk_references`, before names that are no resources are dropped. -/
def walkReferences : Json → List String
  | .obj fields => references fields ++ walkFields fields
  | .arr items => walkItems items
  | _ => []

def walkItems : List Json → List String
  | [] => []
  | item :: items => walkReferences item ++ walkItems items

def walkFields : Mapping → List String
  | [] => []
  | (_, item) :: fields => walkReferences item ++ walkFields fields

end

/-- `_resource_dependencies`. -/
def resourceDependencies (logicalId : String) (resource : Mapping) (names : List String) :
    List String :=
  sortedSet <| ((walkReferences (.obj resource)).filter (names.contains ·) ++
    actionTexts (resource.get "DependsOn")).filter (· != logicalId)

def graphReasons : List String :=
  let names := declared.map Prod.fst
  reason (declared.any fun r =>
      (resourceDependencies r.1 r.2 names).any fun dependency => ¬ names.contains dependency)
      "RESOURCE_GRAPH_REFERENCE_INVALID" ++
    reason (declared.length != 22) "RESOURCE_COUNT_DRIFT"

end Checks

inductive IacCheckStatus where
  | pass | fail
  deriving DecidableEq

structure IacCheck where
  checkId : String
  status : IacCheckStatus
  reasons : List String
  outcome : status = .pass ↔ reasons = []
  canonical : Canonical reasons
  deriving DecidableEq

/-- `_check`. -/
def check (checkId : String) (reasons : List String) : IacCheck where
  checkId := checkId
  status := if sortedSet reasons = [] then .pass else .fail
  reasons := sortedSet reasons
  outcome := by split <;> simp_all
  canonical := sortedSet_idem reasons

/-- `validate_iac`. -/
def validateIac [FloatValue] (template : Template) (contract : AwsDeploymentContract) :
    Except PyExc (List IacCheck) := do
  let declared := resources template.fields
  let parameters ← parameterReasons template.fields
  let iam ← iamReasons declared contract template.aliased
  let observability ← observabilityReasons template.fields declared contract
  let tags ← tagReasons declared contract
  let cost ← costReasons template.fields declared contract
  return [check "P3-IAC-01" (mechanismReasons template.fields declared),
    check "P3-IAC-02" parameters,
    check "P3-IAC-03" (functionReasons declared contract),
    check "P3-IAC-04" iam,
    check "P3-IAC-05" (dataReasons template.fields declared contract),
    check "P3-IAC-06" (ingressReasons template.fields declared),
    check "P3-IAC-07" observability,
    check "P3-IAC-08" tags,
    check "P3-IAC-09" cost,
    check "P3-IAC-10" (lifecycleReasons declared),
    check "P3-IAC-11" (graphReasons declared)]

/-! ## The manifest -/

open Cleanup (ResourceLifecycle OwnershipProof isLogicalId)

inductive ResourceAuthority where
  | secretAuth | durableState | observability | readPlan | exactPlanAndConfirmWrite
  | immutableRollback | routing | conditionalPublicReadIngress
  deriving DecidableEq

/-- `^AWS::[A-Za-z0-9]+::[A-Za-z0-9]+$`. -/
def isResourceType (type : String) : Bool :=
  match "AWS::".toList.isPrefixOf type.toList, (type.toList.drop 5).span Char.isAlphanum with
  | true, (service, ':' :: ':' :: name) =>
    !service.isEmpty && !name.isEmpty && name.all Char.isAlphanum
  | _, _ => false

structure IntentFields where
  logicalId : String
  resourceType : String
  purpose : String
  authority : ResourceAuthority
  ownershipProof : OwnershipProof
  lifecycle : ResourceLifecycle
  cleanupBehavior : String
  condition : Option String
  deletionPolicy : Json
  updateReplacePolicy : Json
  dependencies : List String

/-- The field types of `ResourceIntent`, and `validate_dependencies`. -/
def IntentFields.Valid (f : IntentFields) : Prop :=
  isLogicalId f.logicalId ∧ isResourceType f.resourceType ∧ 3 ≤ f.purpose.length ∧
    f.purpose.length ≤ 160 ∧ (∀ c ∈ f.condition, isLogicalId c) ∧
    (f.deletionPolicy.isStr "Delete" ∨ f.deletionPolicy.isStr "Retain") ∧
    (f.updateReplacePolicy.isStr "Delete" ∨ f.updateReplacePolicy.isStr "Retain") ∧
    (∀ d ∈ f.dependencies, isLogicalId d) ∧ Canonical f.dependencies ∧
    f.logicalId ∉ f.dependencies ∧ (f.lifecycle = .retainExplicitDisposition →
      f.deletionPolicy.isStr "Retain" ∧ f.updateReplacePolicy.isStr "Retain")

instance (f : IntentFields) : Decidable f.Valid := by unfold IntentFields.Valid; infer_instance

structure ResourceIntent extends IntentFields where
  valid : toIntentFields.Valid

def IntentFields.validate (f : IntentFields) : Except PyExc ResourceIntent :=
  if h : f.Valid then .ok ⟨f, h⟩ else .error (.valueError "ResourceIntent")

inductive FutureRequestClass where
  | localOnly | requiresExplicitMutationApproval
  deriving DecidableEq

structure FutureDeploymentRequest where
  requestId : String
  service : String
  action : String
  requestClass : FutureRequestClass
  defaultEnabled : Bool := false
  binding : String

/-- `future_requests`: one local step, and three that need an approval of their own. -/
def FUTURE_REQUESTS : List FutureDeploymentRequest := [
  { requestId := "P3-REQ-01", service := "local", action := "sam:build"
    requestClass := .localOnly, binding := "REVIEWED_SOURCE_AND_LOCK_HASHES" },
  { requestId := "P3-REQ-02", service := "s3", action := "s3:PutObject"
    requestClass := .requiresExplicitMutationApproval
    binding := "CONTRACT_BUCKET_HASH_AND_ARTIFACT_HASH" },
  { requestId := "P3-REQ-03", service := "cloudformation"
    action := "cloudformation:CreateChangeSet"
    requestClass := .requiresExplicitMutationApproval
    binding := "ACCOUNT_REGION_STACK_CONTRACT_AND_COMMIT" },
  { requestId := "P3-REQ-04", service := "cloudformation"
    action := "cloudformation:ExecuteChangeSet"
    requestClass := .requiresExplicitMutationApproval
    binding := "REVIEWED_CHANGE_SET_AND_FRESH_OPERATOR_APPROVAL" }]

/-- `_semantics`. -/
def semantics (logicalId : String) (resource : Mapping) :
    ResourceAuthority × ResourceLifecycle × String :=
  let type := resource.get "Type"
  let isExecutable := type.isStr "AWS::IAM::Role" || type.isStr "AWS::Serverless::Function"
  let authority : ResourceAuthority :=
    if logicalId = "JudgeTokenSecret" then .secretAuth
    else if logicalId = "StateTable" then .durableState
    else if type.isStr "AWS::Logs::LogGroup" || type.isStr "AWS::CloudWatch::Alarm" then
      .observability
    else if "RemediationExecutor".toList.isPrefixOf logicalId.toList && isExecutable then
      .exactPlanAndConfirmWrite
    else if "Orchestrator".toList.isPrefixOf logicalId.toList && isExecutable then .readPlan
    else if type.isStr "AWS::Lambda::Version" then .immutableRollback
    else if type.isStr "AWS::Lambda::Alias" then .routing
    else .conditionalPublicReadIngress
  if (resource.get "DeletionPolicy").isStr "Retain" then
    (authority, .retainExplicitDisposition, "RETAIN_THEN_SEPARATE_OWNERSHIP_BOUND_DISPOSITION")
  else if (resource.get "Condition") matches .null then
    (authority, .stackDelete, "DELETE_WITH_STACK_AFTER_OWNERSHIP_PROOF")
  else (authority, .conditionalStackDelete, "DELETE_WITH_STACK_AFTER_OWNERSHIP_PROOF")

/-- The intent of one resource. -/
def resourceIntent (names : List String) (logicalId : String) (resource : Mapping) :
    Except PyExc ResourceIntent :=
  match (resource.get "Type").str?, PURPOSES.lookup logicalId with
  | none, _ => .error (.other "IAC_RESOURCE_TYPE_INVALID")
  | _, none => .error (.other "KeyError")
  | some type, some purpose =>
    let (authority, lifecycle, cleanup) := semantics logicalId resource
    IntentFields.validate {
      logicalId := logicalId
      resourceType := type
      purpose := purpose
      authority := authority
      ownershipProof := if TAGGABLE_TYPES.contains type then .stackAndExactTags
        else .stackMembershipAndLogicalId
      lifecycle := lifecycle
      cleanupBehavior := cleanup
      condition := (resource.get "Condition").str?
      deletionPolicy := (resource.lookup "DeletionPolicy").getD (.str "Delete")
      updateReplacePolicy := (resource.lookup "UpdateReplacePolicy").getD (.str "Delete")
      dependencies := resourceDependencies logicalId resource names }

def checkIds : List String :=
  ["P3-IAC-01", "P3-IAC-02", "P3-IAC-03", "P3-IAC-04", "P3-IAC-05", "P3-IAC-06", "P3-IAC-07",
    "P3-IAC-08", "P3-IAC-09", "P3-IAC-10", "P3-IAC-11"]

structure ExpectedResourceManifest where
  templateSha256 : Sha256Digest
  deploymentContractSha256 : Sha256Digest
  checks : List IacCheck
  resources : List ResourceIntent
  futureRequests : List FutureDeploymentRequest
  resourceCount : Nat
  taggedResourceCount : Nat
  retainedResourceCount : Nat
  conditionalPublicResourceCount : Nat
  passed : ∀ c ∈ checks, c.status = .pass
  complete : checks.map (·.checkId) = checkIds
  ordered : Canonical (resources.map (·.logicalId))
  counted : resourceCount = resources.length ∧
    retainedResourceCount =
      resources.countP (fun i => i.lifecycle = .retainExplicitDisposition) ∧
    conditionalPublicResourceCount =
      resources.countP (fun i => i.authority = .conditionalPublicReadIngress)
  bounded : 1 ≤ resourceCount ∧ resourceCount ≤ 100 ∧ 1 ≤ taggedResourceCount ∧
    taggedResourceCount ≤ 100 ∧ retainedResourceCount ≤ 100 ∧ conditionalPublicResourceCount ≤ 10

/-- `build_expected_resource_manifest`, given the digest of the template's bytes. -/
def buildExpectedResourceManifest [FloatValue] (template : Template)
    (contract : AwsDeploymentContract) (templateSha256 : Sha256Digest) :
    Except PyExc ExpectedResourceManifest := do
  let checks ← validateIac template contract
  if hpassed : ∀ c ∈ checks, c.status = .pass then
    let declared := resources template.fields
    let names := declared.map Prod.fst
    let intents ← (sortedSet names).mapM fun name =>
      resourceIntent names name (named declared name)
    let tagged := declared.countP fun r => TAGGABLE_TYPES.any (r.2.get "Type").isStr
    let retained := intents.countP fun i => i.lifecycle = .retainExplicitDisposition
    let conditional := intents.countP fun i => i.authority = .conditionalPublicReadIngress
    if h : checks.map (·.checkId) = checkIds ∧ Canonical (intents.map (·.logicalId)) ∧
        1 ≤ intents.length ∧ intents.length ≤ 100 ∧ 1 ≤ tagged ∧ tagged ≤ 100 ∧
        retained ≤ 100 ∧ conditional ≤ 10 then
      return {
        templateSha256 := templateSha256
        deploymentContractSha256 := contract.sha256
        checks := checks
        resources := intents
        futureRequests := FUTURE_REQUESTS
        resourceCount := intents.length
        taggedResourceCount := tagged
        retainedResourceCount := retained
        conditionalPublicResourceCount := conditional
        passed := hpassed
        complete := h.1
        ordered := h.2.1
        counted := ⟨rfl, rfl, rfl⟩
        bounded := h.2.2 }
    else .error (.valueError "ExpectedResourceManifest")
  else .error (.other "IAC_DRY_RUN_VALIDATION_FAILED")

/-! ## What a role is granted -/

/-- The resource of this name, as the template declares it. -/
def roleOf (template : Mapping) (name : String) : Mapping :=
  ((template.get "Resources").mapping.get name).mapping

def statementOf (policy : Json) : Json := (policy.mapping.get "PolicyDocument").mapping.get "Statement"

/-- A policy document holds one statement or a list of statements. -/
def statements (policy : Json) : List Json :=
  match statementOf policy with
  | .obj statement => [.obj statement]
  | .arr statements => statements
  | _ => []

/-- The statement allows the action by name. -/
def Allows (statement : Json) (action : String) : Prop :=
  statement.mapping.get "Effect" = .str "Allow" ∧
    action ∈ actionTexts (statement.mapping.get "Action")

/-- An Allow statement of one of the role's inline policies names the action. -/
def Grants (role : Mapping) (action : String) : Prop :=
  ∃ policy ∈ ((properties role).get "Policies").items, ∃ statement ∈ statements policy,
    Allows statement action

/-- … and it is the single statement of its document, in no list. -/
def GrantsBare (role : Mapping) (action : String) : Prop :=
  ∃ policy ∈ ((properties role).get "Policies").items, ∃ statement,
    statementOf policy = .obj statement ∧ Allows (.obj statement) action

/-- The role has managed policies attached. -/
def AttachesManaged (role : Mapping) : Prop :=
  (properties role).get "ManagedPolicyArns" ≠ .null ∧
    (properties role).get "ManagedPolicyArns" ≠ .arr []

/-- `_actions` collects what the listed statements name, whatever their effect. -/
theorem mem_actions_iff {role : Mapping} {action : String} :
    action ∈ actions role ↔
      ∃ policy ∈ ((properties role).get "Policies").items, ∃ listed, statementOf policy = .arr listed ∧
        ∃ statement ∈ listed, action ∈ actionTexts (statement.mapping.get "Action") := by
  rw [actions, mem_sortedSet, List.mem_flatMap]
  refine exists_congr fun policy => and_congr_right fun _ => ?_
  unfold policyActions
  show action ∈ (statementOf policy).items.flatMap _ ↔ _
  rw [List.mem_flatMap]
  rcases statementOf policy with _ | _ | _ | _ | _ | listed | _
  case arr =>
    constructor
    · intro h
      exact ⟨listed, rfl, h⟩
    · rintro ⟨_, ⟨rfl⟩, h⟩
      exact h
  all_goals
    refine iff_of_false ?_ ?_
    · rintro ⟨statement, hs, -⟩
      exact absurd hs List.not_mem_nil
    · rintro ⟨listed, hlisted, -⟩
      cases hlisted

/-- What a role grants is collected, or granted by a statement outside any list. -/
theorem Grants.cases {role : Mapping} {action : String} (h : Grants role action) :
    action ∈ actions role ∨ GrantsBare role action := by
  obtain ⟨policy, hpolicy, statement, hstatement, hallows⟩ := h
  unfold statements at hstatement
  split at hstatement
  · next bare hbare =>
    obtain rfl := List.mem_singleton.mp hstatement
    exact .inr ⟨policy, hpolicy, bare, hbare, hallows⟩
  · next listed hlisted =>
    exact .inl (mem_actions_iff.mpr ⟨policy, hpolicy, listed, hlisted, statement, hstatement,
      hallows.2⟩)
  · exact absurd hstatement List.not_mem_nil

theorem GrantsBare.grants {role : Mapping} {action : String} (h : GrantsBare role action) :
    Grants role action := by
  obtain ⟨policy, hpolicy, statement, hstatement, hallows⟩ := h
  refine ⟨policy, hpolicy, .obj statement, ?_, hallows⟩
  rw [statements, hstatement]
  exact List.mem_singleton_self _

/-! ## The gate -/

/-- IAM's wildcards. -/
def HasWildcard (action : String) : Prop := '*' ∈ action.toList ∨ '?' ∈ action.toList

/-- The role can do what the list says, by name, and nothing else. -/
structure RoleBounded (role : Mapping) (allowed : List String) : Prop where
  listed : ∀ action, Grants role action → action ∈ allowed
  exact : ∀ action, Grants role action → ¬ HasWildcard action
  inline : ¬ AttachesManaged role

def Sound (template : Mapping) (contract : AwsDeploymentContract) : Prop :=
  ∀ iam ∈ contract.iam,
    RoleBounded (roleOf template "OrchestratorRole") iam.orchestratorActions ∧
      RoleBounded (roleOf template "RemediationExecutorRole") iam.executorActions

/-- What the gate does not look at agrees with the list: a statement outside a list, an allowed name
    with a question mark, a managed policy. -/
structure Covered (role : Mapping) (allowed : List String) : Prop where
  bare : ∀ action, GrantsBare role action → action ∈ allowed
  single : ∀ action ∈ allowed, '?' ∈ action.toList → ¬ Grants role action
  inline : ¬ AttachesManaged role

def CoveredRoles (template : Mapping) (contract : AwsDeploymentContract) : Prop :=
  ∀ iam ∈ contract.iam,
    Covered (roleOf template "OrchestratorRole") iam.orchestratorActions ∧
      Covered (roleOf template "RemediationExecutorRole") iam.executorActions

theorem RoleBounded.covered {role : Mapping} {allowed : List String} (h : RoleBounded role allowed) :
    Covered role allowed where
  bare action hbare := h.listed action hbare.grants
  single action _ hmark hgrants := h.exact action hgrants (.inr hmark)
  inline := h.inline

/-- Collected actions that are the list, without an asterisk, bound a covered role. -/
theorem Covered.bounded {role : Mapping} {allowed : List String} (h : Covered role allowed)
    (hactions : actions role = allowed) (hstar : ∀ action ∈ allowed, '*' ∉ action.toList) :
    RoleBounded role allowed := by
  have hlisted : ∀ action, Grants role action → action ∈ allowed := by
    intro action hgrants
    rcases hgrants.cases with hcollected | hbare
    · rwa [hactions] at hcollected
    · exact h.bare action hbare
  refine ⟨hlisted, fun action hgrants => ?_, h.inline⟩
  rintro (hasterisk | hmark)
  · exact hstar action (hlisted action hgrants) hasterisk
  · exact h.single action (hlisted action hgrants) hmark hgrants

theorem reason_eq_nil {found : Bool} {text : String} (h : reason found text = []) : found = false := by
  rcases found with _ | _
  · rfl
  · cases h

/-- A declared resource that is not empty is the template's. -/
theorem named_eq_roleOf {template : Mapping} {name : String}
    (h : named (resources template) name ≠ []) :
    named (resources template) name = roleOf template name := by
  unfold resources named roleOf Mapping.get at *
  simp only at *
  split at h <;> rename_i hall
  · rw [if_pos hall] at *
    have hlookup (raw : Mapping) : (raw.map fun r => (r.1, r.2.mapping)).lookup name =
        (raw.lookup name).map mapping := by
      induction raw with
      | nil => rfl
      | cons f fs ih =>
        rw [List.map_cons, List.lookup_cons, List.lookup_cons]
        rcases name == f.1 with _ | _
        · exact ih
        · rfl
    rw [hlookup]
    rcases List.lookup name (mapping ((List.lookup "Resources" template).getD .null)) with _ | j
    · rfl
    · rfl
  · exact absurd rfl h

/-- What a computation that went through has computed on its way. -/
theorem ok_of_bind {α β : Type} {x : Except PyExc α} {f : α → Except PyExc β} {b : β}
    (h : x >>= f = .ok b) : ∃ a, x = .ok a ∧ f a = .ok b := by
  rcases x with e | a
  · cases h
  · exact ⟨a, rfl, h⟩

section Gate

variable [FloatValue]

/-- The IAM check of `validate_iac` passes. -/
def Gate (template : Template) (contract : AwsDeploymentContract) : Prop :=
  ∃ checks, validateIac template contract = .ok checks ∧
    ∃ c ∈ checks, c.checkId = "P3-IAC-04" ∧ c.status = .pass

omit [FloatValue] in
/-- A check passes when it has no reasons. -/
theorem check_pass_iff {checkId : String} {reasons : List String} :
    (check checkId reasons).status = .pass ↔ reasons = [] := by
  rw [(check checkId reasons).outcome]
  show sortedSet reasons = [] ↔ reasons = []
  rw [List.eq_nil_iff_forall_not_mem, List.eq_nil_iff_forall_not_mem]
  exact forall_congr' fun text => not_congr mem_sortedSet

omit [FloatValue] in
/-- The reasons of the two roles are empty only if both are declared, apart, and their collected
    actions are the contract's, none with an asterisk. -/
theorem roleReasons_nil {declared : List (String × Mapping)} {iam : IamBoundary} {aliased : Bool}
    (h : roleReasons declared iam aliased = .ok []) :
    named declared "OrchestratorRole" ≠ [] ∧ named declared "RemediationExecutorRole" ≠ [] ∧
      actions (named declared "OrchestratorRole") = iam.orchestratorActions ∧
      actions (named declared "RemediationExecutorRole") = iam.executorActions ∧
      ∀ action ∈ iam.orchestratorActions ++ iam.executorActions, '*' ∉ action.toList := by
  obtain ⟨serialized, -, h⟩ := ok_of_bind h
  have hreasons := Except.ok.inj h
  simp only [List.append_eq_nil_iff] at hreasons
  obtain ⟨⟨⟨⟨⟨hseparate, horchestrator⟩, hexecutor⟩, hstar⟩, -⟩, -⟩ := hreasons
  have hseparate := reason_eq_nil hseparate
  have horchestrator := reason_eq_nil horchestrator
  have hexecutor := reason_eq_nil hexecutor
  have hstar := reason_eq_nil hstar
  simp only [Bool.or_eq_false_iff, List.isEmpty_eq_false_iff] at hseparate
  have ho := bne_eq_false_iff_eq.mp horchestrator
  have he := bne_eq_false_iff_eq.mp hexecutor
  refine ⟨hseparate.1.2, hseparate.2, ho, he, fun action haction hasterisk => ?_⟩
  rw [ho, he, List.any_eq_false] at hstar
  exact hstar action haction (List.contains_iff_mem.mpr hasterisk)

/-- What a passing IAM check says. -/
theorem Gate.boundary {template : Template} {contract : AwsDeploymentContract}
    (h : Gate template contract) :
    ∃ iam, contract.iam = some iam ∧
      actions (roleOf template.fields "OrchestratorRole") = iam.orchestratorActions ∧
      actions (roleOf template.fields "RemediationExecutorRole") = iam.executorActions ∧
      ∀ action ∈ iam.orchestratorActions ++ iam.executorActions, '*' ∉ action.toList := by
  obtain ⟨checks, hchecks, c, hc, hid, hpass⟩ := h
  have hiam : iamReasons (resources template.fields) contract template.aliased = .ok [] := by
    obtain ⟨parameters, -, hchecks⟩ := ok_of_bind hchecks
    obtain ⟨reasons, hreasons, hchecks⟩ := ok_of_bind hchecks
    obtain ⟨observability, -, hchecks⟩ := ok_of_bind hchecks
    obtain ⟨tags, -, hchecks⟩ := ok_of_bind hchecks
    obtain ⟨cost, -, hchecks⟩ := ok_of_bind hchecks
    obtain rfl := Except.ok.inj hchecks
    simp only [List.mem_cons, List.not_mem_nil, or_false] at hc
    rcases hc with rfl | rfl | rfl | rfl | rfl | rfl | rfl | rfl | rfl | rfl | rfl
    case inr.inr.inr.inl => rw [hreasons, check_pass_iff.mp hpass]
    all_goals simp [check] at hid
  obtain ⟨roles, hroles, hiam⟩ := ok_of_bind hiam
  obtain ⟨negative, -, hiam⟩ := ok_of_bind hiam
  obtain ⟨rfl, -⟩ := List.append_eq_nil_iff.mp (Except.ok.inj hiam)
  rcases hcontract : contract.iam with _ | iam
  · rw [hcontract] at hroles
    cases hroles
  · rw [hcontract] at hroles
    obtain ⟨hno, hne, ho, he, hstar⟩ := roleReasons_nil hroles
    rw [named_eq_roleOf hno] at ho
    rw [named_eq_roleOf hne] at he
    exact ⟨iam, rfl, ho, he, hstar⟩

/-- A manifest is returned only behind the gate. -/
theorem gate_of_manifest {template : Template} {contract : AwsDeploymentContract}
    {digest : Sha256Digest} {m : ExpectedResourceManifest}
    (h : buildExpectedResourceManifest template contract digest = .ok m) :
    Gate template contract := by
  obtain ⟨checks, hchecks, h⟩ := ok_of_bind h
  refine ⟨checks, hchecks, ?_⟩
  split at h
  · next hpassed =>
    obtain ⟨intents, -, h⟩ := ok_of_bind h
    dsimp only at h
    split at h
    · next hshape =>
      have hid : "P3-IAC-04" ∈ checks.map (·.checkId) := by
        rw [hshape.1]
        decide
      obtain ⟨c, hc, hcid⟩ := List.mem_map.mp hid
      exact ⟨c, hc, hcid, hpassed c hc⟩
    · cases h
  · cases h

/-- A template behind the gate grants its roles what the contract lists, and nothing else, precisely
    where what the gate does not look at agrees with the list. -/
theorem iam_gate_sound_iff (template : Template) (contract : AwsDeploymentContract)
    (digest : Sha256Digest) :
    ((Gate template contract → Sound template.fields contract) ∧
      ∀ m, buildExpectedResourceManifest template contract digest = .ok m →
        Sound template.fields contract) ↔
      (Gate template contract → CoveredRoles template.fields contract) := by
  constructor
  · rintro ⟨hsound, -⟩ hgate iam hiam
    obtain ⟨ho, he⟩ := hsound hgate iam hiam
    exact ⟨ho.covered, he.covered⟩
  · intro hcovered
    have hsound : Gate template contract → Sound template.fields contract := by
      intro hgate iam hiam
      obtain ⟨iam', hiam', ho, he, hstar⟩ := hgate.boundary
      obtain rfl : iam' = iam := Option.some.inj (hiam'.symm.trans hiam)
      obtain ⟨hco, hce⟩ := hcovered hgate iam' hiam
      exact ⟨hco.bounded ho fun a ha => hstar a (List.mem_append_left _ ha),
        hce.bounded he fun a ha => hstar a (List.mem_append_right _ ha)⟩
    exact ⟨hsound, fun m hm => hsound (gate_of_manifest hm)⟩

/-- Reasons that could all be computed, with none against the roles. -/
theorem gate_of_reasons {template : Template} {contract : AwsDeploymentContract}
    (hi : iamReasons (resources template.fields) contract template.aliased = .ok [])
    (hp : (parameterReasons template.fields).isOk)
    (ho : (observabilityReasons template.fields (resources template.fields) contract).isOk)
    (ht : (tagReasons (resources template.fields) contract).isOk)
    (hc : (costReasons template.fields (resources template.fields) contract).isOk) :
    Gate template contract := by
  have hok {α : Type} {x : Except PyExc α} (h : x.isOk) : ∃ a, x = .ok a := by
    rcases x with e | a
    · cases h
    · exact ⟨a, rfl⟩
  obtain ⟨parameters, hp⟩ := hok hp
  obtain ⟨observability, ho⟩ := hok ho
  obtain ⟨tags, ht⟩ := hok ht
  obtain ⟨cost, hc⟩ := hok hc
  have hchecks : ∃ before after, validateIac template contract =
      .ok (before ++ check "P3-IAC-04" [] :: after) := by
    unfold validateIac
    dsimp only
    rw [hp, hi, ho, ht, hc]
    exact ⟨[_, _, _], [_, _, _, _, _, _, _], rfl⟩
  obtain ⟨before, after, hchecks⟩ := hchecks
  exact ⟨_, hchecks, check "P3-IAC-04" [], List.mem_append_right _ List.mem_cons_self, rfl,
    check_pass_iff.mpr rfl⟩

end Gate

/-! ## A grant the gate does not see -/

section Sample

/-- No float occurs in the sample. -/
local instance : FloatValue := ⟨fun _ => none⟩

def policy (statement : Json) : Json := .obj [("PolicyDocument", .obj [("Statement", statement)])]

def allow (action resource : String) : Json := .obj [("Effect", .str "Allow"),
  ("Action", .arr [.str action]), ("Resource", .str resource)]

def role (policies : List Json) : Json := .obj [("Type", .str "AWS::IAM::Role"),
  ("Properties", .obj [("Policies", .arr policies)])]

/-- The orchestrator's second policy document holds one statement, in no list. -/
def bareTemplate : Template where
  fields := [("Resources", .obj [
    ("OrchestratorRole", role [policy (.arr [allow "logs:PutLogEvents" "*"]),
      policy (allow "iam:PassRole" "*")]),
    ("RemediationExecutorRole", role [policy (.arr [allow "ec2:StopInstances"
      ("instance/${SandboxInstanceId} aws:RequestedRegion eu-central-1 " ++
        "aws:ResourceTag/AIOACloudOpsSandbox")])])])]

def boundary : IamBoundary where
  orchestratorActions := ["logs:PutLogEvents"]
  executorActions := ["ec2:StopInstances"]
  orchestrator_canonical := by decide
  executor_canonical := by decide
  no_direct_stop := by decide

def sampleContract : AwsDeploymentContract :=
  ⟨none, none, none, some boundary, true, true, true, ⟨0⟩⟩

/-- The IAM check passes, and the orchestrator may pass roles. -/
theorem bare_statement_passes :
    Gate bareTemplate sampleContract ∧
      Grants (roleOf bareTemplate.fields "OrchestratorRole") "iam:PassRole" ∧
      "iam:PassRole" ∉ boundary.orchestratorActions := by
  have hiam : iamReasons (resources bareTemplate.fields) sampleContract bareTemplate.aliased =
      .ok [] := by decide +kernel
  refine ⟨gate_of_reasons hiam (by decide +kernel) (by decide +kernel) (by decide +kernel)
    (by decide +kernel), ?_, by decide⟩
  refine ⟨_, List.mem_cons_of_mem _ List.mem_cons_self, _, List.mem_singleton_self _, rfl, ?_⟩
  exact List.mem_singleton_self _

end Sample

end Iac

end CloudOpsAgent
