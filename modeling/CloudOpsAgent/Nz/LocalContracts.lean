/-
  The contracts of the local CloudSecOps workflow, and the checkpoint that carries them.

  A local run keeps everything in its checkpoint: evidence → proposal → approval request → decision
  → execution intent → receipt → verification, each link bound to the one before by its hash.  The
  hashes the validators force are functions here (`RemediationProposal.proposalHash`, …), so a
  record of these types always carries the hash of its own content.

  `CheckpointFields.violation` is the checkpoint validator as the source runs it: the message of the
  first check that fails.  A `Checkpoint` is a record of fields with no violation, and
  `Checkpoint.chain` is what later proofs use of that: a link is present only if its predecessor is.
-/
import CloudOpsAgent.Nz.Contracts
import Mathlib.Data.Finset.Sort
import Mathlib.Data.String.Basic

namespace CloudOpsAgent

/-! ## The order of the keys of a text dictionary -/

instance Dict.keyTrans : IsTrans String fun k k' => k ≤ k' := inferInstance
instance Dict.keyAntisymm : Std.Antisymm fun k k' : String => k ≤ k' := inferInstance
instance Dict.keyTotal : Std.Total fun k k' : String => k ≤ k' := inferInstance

/-- The bindings of a text dictionary as JSON fields. -/
def Dict.toFields {ν : Type} (f : ν → Json) (d : Dict String ν) : List (String × Json) :=
  (d.keys.sort (· ≤ ·)).filterMap fun k => (d.lookup k).map fun v => (k, f v)

/-! ## Resources and their evidence -/

structure SecurityGroupRule where
  ipProtocol : String
  cidrIpv4 : String
  fromPort : Option Nat := none
  toPort : Option Nat := none
  ports_ok :
    if ipProtocol = "-1" then fromPort = none ∧ toPort = none
    else ∃ a ∈ fromPort, ∃ b ∈ toPort, a ≤ b
  deriving DecidableEq

def SecurityGroupRule.toJson (r : SecurityGroupRule) : Json :=
  .obj [("ip_protocol", .str r.ipProtocol), ("cidr_ipv4", .str r.cidrIpv4),
    ("from_port", .ofOption (fun n => .int n) r.fromPort),
    ("to_port", .ofOption (fun n => .int n) r.toPort)]

structure Ec2Resource where
  resourceId : String
  region : String
  state : Ec2InstanceState
  instanceType : String
  tags : Dict String String
  deriving DecidableEq

structure ElasticIpResource where
  resourceId : String
  region : String
  publicIp : String
  associationId : Option String := none
  tags : Dict String String
  deriving DecidableEq

structure SecurityGroupResource where
  resourceId : String
  region : String
  vpcId : String
  inboundRules : List SecurityGroupRule
  outboundRules : List SecurityGroupRule
  tags : Dict String String
  deriving DecidableEq

inductive CloudResource where
  | ec2 (r : Ec2Resource)
  | elasticIp (r : ElasticIpResource)
  | securityGroup (r : SecurityGroupResource)
  deriving DecidableEq

namespace CloudResource

def resourceType : CloudResource → CloudResourceType
  | ec2 _ => .ec2Instance
  | elasticIp _ => .elasticIp
  | securityGroup _ => .securityGroup

def resourceId : CloudResource → String
  | ec2 r => r.resourceId
  | elasticIp r => r.resourceId
  | securityGroup r => r.resourceId

def region : CloudResource → String
  | ec2 r => r.region
  | elasticIp r => r.region
  | securityGroup r => r.region

def toJson : CloudResource → Json
  | ec2 r => .obj [("resource_type", .str CloudResourceType.ec2Instance.value),
      ("resource_id", .str r.resourceId), ("region", .str r.region), ("state", .str r.state.value),
      ("instance_type", .str r.instanceType), ("tags", .obj (r.tags.toFields .str))]
  | elasticIp r => .obj [("resource_type", .str CloudResourceType.elasticIp.value),
      ("resource_id", .str r.resourceId), ("region", .str r.region),
      ("public_ip", .str r.publicIp), ("association_id", .ofOption .str r.associationId),
      ("tags", .obj (r.tags.toFields .str))]
  | securityGroup r => .obj [("resource_type", .str CloudResourceType.securityGroup.value),
      ("resource_id", .str r.resourceId), ("region", .str r.region), ("vpc_id", .str r.vpcId),
      ("inbound_rules", .arr (r.inboundRules.map SecurityGroupRule.toJson)),
      ("outbound_rules", .arr (r.outboundRules.map SecurityGroupRule.toJson)),
      ("tags", .obj (r.tags.toFields .str))]

end CloudResource

/-- Structured origin of normalized facts. -/
structure ResourceProvenance where
  runId : UUID
  traceId : UUID
  correlationId : UUID
  adapter : String
  resourceType : CloudResourceType
  resourceId : String
  observedFields : List String
  observedAt : Time
  fields_ok : observedFields ≠ [] ∧ observedFields.Pairwise (· < ·)
  deriving DecidableEq

def ResourceProvenance.toJson (p : ResourceProvenance) : Json :=
  .obj [("run_id", .str p.runId.str), ("trace_id", .str p.traceId.str),
    ("correlation_id", .str p.correlationId.str), ("source", .str "query_resource"),
    ("adapter", .str p.adapter), ("resource_type", .str p.resourceType.value),
    ("resource_id", .str p.resourceId), ("observed_fields", .arr (p.observedFields.map .str)),
    ("observed_at", .str p.observedAt.dumpJson)]

/-- Trusted read-only evidence produced through the cloud adapter boundary. -/
structure ResourceEvidence where
  runId : UUID
  traceId : UUID
  correlationId : UUID
  resource : CloudResource
  findings : List CloudFinding
  provenance : ResourceProvenance
  observedAt : Time
  binding : runId = provenance.runId ∧ traceId = provenance.traceId ∧
    correlationId = provenance.correlationId ∧
    resource.resourceType = provenance.resourceType ∧
    resource.resourceId = provenance.resourceId ∧ observedAt = provenance.observedAt
  findings_ok : findings ≠ [] ∧ (CloudFinding.clean ∈ findings → findings = [.clean]) ∧
    (findings.map CloudFinding.value).Pairwise (· < ·)
  deriving DecidableEq

namespace ResourceEvidence

def evidencePayload (e : ResourceEvidence) : Json :=
  .obj [("authority", .str AuthorityGate.auto.value), ("correlation_id", .str e.correlationId.str),
    ("findings", .arr (e.findings.map fun f => .str f.value)),
    ("observed_at", .str (Time.isoformat e.observedAt)), ("provenance", e.provenance.toJson),
    ("resource", e.resource.toJson), ("run_id", .str e.runId.str), ("trace_id", .str e.traceId.str)]

def evidenceHash [Sha256] (e : ResourceEvidence) : Sha256Digest := canonicalDigest e.evidencePayload

/-- The observed facts alone, without run identity or timestamps. -/
def stableFingerprint [Sha256] (e : ResourceEvidence) : Sha256Digest :=
  canonicalDigest <| .obj [("findings", .arr (e.findings.map fun f => .str f.value)),
    ("resource", e.resource.toJson)]

end ResourceEvidence

/-! ## Local proposals -/

/-- Inert exact-action proposal whose stable hash can be bound to an approval. -/
structure RemediationProposal where
  proposalId : UUID
  runId : UUID
  correlationId : UUID
  operationType : RemediationOperation
  targetResourceType : CloudResourceType
  targetResourceId : String
  normalizedParameters : List (String × Json)
  authorityClass : AuthorityGate
  evidenceHash : Sha256Digest
  evidenceFingerprint : Sha256Digest
  riskSummary : String
  createdAt : Time
  expiresAt : Time
  status : ProposalState := .proposed
  version : Nat := 1
  policy_ok : targetResourceType = operationType.policy.1 ∧ authorityClass = operationType.policy.2
  expires_later : createdAt < expiresAt
  parameters_ok : normalizedParameters ≠ []
  version_pos : 0 < version

namespace RemediationProposal

/-- Only the action-defining fields: no ids, no timestamps. -/
def actionPayload (p : RemediationProposal) : Json :=
  .obj [("authority_class", .str p.authorityClass.value),
    ("evidence_fingerprint", .str p.evidenceFingerprint.hex),
    ("normalized_parameters", .obj p.normalizedParameters),
    ("operation_type", .str p.operationType.value),
    ("target_resource_id", .str p.targetResourceId),
    ("target_resource_type", .str p.targetResourceType.value)]

def proposalHash [Sha256] (p : RemediationProposal) : Sha256Digest :=
  canonicalDigest p.actionPayload

end RemediationProposal

/-! ## The human decision -/

/-- Durable, nonce-hash-bound request for one local human decision. -/
structure LocalApprovalRequestRecord where
  requestId : UUID
  proposalId : UUID
  runId : UUID
  correlationId : UUID
  proposalHash : Sha256Digest
  evidenceHash : Sha256Digest
  proposalVersion : Nat
  operationType : RemediationOperation
  targetResourceType : CloudResourceType
  targetResourceId : String
  actorSessionId : String
  decisionNonceHash : Sha256Digest
  requestedAt : Time
  expiresAt : Time
  version_pos : 0 < proposalVersion
  expires_later : requestedAt < expiresAt

/-- What the record holds; its proofs are determined by that. -/
abbrev LocalApprovalRequestRecord.data (r : LocalApprovalRequestRecord) :=
  ((r.requestId, r.proposalId, r.runId, r.correlationId, r.proposalHash),
   (r.evidenceHash, r.proposalVersion, r.operationType, r.targetResourceType, r.targetResourceId),
   (r.actorSessionId, r.decisionNonceHash, r.requestedAt, r.expiresAt))

theorem LocalApprovalRequestRecord.data_inj {a b : LocalApprovalRequestRecord} :
    a.data = b.data ↔ a = b := by
  cases a
  cases b
  simp only [data, Prod.mk.injEq, mk.injEq, and_assoc]

set_option synthInstance.maxSize 512 in
instance : DecidableEq LocalApprovalRequestRecord := fun a b =>
  decidable_of_iff (a.data = b.data) LocalApprovalRequestRecord.data_inj

namespace LocalApprovalRequestRecord

def bindingPayload (r : LocalApprovalRequestRecord) : Json :=
  .obj [("actor_session_id", .str r.actorSessionId), ("correlation_id", .str r.correlationId.str),
    ("decision_nonce_hash", .str r.decisionNonceHash.hex), ("evidence_hash", .str r.evidenceHash.hex),
    ("expires_at", .str (Time.isoformat r.expiresAt)), ("operation_type", .str r.operationType.value),
    ("proposal_hash", .str r.proposalHash.hex), ("proposal_id", .str r.proposalId.str),
    ("proposal_version", .int r.proposalVersion), ("request_id", .str r.requestId.str),
    ("run_id", .str r.runId.str), ("target_resource_id", .str r.targetResourceId),
    ("target_resource_type", .str r.targetResourceType.value)]

def requestHash [Sha256] (r : LocalApprovalRequestRecord) : Sha256Digest :=
  canonicalDigest r.bindingPayload

def create [Sha256] (requestId : UUID) (proposal : RemediationProposal) (actorSessionId : String)
    (decisionNonceHash : Sha256Digest) (requestedAt expiresAt : Time) :
    Except PyExc LocalApprovalRequestRecord :=
  if proposal.authorityClass ≠ .planAndConfirm then
    .error (.valueError "only PLAN_AND_CONFIRM proposals may request local approval")
  else if proposal.status ≠ .awaitingApproval then
    .error (.valueError "local approval requires an awaiting proposal")
  else if expiresAt > proposal.expiresAt then
    .error (.valueError "approval request cannot outlive its proposal")
  else if h : requestedAt < expiresAt then
    .ok {
      requestId := requestId
      proposalId := proposal.proposalId
      runId := proposal.runId
      correlationId := proposal.correlationId
      proposalHash := proposal.proposalHash
      evidenceHash := proposal.evidenceHash
      proposalVersion := proposal.version
      operationType := proposal.operationType
      targetResourceType := proposal.targetResourceType
      targetResourceId := proposal.targetResourceId
      actorSessionId := actorSessionId
      decisionNonceHash := decisionNonceHash
      requestedAt := requestedAt
      expiresAt := expiresAt
      version_pos := proposal.version_pos
      expires_later := h }
  else .error (.valueError "local approval request must expire after it is created")

end LocalApprovalRequestRecord

/-- One immutable human decision bound to the complete local request. -/
structure LocalApprovalDecisionRecord where
  requestId : UUID
  proposalId : UUID
  runId : UUID
  requestHash : Sha256Digest
  proposalHash : Sha256Digest
  evidenceHash : Sha256Digest
  proposalVersion : Nat
  decision : ApprovalDecision
  actorSessionId : String
  decisionNonceHash : Sha256Digest
  decidedAt : Time
  version_pos : 0 < proposalVersion

/-- What the record holds; its proofs are determined by that. -/
abbrev LocalApprovalDecisionRecord.data (r : LocalApprovalDecisionRecord) :=
  ((r.requestId, r.proposalId, r.runId, r.requestHash, r.proposalHash),
   (r.evidenceHash, r.proposalVersion, r.decision, r.actorSessionId, r.decisionNonceHash),
   r.decidedAt)

theorem LocalApprovalDecisionRecord.data_inj {a b : LocalApprovalDecisionRecord} :
    a.data = b.data ↔ a = b := by
  cases a
  cases b
  simp only [data, Prod.mk.injEq, mk.injEq, and_assoc]

set_option synthInstance.maxSize 512 in
instance : DecidableEq LocalApprovalDecisionRecord := fun a b =>
  decidable_of_iff (a.data = b.data) LocalApprovalDecisionRecord.data_inj

namespace LocalApprovalDecisionRecord

def bindingPayload (r : LocalApprovalDecisionRecord) : Json :=
  .obj [("actor_session_id", .str r.actorSessionId),
    ("decided_at", .str (Time.isoformat r.decidedAt)), ("decision", .str r.decision.value),
    ("decision_nonce_hash", .str r.decisionNonceHash.hex), ("evidence_hash", .str r.evidenceHash.hex),
    ("proposal_hash", .str r.proposalHash.hex), ("proposal_id", .str r.proposalId.str),
    ("proposal_version", .int r.proposalVersion), ("request_hash", .str r.requestHash.hex),
    ("request_id", .str r.requestId.str), ("run_id", .str r.runId.str)]

def decisionHash [Sha256] (r : LocalApprovalDecisionRecord) : Sha256Digest :=
  canonicalDigest r.bindingPayload

def create [Sha256] (request : LocalApprovalRequestRecord) (decision : ApprovalDecision)
    (decidedAt : Time) : LocalApprovalDecisionRecord where
  requestId := request.requestId
  proposalId := request.proposalId
  runId := request.runId
  requestHash := request.requestHash
  proposalHash := request.proposalHash
  evidenceHash := request.evidenceHash
  proposalVersion := request.proposalVersion
  decision := decision
  actorSessionId := request.actorSessionId
  decisionNonceHash := request.decisionNonceHash
  decidedAt := decidedAt
  version_pos := request.version_pos

end LocalApprovalDecisionRecord

/-! ## Execution and verification of a local action -/

/-- Write-before-execute ownership for one approved local mock mutation. -/
structure LocalExecutionIntent where
  runId : UUID
  proposalId : UUID
  proposalHash : Sha256Digest
  evidenceHash : Sha256Digest
  decisionHash : Sha256Digest
  operationType : RemediationOperation
  targetResourceType : CloudResourceType
  targetResourceId : String
  idempotencyKey : String
  registeredAt : Time
  operation_ok : operationType ≠ .applyRequiredTags
  deriving DecidableEq

namespace LocalExecutionIntent

def bindingPayload (r : LocalExecutionIntent) : Json :=
  .obj [("decision_hash", .str r.decisionHash.hex), ("evidence_hash", .str r.evidenceHash.hex),
    ("idempotency_key", .str r.idempotencyKey), ("operation_type", .str r.operationType.value),
    ("proposal_hash", .str r.proposalHash.hex), ("proposal_id", .str r.proposalId.str),
    ("registered_at", .str (Time.isoformat r.registeredAt)), ("run_id", .str r.runId.str),
    ("target_resource_id", .str r.targetResourceId),
    ("target_resource_type", .str r.targetResourceType.value)]

def intentHash [Sha256] (r : LocalExecutionIntent) : Sha256Digest := canonicalDigest r.bindingPayload

def create [Sha256] (proposal : RemediationProposal) (approval : LocalApprovalDecisionRecord)
    (registeredAt : Time) : Except PyExc LocalExecutionIntent :=
  if approval.decision ≠ .approved then
    .error (.valueError "local execution intent requires approval")
  else if approval.proposalId ≠ proposal.proposalId ∨ approval.runId ≠ proposal.runId ∨
      approval.proposalHash ≠ proposal.proposalHash ∨
      approval.evidenceHash ≠ proposal.evidenceHash ∨
      approval.proposalVersion ≠ proposal.version then
    .error (.valueError "local execution intent prerequisites do not match")
  else if h : proposal.operationType ≠ .applyRequiredTags then
    .ok {
      runId := proposal.runId
      proposalId := proposal.proposalId
      proposalHash := proposal.proposalHash
      evidenceHash := proposal.evidenceHash
      decisionHash := approval.decisionHash
      operationType := proposal.operationType
      targetResourceType := proposal.targetResourceType
      targetResourceId := proposal.targetResourceId
      idempotencyKey := "local-exec:" ++ proposal.proposalHash.hex
      registeredAt := registeredAt
      operation_ok := h }
  else .error (.valueError "NEVER_AUTONOMOUS tag proposals cannot form execution intent")

end LocalExecutionIntent

/-- The receipt's subsequence loop: each rule of `after` must still be found in what the shared
    iterator over `before` has left. -/
def orderedSubset : (before after : List SecurityGroupRule) → Bool
  | _, [] => true
  | [], _ :: _ => false
  | rule :: before, expected :: after =>
    if rule = expected then orderedSubset before after else orderedSubset before (expected :: after)

/-- The loop finds what is left of a list in order. -/
theorem orderedSubset_iff {before after : List SecurityGroupRule} :
    orderedSubset before after ↔ after.Sublist before := by
  rw [← List.isSublist_iff_sublist]
  fun_induction orderedSubset before after with
  | case1 before => simp [List.isSublist]
  | case2 => simp [List.isSublist]
  | case3 before rule after ih => simp [List.isSublist, ih]
  | case4 rule before expected after hne ih => simp [List.isSublist, Ne.symm hne, ih]

/-- What `validate_receipt_binding` demands of the before and after state of each operation. -/
def ReceiptStates : RemediationOperation → CloudResource → Option CloudResource → Bool
  | .releaseElasticIp, .elasticIp before, after => before.associationId.isNone && after.isNone
  | .revokePublicIngress, .securityGroup before, some (.securityGroup after) =>
    after.resourceId == before.resourceId && after.region == before.region &&
      after.vpcId == before.vpcId && after.outboundRules == before.outboundRules &&
      after.tags == before.tags &&
      decide (after.inboundRules.length < before.inboundRules.length) &&
      orderedSubset before.inboundRules after.inboundRules
  | _, _, _ => false

theorem receiptStates_released {before : CloudResource} {after : Option CloudResource}
    (h : ReceiptStates .releaseElasticIp before after) : after = none := by
  cases before <;> cases after <;> simp [ReceiptStates] at h ⊢

theorem receiptStates_revoked {before : CloudResource} {after : Option CloudResource}
    (h : ReceiptStates .revokePublicIngress before after) : ∃ b a, before = .securityGroup b ∧
      after = some (.securityGroup a) ∧ a.resourceId = b.resourceId := by
  rcases before with _ | _ | b
  · cases h
  · cases h
  rcases after with _ | _ | _ | a
  · cases h
  · cases h
  · cases h
  · simp only [ReceiptStates, Bool.and_eq_true, beq_iff_eq] at h
    exact ⟨b, a, rfl, rfl, h.1.1.1.1.1.1⟩

/-- Atomic mock-provider mutation receipt; it is not final verification. -/
structure LocalExecutionReceipt where
  runId : UUID
  proposalId : UUID
  proposalHash : Sha256Digest
  evidenceHash : Sha256Digest
  decisionHash : Sha256Digest
  intentHash : Sha256Digest
  idempotencyKey : String
  operationType : RemediationOperation
  targetResourceType : CloudResourceType
  targetResourceId : String
  beforeResource : CloudResource
  afterResource : Option CloudResource := none
  executedAt : Time
  target_ok : beforeResource.resourceType = targetResourceType ∧
    beforeResource.resourceId = targetResourceId
  states_ok : ReceiptStates operationType beforeResource afterResource
  deriving DecidableEq

namespace LocalExecutionReceipt

def receiptPayload (r : LocalExecutionReceipt) : Json :=
  .obj [("after_resource", .ofOption CloudResource.toJson r.afterResource),
    ("before_resource", r.beforeResource.toJson), ("decision_hash", .str r.decisionHash.hex),
    ("evidence_hash", .str r.evidenceHash.hex), ("executed_at", .str (Time.isoformat r.executedAt)),
    ("idempotency_key", .str r.idempotencyKey), ("intent_hash", .str r.intentHash.hex),
    ("operation_type", .str r.operationType.value), ("proposal_hash", .str r.proposalHash.hex),
    ("proposal_id", .str r.proposalId.str), ("run_id", .str r.runId.str),
    ("target_resource_id", .str r.targetResourceId),
    ("target_resource_type", .str r.targetResourceType.value)]

def receiptHash [Sha256] (r : LocalExecutionReceipt) : Sha256Digest :=
  canonicalDigest r.receiptPayload

end LocalExecutionReceipt

/-- What an independent read-back must have observed for each operation. -/
def ObservedStates (operation : RemediationOperation) (targetType : CloudResourceType)
    (targetId : String) (absent : Bool) (observed : Option CloudResource) : Bool :=
  match operation, observed with
  | .releaseElasticIp, none => absent
  | .revokePublicIngress, some (.securityGroup r) =>
    !absent && r.resourceId == targetId && targetType == .securityGroup
  | _, _ => false

/-- Independent read-back proof for a completed local mock mutation. -/
structure LocalVerificationEvidence where
  runId : UUID
  proposalId : UUID
  receiptHash : Sha256Digest
  operationType : RemediationOperation
  targetResourceType : CloudResourceType
  targetResourceId : String
  observedAbsent : Bool
  observedResource : Option CloudResource := none
  verifiedAt : Time
  observed_ok :
    ObservedStates operationType targetResourceType targetResourceId observedAbsent observedResource
  deriving DecidableEq

namespace LocalVerificationEvidence

def verificationPayload (v : LocalVerificationEvidence) : Json :=
  .obj [("observed_absent", .bool v.observedAbsent),
    ("observed_resource", .ofOption CloudResource.toJson v.observedResource),
    ("operation_type", .str v.operationType.value), ("proposal_id", .str v.proposalId.str),
    ("receipt_hash", .str v.receiptHash.hex), ("run_id", .str v.runId.str),
    ("target_resource_id", .str v.targetResourceId),
    ("target_resource_type", .str v.targetResourceType.value),
    ("verified_at", .str (Time.isoformat v.verifiedAt))]

def verificationHash [Sha256] (v : LocalVerificationEvidence) : Sha256Digest :=
  canonicalDigest v.verificationPayload

end LocalVerificationEvidence

/-! ## Checkpoints -/

/-- The fields of a checkpoint, before validation. -/
structure CheckpointFields where
  runId : UUID
  lastSafeState : WorkflowState
  resumeMetadata : Dict String Json := ∅
  toolResultHashes : Dict String Sha256Digest := ∅
  resourceEvidence : Option ResourceEvidence := none
  remediationProposal : Option RemediationProposal := none
  localApprovalRequest : Option LocalApprovalRequestRecord := none
  localApproval : Option LocalApprovalDecisionRecord := none
  localExecutionIntent : Option LocalExecutionIntent := none
  localExecutionReceipt : Option LocalExecutionReceipt := none
  localVerification : Option LocalVerificationEvidence := none
  createdAt : Time
  version : Nat := 1

theorem ite_some_eq_none {α : Type} {p : Prop} [Decidable p] {a : α} {x : Option α} :
    (if p then some a else x) = none ↔ ¬p ∧ x = none := by
  by_cases hp : p <;> simp [hp]

namespace CheckpointFields

variable [Sha256] (c : CheckpointFields)

/-- The evidence and the proposal name one run, one correlation and one evidence hash. -/
def proposalBound (p : RemediationProposal) : Bool :=
  match c.resourceEvidence with
  | none => false
  | some e => p.runId == c.runId && e.runId == c.runId && p.correlationId == e.correlationId &&
      p.evidenceHash == e.evidenceHash

def requestBound (r : LocalApprovalRequestRecord) : Bool :=
  match c.remediationProposal with
  | none => false
  | some p => r.runId == c.runId && r.correlationId == p.correlationId &&
      r.proposalId == p.proposalId && r.proposalHash == p.proposalHash &&
      r.evidenceHash == p.evidenceHash && r.proposalVersion == p.version &&
      r.operationType == p.operationType && r.targetResourceType == p.targetResourceType &&
      r.targetResourceId == p.targetResourceId

def approvalBound (a : LocalApprovalDecisionRecord) : Bool :=
  match c.localApprovalRequest with
  | none => false
  | some r => a.runId == c.runId && a.requestId == r.requestId && a.requestHash == r.requestHash &&
      a.proposalId == r.proposalId && a.proposalHash == r.proposalHash &&
      a.evidenceHash == r.evidenceHash && a.proposalVersion == r.proposalVersion &&
      a.actorSessionId == r.actorSessionId && a.decisionNonceHash == r.decisionNonceHash &&
      decide (r.requestedAt ≤ a.decidedAt) && decide (a.decidedAt ≤ r.expiresAt)

def intentBound (i : LocalExecutionIntent) : Bool :=
  match c.remediationProposal, c.localApproval with
  | some p, some a => a.decision == .approved && i.runId == c.runId &&
      i.proposalId == p.proposalId && i.proposalHash == p.proposalHash &&
      i.evidenceHash == p.evidenceHash && i.decisionHash == a.decisionHash &&
      i.operationType == p.operationType && i.targetResourceType == p.targetResourceType &&
      i.targetResourceId == p.targetResourceId &&
      i.idempotencyKey == "local-exec:" ++ p.proposalHash.hex &&
      decide (a.decidedAt ≤ i.registeredAt) && decide (i.registeredAt ≤ p.expiresAt)
  | _, _ => false

def receiptBound (r : LocalExecutionReceipt) : Bool :=
  match c.localExecutionIntent with
  | none => false
  | some i => r.runId == c.runId && r.proposalId == i.proposalId &&
      r.proposalHash == i.proposalHash && r.evidenceHash == i.evidenceHash &&
      r.decisionHash == i.decisionHash && r.intentHash == i.intentHash &&
      r.idempotencyKey == i.idempotencyKey && r.operationType == i.operationType &&
      r.targetResourceType == i.targetResourceType && r.targetResourceId == i.targetResourceId &&
      decide (i.registeredAt ≤ r.executedAt)

def verificationBound (v : LocalVerificationEvidence) : Bool :=
  match c.localExecutionReceipt with
  | none => false
  | some r => v.runId == c.runId && v.proposalId == r.proposalId &&
      v.receiptHash == r.receiptHash && v.operationType == r.operationType &&
      v.targetResourceType == r.targetResourceType && v.targetResourceId == r.targetResourceId &&
      v.observedResource == r.afterResource && decide (r.executedAt ≤ v.verifiedAt)

/-- The message of the first check of `validate_last_safe_state` that fails. -/
def violation : Option String :=
  if c.version = 0 then some "Input should be greater than 0"
  else if c.lastSafeState = .executing ∨ c.lastSafeState = .verifying then
    some "checkpoint cannot label an active side-effect state as safe"
  else if c.remediationProposal.isSome ∧ c.resourceEvidence.isNone then
    some "local proposal checkpoint requires resource evidence"
  else if !c.remediationProposal.all c.proposalBound then
    some "checkpoint evidence and proposal identities must match"
  else if !c.localApprovalRequest.all c.requestBound then
    some "checkpoint local approval request is not proposal-bound"
  else if !c.localApproval.all c.approvalBound then
    some "checkpoint local approval is not request-bound"
  else if !c.localExecutionIntent.all c.intentBound then
    some "checkpoint local execution intent is not approval-bound"
  else if !c.localExecutionReceipt.all c.receiptBound then
    some "checkpoint local receipt is not intent-bound"
  else if !c.localVerification.all c.verificationBound then
    some "checkpoint local verification is not receipt-bound"
  else none

theorem violation_eq_none :
    c.violation = none ↔ c.version ≠ 0 ∧
      ¬(c.lastSafeState = .executing ∨ c.lastSafeState = .verifying) ∧
      ¬(c.remediationProposal.isSome ∧ c.resourceEvidence.isNone) ∧
      c.remediationProposal.all c.proposalBound ∧ c.localApprovalRequest.all c.requestBound ∧
      c.localApproval.all c.approvalBound ∧ c.localExecutionIntent.all c.intentBound ∧
      c.localExecutionReceipt.all c.receiptBound ∧ c.localVerification.all c.verificationBound := by
  simp only [violation, ite_some_eq_none, Bool.not_eq_true', Bool.not_eq_false, and_true]

end CheckpointFields

/-- Versioned last-safe-state record. -/
structure Checkpoint [Sha256] extends CheckpointFields where
  valid : toCheckpointFields.violation = none

namespace Checkpoint

variable [Sha256]

/-- Build a checkpoint, or raise the validator's error. -/
def validate (c : CheckpointFields) : Except PyExc Checkpoint :=
  match h : c.violation with
  | none => .ok ⟨c, h⟩
  | some message => .error (.valueError message)

theorem validate_ok {f : CheckpointFields} {c : Checkpoint} (h : validate f = .ok c) :
    c.toCheckpointFields = f := by
  unfold validate at h
  split at h
  · cases h; rfl
  · cases h

theorem validate_of_violation {f : CheckpointFields} (h : f.violation = none) :
    validate f = .ok ⟨f, h⟩ := by
  unfold validate
  split
  · rfl
  · rename_i message hm
    rw [h] at hm
    cases hm

theorem validate_self (c : Checkpoint) : validate c.toCheckpointFields = .ok c := by
  unfold validate
  split
  · rfl
  · rename_i message hm
    rw [c.valid] at hm
    cases hm

/-- A checkpoint that only changes what no local link depends on is valid again. -/
theorem validate_update (c : Checkpoint) (metadata : Dict String Json)
    (hashes : Dict String Sha256Digest) {safe : WorkflowState}
    (hs : safe ≠ .executing ∧ safe ≠ .verifying) (t : Time) :
    { c.toCheckpointFields with
      lastSafeState := safe, resumeMetadata := metadata, toolResultHashes := hashes,
      createdAt := t, version := c.version + 1 }.violation = none := by
  obtain ⟨-, -, hrest⟩ := CheckpointFields.violation_eq_none _ |>.mp c.valid
  refine CheckpointFields.violation_eq_none _ |>.mpr ⟨Nat.succ_ne_zero _, ?_, hrest⟩
  rintro (h | h)
  · exact hs.1 h
  · exact hs.2 h

/-- A link of the local chain is present only if the link before it is. -/
theorem chain (c : Checkpoint) :
    (c.localVerification.isSome → c.localExecutionReceipt.isSome) ∧
      (c.localExecutionReceipt.isSome → c.localExecutionIntent.isSome) ∧
      (c.localExecutionIntent.isSome → c.localApproval.isSome) ∧
      (c.localApproval.isSome → c.localApprovalRequest.isSome) ∧
      (c.localApprovalRequest.isSome → c.remediationProposal.isSome) := by
  obtain ⟨-, -, -, -, hreq, happ, hint, hrec, hver⟩ :=
    CheckpointFields.violation_eq_none _ |>.mp c.valid
  refine ⟨fun h => ?_, fun h => ?_, fun h => ?_, fun h => ?_, fun h => ?_⟩
  · obtain ⟨v, hv⟩ := Option.isSome_iff_exists.mp h
    simp only [hv, Option.all_some, CheckpointFields.verificationBound] at hver
    cases hr : c.localExecutionReceipt <;> simp_all
  · obtain ⟨v, hv⟩ := Option.isSome_iff_exists.mp h
    simp only [hv, Option.all_some, CheckpointFields.receiptBound] at hrec
    cases hr : c.localExecutionIntent <;> simp_all
  · obtain ⟨v, hv⟩ := Option.isSome_iff_exists.mp h
    simp only [hv, Option.all_some, CheckpointFields.intentBound] at hint
    cases hp : c.remediationProposal <;> cases hr : c.localApproval <;> simp_all
  · obtain ⟨v, hv⟩ := Option.isSome_iff_exists.mp h
    simp only [hv, Option.all_some, CheckpointFields.approvalBound] at happ
    cases hr : c.localApprovalRequest <;> simp_all
  · obtain ⟨v, hv⟩ := Option.isSome_iff_exists.mp h
    simp only [hv, Option.all_some, CheckpointFields.requestBound] at hreq
    cases hr : c.remediationProposal <;> simp_all

end Checkpoint

end CloudOpsAgent
