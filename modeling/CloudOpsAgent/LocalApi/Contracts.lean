/-
  The bodies the loopback API takes, and the errors it answers with.

  A request model is read from the JSON value of a body.  Each forbids unknown keys; what pydantic
  coerces besides, a text to an identifier or a number to another one, is left to `Lax`.
-/
import CloudOpsAgent.LocalApi.Auth
import CloudOpsAgent.Safety.Policy

namespace CloudOpsAgent

/-- What pydantic's lax mode makes of a JSON value, `none` for a validation error. -/
class Lax where
  uuid? : Json → Option (BitVec 128)
  int? : Json → Option Int

/-! ## Errors -/

inductive LocalApiErrorCode where
  | badRequest | notFound | methodNotAllowed | payloadTooLarge | unsupportedMediaType | unauthorized
  | policyDenied | conflict | dependencyUnavailable | workflowFailed | internalError
  deriving DecidableEq

def LocalApiErrorCode.value : LocalApiErrorCode → String
  | badRequest => "BAD_REQUEST"
  | notFound => "NOT_FOUND"
  | methodNotAllowed => "METHOD_NOT_ALLOWED"
  | payloadTooLarge => "PAYLOAD_TOO_LARGE"
  | unsupportedMediaType => "UNSUPPORTED_MEDIA_TYPE"
  | unauthorized => "UNAUTHORIZED"
  | policyDenied => "POLICY_DENIED"
  | conflict => "CONFLICT"
  | dependencyUnavailable => "DEPENDENCY_UNAVAILABLE"
  | workflowFailed => "WORKFLOW_FAILED"
  | internalError => "INTERNAL_ERROR"

/-- The bound on `failure_code`. -/
def PublicFailureCode (code : String) : Prop := 1 ≤ code.length ∧ code.length ≤ 128

instance (code : String) : Decidable (PublicFailureCode code) := by
  unfold PublicFailureCode
  infer_instance

/-- Public failure without provider payloads, secrets, or tracebacks. -/
structure LocalApiErrorResponse where
  error : LocalApiErrorCode
  failureKind : Option FailureKind := none
  failureCode : Option String := none
  retryable : Bool := false
  code_ok : ∀ code ∈ failureCode, PublicFailureCode code := by simp

/-- `model_dump(mode="json", exclude_none=True)`. -/
def LocalApiErrorResponse.dump (r : LocalApiErrorResponse) : Json :=
  .obj <| [("ok", .bool false), ("error", .str r.error.value)] ++
    (r.failureKind.map fun kind => ("failure_kind", .str kind.value)).toList ++
    (r.failureCode.map fun code => ("failure_code", .str code)).toList ++
    [("retryable", .bool r.retryable)]

/-! ## Request models -/

/-- The fields of an object that has no others. -/
def fieldsOf? (keys : List String) : Json → Option Json.Mapping
  | .obj fields => if fields.all fun f => f.1 ∈ keys then some fields else none
  | _ => none

/-- The patterns of `validate_identifier_shape`. -/
def CloudResourceType.idPrefix : CloudResourceType → String
  | ec2Instance => "i-"
  | elasticIp => "eipalloc-"
  | securityGroup => "sg-"

/-- `validate_identifier_shape`, and `ShortIdentifier`. -/
def ResourceIdentity (type : CloudResourceType) (id : String) : Bool :=
  let digits := id.toList.drop type.idPrefix.length
  ShortIdentifier id && type.idPrefix.toList.isPrefixOf id.toList &&
    (digits.length == 8 || digits.length == 17) &&
    digits.all fun c => c.isDigit || ('a' ≤ c && c ≤ 'f')

/-- Provider-neutral identity for one exact resource read. -/
structure ResourceQuery where
  resourceType : CloudResourceType
  resourceId : String
  region : String := "eu-central-1"
  identity : ResourceIdentity resourceType resourceId

/-- One exact inventory target. -/
structure LocalStartRunRequest where
  resourceType : CloudResourceType
  resourceId : String
  identity : ResourceIdentity resourceType resourceId

namespace LocalStartRunRequest

def toQuery (r : LocalStartRunRequest) : ResourceQuery where
  resourceType := r.resourceType
  resourceId := r.resourceId
  identity := r.identity

/-- `model_validate`. -/
def read (j : Json) : Option LocalStartRunRequest := do
  let fields ← fieldsOf? ["resource_type", "resource_id"] j
  let value ← (fields.get "resource_type").str?
  let resourceType ← [CloudResourceType.ec2Instance, .elasticIp, .securityGroup].find? (·.value = value)
  let resourceId ← (fields.get "resource_id").str?
  if h : ResourceIdentity resourceType resourceId then return ⟨resourceType, resourceId, h⟩ else none

end LocalStartRunRequest

/-- `_EmptyRequest`. -/
def EmptyRequest.read (j : Json) : Option Unit := (fieldsOf? [] j).map fun _ => ()

/-- `LocalResumeRequest`: an explicit final execution gesture. -/
def LocalResumeRequest.read (j : Json) : Option Unit := do
  let fields ← fieldsOf? ["confirm_execution"] j
  match fields.get "confirm_execution" with
  | .bool true => return ()
  | _ => none

section Lax

variable [Lax]

/-- `Uuid7Identifier`. -/
def Json.uuid7? (j : Json) : Option UUID :=
  (Lax.uuid? j).bind fun n => if UUID.version n = some 7 then some (.ofBits n) else none

def Json.digest? (j : Json) : Option Sha256Digest := j.str?.bind Sha256Digest.ofHex?

/-- `model_validate`. -/
def LocalDecisionRequest.read (j : Json) : Option LocalDecisionRequest := do
  let fields ← fieldsOf? ["request_id", "run_id", "proposal_id", "request_hash", "proposal_hash",
    "evidence_hash", "proposal_version", "decision", "decision_nonce"] j
  let requestId ← (fields.get "request_id").uuid7?
  let runId ← (fields.get "run_id").uuid7?
  let proposalId ← (fields.get "proposal_id").uuid7?
  let requestHash ← (fields.get "request_hash").digest?
  let proposalHash ← (fields.get "proposal_hash").digest?
  let evidenceHash ← (fields.get "evidence_hash").digest?
  let version ← Lax.int? (fields.get "proposal_version")
  let value ← (fields.get "decision").str?
  let decision ← [ApprovalDecision.approved, .denied].find? (·.value = value)
  let nonce ← (fields.get "decision_nonce").str?
  if 0 < version ∧ NonEmptyText nonce ∧ 16 ≤ nonce.length ∧ nonce.length ≤ 256 then
    return ⟨requestId, runId, proposalId, requestHash, proposalHash, evidenceHash, version.toNat,
      decision, nonce⟩
  else none

end Lax

end CloudOpsAgent
