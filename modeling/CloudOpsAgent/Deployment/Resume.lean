/-
  `AuthenticatedApprovalResumeService`: a one-time challenge in front of `DurableApprovalFlow.resume`.

  `issue` writes the digests of a fresh challenge and of its principal into the checkpoint of the
  awaiting run; `resume` checks them, marks the challenge consumed, and hands a typed response to
  the approval flow.  Both writes are guarded by the checkpoint version only.
-/
import CloudOpsAgent.Agent.ApprovalFlow
import CloudOpsAgent.Agent.LocalHitl
import CloudOpsAgent.Deployment.Auth
import CloudOpsAgent.Nz.Isoformat

namespace CloudOpsAgent

/-- One-time server-issued value. -/
structure IssuedResumeChallenge where
  value : String
  expiresAt : Time

/-- What the service is constructed with, its flow, repository and factories aside. -/
structure ResumeServiceConfig where
  challengeTtlSeconds : Nat := 300
  ttl_ok : 30 ≤ challengeTtlSeconds ∧ challengeTtlSeconds ≤ 600

namespace AuthenticatedApprovalResumeService

variable [Sha256]

def CHALLENGE_DIGEST_KEY : String := "judge_freshness_digest"
def PRINCIPAL_DIGEST_KEY : String := "judge_principal_digest"
def EXPIRES_AT_KEY : String := "judge_freshness_expires_at"
def CONSUMED_KEY : String := "judge_freshness_consumed"

/-- `_digest`. -/
def digest (value : String) : String := (Sha256.hexdigest value).hex

/-! ## Issuing -/

/-- The checkpoint holds the interrupt of a run that awaits approval. -/
def challengeReady (interrupt : ApprovalInterrupt) (checkpoint : Checkpoint) : Bool :=
  checkpoint.lastSafeState == .awaitingApproval &&
    (checkpoint.resumeMetadata.lookup "approval_interrupt_id").bind Json.str? ==
      some interrupt.interruptId &&
    (checkpoint.resumeMetadata.lookup "approval_request_hash").bind Json.str? ==
      some interrupt.requestHash.hex

/-- The next checkpoint, with a challenge. -/
def challenged (checkpoint : Checkpoint) (principal : AuthenticatedJudgePrincipal) (value : String)
    (now expiresAt : Time) : CheckpointFields where
  runId := checkpoint.runId
  lastSafeState := checkpoint.lastSafeState
  resumeMetadata := (((checkpoint.resumeMetadata.insert CHALLENGE_DIGEST_KEY
    (.str (digest value))).insert PRINCIPAL_DIGEST_KEY (.str (digest principal.subject))).insert
    EXPIRES_AT_KEY (.str (Time.isoformat expiresAt))).insert CONSUMED_KEY (.bool false)
  toolResultHashes := checkpoint.toolResultHashes
  createdAt := now
  version := checkpoint.version + 1

/-- `issue`: persist only digests of a server-issued principal-bound challenge. -/
def issue (cfg : ResumeServiceConfig) (interrupt : ApprovalInterrupt)
    (principal : AuthenticatedJudgePrincipal) : Flow IssuedResumeChallenge := do
  let some checkpoint ← Flow.op (.getCheckpoint interrupt.payload.runId)
    | .raise (.storageConflict "durable approval interrupt is not challenge-ready")
  if !challengeReady interrupt checkpoint then
    .raise (.storageConflict "durable approval interrupt is not challenge-ready")
  else
    let value ← Flow.nonce
    if value.length < 32 ∨ !isStripped value then
      .raise (.valueError "challenge_factory returned an invalid value")
    else
      let now ← Flow.clock
      let expiresAt := now + seconds cfg.challengeTtlSeconds
      if Time.datetimeMax < expiresAt then .raise (.other "date value out of range")
      else
        let updated ← .ofExcept (Checkpoint.validate (challenged checkpoint principal value now
          expiresAt))
        let _ ← Flow.op (.saveCheckpoint updated (some checkpoint.version))
        return ⟨value, expiresAt⟩

/-! ## Resuming -/

/-- The stored challenge is unconsumed, and is the one presented by its principal. -/
def challengeMatches (checkpoint : Checkpoint) (principal : AuthenticatedJudgePrincipal)
    (challenge : String) : Bool :=
  (checkpoint.resumeMetadata.lookup CONSUMED_KEY).bind Json.bool? == some false &&
    (checkpoint.resumeMetadata.lookup CHALLENGE_DIGEST_KEY).bind Json.str? ==
      some (digest challenge) &&
    (checkpoint.resumeMetadata.lookup PRINCIPAL_DIGEST_KEY).bind Json.str? ==
      some (digest principal.subject)

/-- When the stored challenge expires; `none` for text that is no instant. -/
def expiry (checkpoint : Checkpoint) : Option Time :=
  ((checkpoint.resumeMetadata.lookup EXPIRES_AT_KEY).bind Json.str?).bind Time.fromisoformat

/-- The next checkpoint, its challenge consumed. -/
def consumed (checkpoint : Checkpoint) (consumedAt : Time) : CheckpointFields where
  runId := checkpoint.runId
  lastSafeState := checkpoint.lastSafeState
  resumeMetadata := checkpoint.resumeMetadata.insert CONSUMED_KEY (.bool true)
  toolResultHashes := checkpoint.toolResultHashes
  createdAt := consumedAt
  version := checkpoint.version + 1

/-- The response that is handed to the approval flow. -/
def responseOf (interrupt : ApprovalInterrupt) (decision : ApprovalDecision)
    (principal : AuthenticatedJudgePrincipal) (challenge : String) : ApprovalResumeRequest where
  interruptId := interrupt.interruptId
  proposalId := interrupt.payload.proposalId
  runId := interrupt.payload.runId
  action := interrupt.payload.action
  target := interrupt.payload.target
  evidenceHash := interrupt.payload.evidenceHash
  requestHash := interrupt.requestHash
  decision := decision
  actorSessionId := "judge:" ++ String.ofList ((digest principal.subject).toList.take 32)
  decisionNonce := "freshness:" ++ digest challenge

/-- `resume` up to the hand-over: consume the challenge. -/
def consume (interrupt : ApprovalInterrupt) (principal : AuthenticatedJudgePrincipal)
    (challenge : String) : Flow Unit := do
  let some checkpoint ← Flow.op (.getCheckpoint interrupt.payload.runId)
    | .raise (.storageConflict "durable resume challenge is unavailable")
  let some expiresAt := expiry checkpoint
    | .raise (.storageConflict "durable resume challenge is invalid")
  if !challengeMatches checkpoint principal challenge then
    .raise (.storageConflict "durable resume challenge was rejected")
  else
    let now ← Flow.clock
    if expiresAt ≤ now then .raise (.storageConflict "durable resume challenge was rejected")
    else
      -- a second reading of the clock: this one is not compared with the expiry
      let consumedAt ← Flow.clock
      let next ← .ofExcept (Checkpoint.validate (consumed checkpoint consumedAt))
      let _ ← Flow.op (.saveCheckpoint next (some checkpoint.version))
      return

/-- `resume`: atomically consume freshness, then resume the exact durable interrupt. -/
def resume (runtime : PrimaryAgentRuntime) (interrupt : ApprovalInterrupt)
    (decision : ApprovalDecision) (principal : AuthenticatedJudgePrincipal) (challenge : String) :
    Flow (ControlResult ApprovalResolution) := do
  consume interrupt principal challenge
  DurableApprovalFlow.resume runtime (responseOf interrupt decision principal challenge)

end AuthenticatedApprovalResumeService

end CloudOpsAgent
