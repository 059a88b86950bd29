/-
  `DynamoDbDurableTruthRepository`: the repository as programs over the requests of one table.

  A method reads the records it needs one by one, checks them, and ends in at most one conditional
  write.  Between any two of its requests other clients may write.

  1. **Keys** — where each kind of record is kept.

  2. **The three requests** — `_put_create`, `_read`, `_update`, with the errors they turn failures into.

  3. **The methods**, each under the source's name; `perform` is the interface as data.
-/
import CloudOpsAgent.Persistence.DynamoTable
import CloudOpsAgent.Persistence.Memory
import CloudOpsAgent.Persistence.Records

namespace CloudOpsAgent

open ClientProg

/-! ## Keys -/

def runKey (runId : UUID) : DynamoKey := ⟨"RUN#" ++ runId.str, "META"⟩
def proposalKey (proposalId : UUID) : DynamoKey := ⟨"PROPOSAL#" ++ proposalId.str, "META"⟩
def approvalDecisionKey (proposalId : UUID) : DynamoKey :=
  ⟨"PROPOSAL#" ++ proposalId.str, "APPROVAL"⟩
def checkpointKey (runId : UUID) : DynamoKey := ⟨"RUN#" ++ runId.str, "CHECKPOINT"⟩
def auditEventKey (runId eventId : UUID) : DynamoKey :=
  ⟨"RUN#" ++ runId.str, "AUDIT#" ++ eventId.str⟩
def verificationEvidenceKey (runId proposalId : UUID) : DynamoKey :=
  ⟨"RUN#" ++ runId.str, "VERIFY#" ++ proposalId.str⟩

/-- `semantic_idempotency_key`: the one key whose text a caller chooses. -/
def semanticIdempotencyKey (value : String) : Except PyExc DynamoKey :=
  DynamoKey.make ("IDEMP#" ++ value) "LOCK"

/-! ## The three requests -/

/-- A method of the repository. -/
abbrev DynamoCall (α : Type) := Prog TableRequest TableRequest.Ans PyExc α

namespace DynamoRepository

def conflict {α : Type} (message : String) : DynamoCall α := .raise (.storageConflict message)
def dependency {α : Type} (message : String) : DynamoCall α := .raise (.storageDependency message)

section Requests

variable {ρ : Type}

/-- `_item`. -/
def itemOf (key : DynamoKey) (entityType : String) (stored : Json) (indexed : List (String × Json)) :
    DynamoItem :=
  DynamoItem.assign (fun _ => none) ([("PK", stringAttribute key.partitionKey),
    ("SK", stringAttribute key.sortKey), ("entity_type", stringAttribute entityType),
    ("record", stored)] ++ indexed)

/-- `attribute_not_exists(PK) AND attribute_not_exists(SK)`. -/
def NOT_EXISTS : List Clause := [.attributeNotExists "PK", .attributeNotExists "SK"]

/-- `_put_create`. -/
def putCreate (key : DynamoKey) (entityType : String) (M : Model ρ) (record : ρ)
    (indexed : List (String × Json)) : DynamoCall Unit :=
  match serializeRecord M record with
  | .error _ => dependency ("unable to create " ++ entityType ++ " record")
  | .ok stored => .call (.putItem key (itemOf key entityType stored indexed) NOT_EXISTS) fun
    | .done => .ret ()
    | .conditionalCheckFailed => conflict (entityType ++ " record already exists")
    | .failed => dependency ("unable to create " ++ entityType ++ " record")

/-- The record in an item that was found. -/
def recordIn [FloatParse] (entityType : String) (M : Model ρ) (item : DynamoItem) :
    DynamoCall (Option ρ) :=
  match item.hasScalar "entity_type" "S" entityType, item "record" with
  | true, some stored => .ofExcept ((deserializeRecord M stored).map some)
  | _, _ => dependency "stored item has an unexpected entity contract"

/-- `_read`. -/
def read [FloatParse] (key : DynamoKey) (entityType : String) (M : Model ρ) : DynamoCall (Option ρ) :=
  .call (.getItem key) fun
    | .failed => dependency ("unable to read " ++ entityType ++ " record")
    | .malformedResponse => dependency "DynamoDB returned a malformed response"
    | .malformedItem => dependency "DynamoDB returned a malformed item"
    | .found none => .ret none
    | .found (some item) => recordIn entityType M item

/-- `_update`. -/
def update (key : DynamoKey) (entityType : String) (M : Model ρ) (record : ρ)
    (condition : List Clause) (indexedUpdates : List (String × Json)) : DynamoCall Unit :=
  .ofExcept (serializeRecord M record) >>= fun stored =>
    .call (.updateItem key (("record", stored) :: indexedUpdates) condition) fun
      | .done => .ret ()
      | .conditionalCheckFailed => conflict (entityType ++ " conditional write failed")
      | .failed => dependency ("unable to update " ++ entityType ++ " record")

/-- `except StorageConflictError`: the handler takes over, anything else goes through. -/
def exceptConflict {α : Type} (body : DynamoCall Unit) (handler rest : DynamoCall α) : DynamoCall α :=
  body.attempt >>= fun
    | .ok () => rest
    | .error e => if e.isConflict then handler else .raise e

end Requests

variable [Sha256] [FloatParse]

/-! ## The methods -/

def getRun (runId : UUID) : DynamoCall (Option Run) := read (runKey runId) "RUN" Run.model

def getProposal (proposalId : UUID) : DynamoCall (Option ActionProposal) :=
  read (proposalKey proposalId) "ACTION_PROPOSAL" ActionProposal.model

def getApproval (proposalId : UUID) : DynamoCall (Option Approval) :=
  read (approvalDecisionKey proposalId) "APPROVAL" Approval.model

def getIdempotency (idempotencyKey : String) : DynamoCall (Option IdempotencyRecord) := do
  let key ← .ofExcept (semanticIdempotencyKey idempotencyKey)
  read key "IDEMPOTENCY" IdempotencyRecord.model

def getCheckpoint (runId : UUID) : DynamoCall (Option Checkpoint) :=
  read (checkpointKey runId) "CHECKPOINT" Checkpoint.model

def getAuditEvent (runId eventId : UUID) : DynamoCall (Option AuditEvent) :=
  read (auditEventKey runId eventId) "AUDIT_EVENT" AuditEvent.model

def getVerificationEvidence (runId proposalId : UUID) :
    DynamoCall (Option VerificationEvidence) :=
  read (verificationEvidenceKey runId proposalId) "VERIFICATION_EVIDENCE" VerificationEvidence.model

def createRun (run : Run) : DynamoCall Run :=
  if run.version ≠ 1 ∨ run.state ≠ .received then
    conflict "new durable run must start at RECEIVED version 1"
  else do
    let version ← .ofExcept (numberAttribute run.version)
    putCreate (runKey run.runId) "RUN" Run.model run
      [("state", stringAttribute run.state.value), ("version", version)]
    return run

/-- The checks before `APPROVED` and `DENIED_BY_HUMAN`. -/
def decisionCheck (runId : UUID) (next : WorkflowState) (approvalProposalId : Option UUID) :
    DynamoCall Unit :=
  if next = .approved ∨ next = .deniedByHuman then
    match approvalProposalId with
    | none => conflict "decision transition requires a durable proposal decision"
    | some proposalId => do
      let proposal ← getProposal proposalId
      let approval ← getApproval proposalId
      let expected : ApprovalDecision := if next = .approved then .approved else .denied
      if proposal.any (fun p => p.runId == runId && p.state == .awaitingApproval) &&
          approval.any (·.decision == expected) then
        return ()
      else conflict "decision transition requires matching durable human decision"
  else return ()

/-- The idempotency record of a proposal, if there is a proposal. -/
def proposalIdempotency (proposal : Option ActionProposal) :
    DynamoCall (Option IdempotencyRecord) :=
  match proposal with
  | some p => getIdempotency (deriveIdempotencyKey p)
  | none => return none

/-- The proof before `SUCCESS_WITH_EVIDENCE` is complete: `observed_state` can only be `STOPPED`. -/
def proofComplete (runId : UUID) (evidence : VerificationEvidence)
    (idempotency : IdempotencyRecord) : Bool :=
  evidence.runId == runId && idempotency.status == .completed &&
    idempotency.actionResult.any fun result => result.evidenceHash == some evidence.evidenceHash

/-- The checks before `SUCCESS_WITH_EVIDENCE`. -/
def successCheck (runId : UUID) (next : WorkflowState) (verificationProposalId : Option UUID) :
    DynamoCall Unit :=
  if next = .successWithEvidence then
    match verificationProposalId with
    | none => conflict "SUCCESS_WITH_EVIDENCE requires durable verification"
    | some proposalId => do
      let proposal ← getProposal proposalId
      let evidence ← getVerificationEvidence runId proposalId
      let idempotency ← proposalIdempotency proposal
      match proposal, evidence, idempotency with
      | some _, some e, some r =>
        if proofComplete runId e r then return ()
        else conflict "SUCCESS_WITH_EVIDENCE proof is incomplete"
      | _, _, _ => conflict "SUCCESS_WITH_EVIDENCE proof is incomplete"
  else return ()

/-- The write of `transition_run` and `update_run_budget`. -/
def replaceRun (current updated : Run) (indexed : List (String × Json)) : DynamoCall Run := do
  let expectedVersion ← .ofExcept (Dynamo.intText current.version)
  let version ← .ofExcept (numberAttribute updated.version)
  update (runKey current.runId) "RUN" Run.model updated
    [.equals "state" "S" current.state.value, .equals "version" "N" expectedVersion]
    (indexed ++ [("version", version)])
  return updated

def transitionRun (runId : UUID) (next expectedState : WorkflowState) (expectedVersion : Nat)
    (updatedAt : Time) (approvalProposalId verificationProposalId : Option UUID) :
    DynamoCall Run := do
  match ← getRun runId with
  | none => conflict "durable run does not exist"
  | some current =>
    if current.state ≠ expectedState ∨ current.version ≠ expectedVersion then
      conflict "durable run state or version no longer matches"
    else
      decisionCheck runId next approvalProposalId
      successCheck runId next verificationProposalId
      let updated ← .ofExcept (CloudOpsAgent.transitionRun current next updatedAt)
      replaceRun current updated [("state", stringAttribute updated.state.value)]

def createProposal (proposal : ActionProposal) : DynamoCall ActionProposal :=
  if proposal.state ≠ .proposed then
    conflict "new durable proposal must start at PROPOSED"
  else do
    putCreate (proposalKey proposal.proposalId) "ACTION_PROPOSAL" ActionProposal.model proposal
      [("state", stringAttribute proposal.state.value)]
    return proposal

omit [Sha256] [FloatParse] in
theorem budget_time_order {current : Run} {budget : BudgetCounters} {updatedAt : Time}
    (h : Store.budgetMonotonic current budget ∧ current.updatedAt ≤ updatedAt) :
    current.createdAt ≤ updatedAt := current.time_order.trans h.2

def updateRunBudget (runId : UUID) (budget : BudgetCounters) (expectedVersion : Nat)
    (updatedAt : Time) : DynamoCall Run :=
  if expectedVersion = 0 then .raise (.typeError "expected_version must be a positive integer")
  else do
    match ← getRun runId with
    | none => conflict "durable run budget version no longer matches"
    | some current =>
      if current.version ≠ expectedVersion then
        conflict "durable run budget version no longer matches"
      else if h : Store.budgetMonotonic current budget ∧ current.updatedAt ≤ updatedAt then
        replaceRun current { current with
          budget := budget
          updatedAt := updatedAt
          version := current.version + 1
          version_pos := current.next_version_pos
          time_order := budget_time_order h } []
      else conflict "durable run budget update is not monotonic"

def transitionProposal (proposalId : UUID) (next expectedState : ProposalState) :
    DynamoCall ActionProposal := do
  match ← getProposal proposalId with
  | none => conflict "durable proposal state no longer matches"
  | some current =>
    if current.state ≠ expectedState then conflict "durable proposal state no longer matches"
    else
      let updated ← .ofExcept (transitionedProposal current next)
      update (proposalKey proposalId) "ACTION_PROPOSAL" ActionProposal.model updated
        [.equals "state" "S" expectedState.value]
        [("state", stringAttribute updated.state.value)]
      return updated

def createApproval (approval : Approval) : DynamoCall Approval := do
  match ← getProposal approval.proposalId with
  | none => conflict "human decision requires an awaiting durable proposal"
  | some proposal =>
    if proposal.state ≠ .awaitingApproval then
      conflict "human decision requires an awaiting durable proposal"
    else
      .ofExcept (validateApprovalBinding proposal approval)
      exceptConflict
        (putCreate (approvalDecisionKey approval.proposalId) "APPROVAL" Approval.model approval
          [("decision", stringAttribute approval.decision.value)])
        (do
          let existing ← getApproval approval.proposalId
          if existing = some approval then return approval
          else conflict "conflicting human decision already exists")
        (return approval)

/-- `incompatible ownership`, or the record that is there. -/
def ownedBy (record existing : IdempotencyRecord) : DynamoCall IdempotencyRecord :=
  if existing.proposalId ≠ record.proposalId ∨
      existing.actionFingerprint ≠ record.actionFingerprint then
    conflict "idempotency key has incompatible ownership"
  else return existing

def registerIdempotency (record : IdempotencyRecord) : DynamoCall IdempotencyRecord := do
  let key ← .ofExcept (semanticIdempotencyKey record.idempotencyKey)
  match ← getIdempotency record.idempotencyKey with
  | some existing => ownedBy record existing
  | none =>
    match ← getProposal record.proposalId with
    | none => conflict "idempotency registration lacks a matching proposal"
    | some proposal =>
      if proposal.state ≠ .awaitingApproval ∨
          record.actionFingerprint ≠ deriveActionFingerprint proposal ∨
          record.idempotencyKey ≠ deriveIdempotencyKey proposal then
        conflict "idempotency registration lacks a matching proposal"
      else
        let approval ← getApproval record.proposalId
        let run ← getRun proposal.runId
        if !approval.any (·.decision == .approved) then
          conflict "idempotency registration requires human approval"
        else if !run.any (·.state == .approved) then
          conflict "idempotency registration requires an approved run"
        else
          exceptConflict
            (putCreate key "IDEMPOTENCY" IdempotencyRecord.model record
              [("status", stringAttribute record.status.value),
                ("action_fingerprint", stringAttribute record.actionFingerprint.hex)])
            (do
              match ← getIdempotency record.idempotencyKey with
              | none => conflict "idempotency ownership could not be reconciled"
              | some existing => ownedBy record existing)
            (return record)

/-- The record whose status is the expected one. -/
def expectedIdempotency (idempotencyKey : String) (expectedStatus : IdempotencyStatus) :
    DynamoCall IdempotencyRecord := do
  match ← getIdempotency idempotencyKey with
  | none => conflict "idempotency status no longer matches"
  | some current =>
    if current.status ≠ expectedStatus then conflict "idempotency status no longer matches"
    else return current

/-- The condition of both updates of an idempotency record. -/
def ownerClauses (current : IdempotencyRecord) : List Clause :=
  [.equals "status" "S" current.status.value,
    .equals "action_fingerprint" "S" current.actionFingerprint.hex]

def completeIdempotency (idempotencyKey : String) (result : ActionResult) (completedAt : Time)
    (expectedStatus : IdempotencyStatus) : DynamoCall IdempotencyRecord := do
  let current ← expectedIdempotency idempotencyKey expectedStatus
  let updated ← .ofExcept (current.complete result completedAt)
  let key ← .ofExcept (semanticIdempotencyKey idempotencyKey)
  update key "IDEMPOTENCY" IdempotencyRecord.model updated (ownerClauses current)
    [("status", stringAttribute updated.status.value)]
  return updated

def recordExecutionAcknowledgement (idempotencyKey : String)
    (acknowledgement : ExecutionAcknowledgement) (expectedStatus : IdempotencyStatus) :
    DynamoCall IdempotencyRecord := do
  let current ← expectedIdempotency idempotencyKey expectedStatus
  match current.executionAcknowledgement with
  | some recorded =>
    if recorded = acknowledgement then return current
    else conflict "conflicting execution acknowledgement exists"
  | none =>
    if acknowledgement.proposalId ≠ current.proposalId then
      conflict "execution acknowledgement ownership is invalid"
    else
      let updated := { current with executionAcknowledgement := some acknowledgement }
      exceptConflict
        (do
          let key ← .ofExcept (semanticIdempotencyKey idempotencyKey)
          update key "IDEMPOTENCY" IdempotencyRecord.model updated
            (ownerClauses current ++ [.attributeNotExists "acknowledgement_hash"])
            [("acknowledgement_hash", stringAttribute acknowledgement.acknowledgementHash.hex)])
        (do
          match ← getIdempotency idempotencyKey with
          | none => conflict "conflicting execution acknowledgement exists"
          | some raced =>
            if raced.executionAcknowledgement = some acknowledgement then return raced
            else conflict "conflicting execution acknowledgement exists")
        (return updated)

def saveCheckpoint (checkpoint : Checkpoint) (expectedVersion : Option Nat) :
    DynamoCall Checkpoint :=
  match expectedVersion with
  | none =>
    if checkpoint.version ≠ 1 then conflict "new checkpoint must start at version 1"
    else do
      let version ← .ofExcept (numberAttribute checkpoint.version)
      putCreate (checkpointKey checkpoint.runId) "CHECKPOINT" Checkpoint.model checkpoint
        [("version", version)]
      return checkpoint
  | some expected => do
    match ← getCheckpoint checkpoint.runId with
    | none => conflict "checkpoint version no longer matches"
    | some current =>
      if current.version ≠ expected ∨ checkpoint.version ≠ expected + 1 then
        conflict "checkpoint version no longer matches"
      else
        let expectedText ← .ofExcept (Dynamo.intText expected)
        let version ← .ofExcept (numberAttribute checkpoint.version)
        update (checkpointKey checkpoint.runId) "CHECKPOINT" Checkpoint.model checkpoint
          [.equals "version" "N" expectedText] [("version", version)]
        return checkpoint

def appendAuditEvent (event : AuditEvent) : DynamoCall AuditEvent := do
  putCreate (auditEventKey event.runId event.eventId) "AUDIT_EVENT" AuditEvent.model event []
  return event

/-- The evidence matches its proposal, a verifying run and the idempotency record. -/
def evidenceMatches (e : VerificationEvidence) (p : ActionProposal) (run : Run)
    (r : IdempotencyRecord) (approval : Option Approval) : Bool :=
  run.state == .verifying && p.runId == e.runId && p.target == e.target &&
    run.traceId == e.traceId && run.correlationId == e.correlationId &&
    (Store.acknowledgementMatches e r ||
      (e.proof.origin == .recoveryReadBack && r.status == .registered &&
        r.executionAcknowledgement.isNone &&
        approval.any fun a => a.decision == .approved && a.runId == e.runId && a.target == e.target))

def createVerificationEvidence (evidence : VerificationEvidence) :
    DynamoCall VerificationEvidence := do
  let proposal ← getProposal evidence.proposalId
  let run ← getRun evidence.runId
  let idempotency ← proposalIdempotency proposal
  let approval ← getApproval evidence.proposalId
  match proposal, run, idempotency with
  | some p, some r, some i =>
    if !evidenceMatches evidence p r i approval then
      conflict "verification evidence does not match the proposal"
    else
      exceptConflict
        (putCreate (verificationEvidenceKey evidence.runId evidence.proposalId)
          "VERIFICATION_EVIDENCE" VerificationEvidence.model evidence
          [("evidence_hash", stringAttribute evidence.evidenceHash.hex)])
        (do
          let existing ← getVerificationEvidence evidence.runId evidence.proposalId
          if existing = some evidence then return evidence
          else conflict "conflicting verification evidence already exists")
        (return evidence)
  | _, _, _ => conflict "verification evidence does not match the proposal"

/-- The repository's method for each call. -/
def perform : (op : Op) → DynamoCall op.Result
  | .createRun run => createRun run
  | .getRun runId => getRun runId
  | .transitionRun runId next expectedState expectedVersion updatedAt approvalId verificationId =>
    transitionRun runId next expectedState expectedVersion updatedAt approvalId verificationId
  | .updateRunBudget runId budget expectedVersion updatedAt =>
    updateRunBudget runId budget expectedVersion updatedAt
  | .createProposal proposal => createProposal proposal
  | .getProposal proposalId => getProposal proposalId
  | .transitionProposal proposalId next expectedState =>
    transitionProposal proposalId next expectedState
  | .createApproval approval => createApproval approval
  | .getApproval proposalId => getApproval proposalId
  | .registerIdempotency record => registerIdempotency record
  | .getIdempotency key => getIdempotency key
  | .completeIdempotency key result completedAt expectedStatus =>
    completeIdempotency key result completedAt expectedStatus
  | .recordExecutionAcknowledgement key acknowledgement expectedStatus =>
    recordExecutionAcknowledgement key acknowledgement expectedStatus
  | .saveCheckpoint checkpoint expectedVersion => saveCheckpoint checkpoint expectedVersion
  | .getCheckpoint runId => getCheckpoint runId
  | .appendAuditEvent event => appendAuditEvent event
  | .getAuditEvent runId eventId => getAuditEvent runId eventId
  | .createVerificationEvidence evidence => createVerificationEvidence evidence
  | .getVerificationEvidence runId proposalId => getVerificationEvidence runId proposalId

end DynamoRepository

end CloudOpsAgent
