/-
  `DefaultDenyToolPolicy`: what a tool request may do before it is dispatched.

  1. **Program** — `evaluate` looks a tool name up, checks the shape of the input, and for the two
     tools that act on a proposal reads the proposal, the gate's run and the approval from the
     repository.  Every way out is a `PolicyDecision`, built by a constructor that validates.

  2. **Specification** — `AwaitsConfirmation` and `StopApproved`: what has to be stored for a stop
     request to be put to a human, and to be let through.  They mention no code of the gate.

  3. **The crux (`evaluate_exact`)** — the gate never raises, whatever is stored and whichever read
     fails; on a stop request it says exactly what the specification says; and where it lets one
     through, the prerequisites of the execution coordinator hold of the same repository.  The two
     checks reach the run by different ways: the gate takes its own and compares, the coordinator
     follows the proposal to it.  What makes them agree is that records are filed under their
     own keys.
-/
import CloudOpsAgent.Nz.Identifiers
import CloudOpsAgent.Verification.Coordinator

namespace CloudOpsAgent

open PyText ClientProg ClientProg.Prog

/-! ## Decisions -/

/-- `ShortIdentifier`. -/
def ShortIdentifier (s : String) : Bool :=
  1 ≤ s.length && s.length ≤ 256 && s.toList.head?.any Char.isAlphanum &&
    s.toList.all fun c => c.isAlphanum || c ∈ ['.', '_', ':', '#', '/', '-']

/-- `FailureDetail(...)`, which validates its texts. -/
def FailureDetail.create (kind : FailureKind) (code message : String) (retryable : Bool) :
    Except PyExc FailureDetail :=
  if ShortIdentifier code && NonEmptyText message then .ok ⟨kind, code, message, retryable⟩
  else .error (.valueError "FailureDetail")

/-- Whether a pre-dispatch request may proceed, interrupt, or must stop. -/
inductive PolicyDisposition where
  | allow | requireConfirmation | deny
  deriving DecidableEq, Repr

/-- `validate_decision`: a denial says why and where the run ends, nothing else does. -/
def DecisionShape (disposition : PolicyDisposition) (terminalState : Option WorkflowState)
    (failure : Option FailureDetail) : Prop :=
  if disposition = .deny then failure.isSome ∧ terminalState.isSome
  else failure = none ∧ terminalState = none

instance (d : PolicyDisposition) (t : Option WorkflowState) (f : Option FailureDetail) :
    Decidable (DecisionShape d t f) := by
  unfold DecisionShape
  infer_instance

theorem DecisionShape.of_ne_deny {disposition : PolicyDisposition} (h : disposition ≠ .deny) :
    DecisionShape disposition none none := by
  rw [DecisionShape, if_neg h]
  exact ⟨rfl, rfl⟩

structure PolicyDecision where
  disposition : PolicyDisposition
  capability : Option Capability := none
  authority : Option AuthorityGate := none
  terminalState : Option WorkflowState := none
  failure : Option FailureDetail := none
  shape : DecisionShape disposition terminalState failure
  deriving DecidableEq

/-- `PolicyDecision(...)`, which validates. -/
def PolicyDecision.create (disposition : PolicyDisposition) (capability : Option Capability)
    (authority : Option AuthorityGate) (terminalState : Option WorkflowState := none)
    (failure : Option FailureDetail := none) : Except PyExc PolicyDecision :=
  if h : DecisionShape disposition terminalState failure then
    .ok ⟨disposition, capability, authority, terminalState, failure, h⟩
  else if disposition = .deny then
    .error (.valueError "denied policy decision requires typed failure and state")
  else .error (.valueError "allowed policy decision cannot contain a failure state")

theorem PolicyDecision.create_ok {disposition : PolicyDisposition}
    (capability : Option Capability) (authority : Option AuthorityGate)
    {terminalState : Option WorkflowState} {failure : Option FailureDetail}
    (h : DecisionShape disposition terminalState failure) :
    create disposition capability authority terminalState failure =
      .ok ⟨disposition, capability, authority, terminalState, failure, h⟩ := dif_pos h

/-! ## Tools and their input -/

/-- `_TOOL_CAPABILITY`. -/
def TOOL_CAPABILITY : List (String × Capability) :=
  [(Capability.inspectInstance.value, .inspectInstance),
    (Capability.readUtilizationMetrics.value, .readUtilizationMetrics),
    (Capability.buildRemediationEvidence.value, .buildRemediationEvidence),
    (Capability.stopSandboxInstance.value, .stopSandboxInstance),
    (Capability.verifyInstanceState.value, .verifyInstanceState)]

/-- `_STRUCTURALLY_DENIED_TOOL`. -/
def STRUCTURALLY_DENIED_TOOL : List (String × Capability) :=
  [("CreateTags", .createTags), ("DeleteTags", .deleteTags),
    ("ModifyInstanceAttribute", .modifyInstanceAttribute), ("RebootInstances", .rebootInstances),
    ("SendCommand", .ssmCommandExecution), ("StartInstances", .startInstances),
    ("TerminateInstances", .terminateInstances), ("create_tags", .createTags),
    ("credentials", .credentialAccess), ("delete_tags", .deleteTags),
    ("fetch_url", .arbitraryUrlFetch), ("filesystem", .filesystemAccess),
    ("iam_mutation", .iamMutation), ("modify_instance_attribute", .modifyInstanceAttribute),
    ("python", .arbitraryCodeExecution), ("reboot_instances", .rebootInstances),
    ("shell", .shellExecution), ("ssm_send_command", .ssmCommandExecution),
    ("start_instances", .startInstances), ("terminate_instances", .terminateInstances)]

/-- `_INSTANCE_TOOLS`. -/
def INSTANCE_TOOLS : List Capability :=
  [.inspectInstance, .readUtilizationMetrics, .buildRemediationEvidence]

/-- The one field a tool takes. -/
def expectedKey (capability : Capability) : String :=
  if capability ∈ INSTANCE_TOOLS then "instance_id" else "proposal_id"

/-- `table.get(name) if isinstance(name, str) else None`. -/
def lookupTool (table : List (String × Capability)) (name : PyObject) : Option Capability :=
  (table.find? fun entry => PyObject.str (ofString entry.1) = name).map Prod.snd

/-- A dictionary from outside: any hashable keys, no key twice. -/
structure PyDict where
  entries : List (PyObject × PyObject)
  nodup : (entries.map Prod.fst).Nodup

namespace PyDict

def get (d : PyDict) (key : String) : Option PyObject := d.entries.lookup (.str (ofString key))

/-- `set(d) == {key}`. -/
def keysAre (d : PyDict) (key : String) : Bool :=
  (d.entries.map Prod.fst).all (· = .str (ofString key)) && (d.get key).isSome

theorem keysAre_iff (d : PyDict) (key : String) :
    d.keysAre key = true ↔ ∃ value, d.entries = [(.str (ofString key), value)] := by
  obtain ⟨entries, nodup⟩ := d
  simp only [keysAre, get, Bool.and_eq_true, List.all_eq_true, decide_eq_true_eq]
  constructor
  · rintro ⟨hall, hsome⟩
    rcases entries with _ | ⟨⟨first, value⟩, _ | ⟨second, rest⟩⟩
    · simp at hsome
    · exact ⟨value, by rw [hall first (by simp)]⟩
    · have h₁ := hall first (by simp)
      have h₂ := hall second.1 (by simp)
      rw [List.map_cons, List.map_cons, List.nodup_cons] at nodup
      exact absurd (by simp [h₁, h₂]) nodup.1
  · rintro ⟨value, rfl⟩
    simp

theorem get_of_entries {d : PyDict} {key : String} {value : PyObject}
    (h : d.entries = [(.str (ofString key), value)]) : d.get key = some value := by
  rw [get, h]
  simp

end PyDict

inductive ToolInput where
  | dict (fields : PyDict)
  | other

/-- The input is the one field `proposal_id`, with a value that is accepted as `id`. -/
def ToolInput.NamesProposal (input : ToolInput) (id : UUID) : Prop :=
  ∃ fields value, input = .dict fields ∧
    fields.entries = [(.str (ofString "proposal_id"), value)] ∧ validateCorrelationId value = .ok id

/-! ## The gate -/

/-- The gate of one run; `repository` says whether it was given one. -/
structure DefaultDenyToolPolicy where
  identity : InvestigationIdentity
  target : SandboxTarget
  repository : Bool

structure DurableContext where
  proposal : ActionProposal
  run : Run
  approval : Option Approval

namespace DefaultDenyToolPolicy

/-- The terminal state of each kind the gate denies with; no other kind is a key. -/
def denialState : FailureKind → Option WorkflowState
  | .policyDenial => some .deniedByPolicy
  | .validationFailure => some .modelOutputInvalid
  | .dependencyUnavailable => some .dependencyUnavailable
  | _ => none

/-- The authority a denial reports. -/
def denialAuthority (capability : Option Capability) : AuthorityGate :=
  if capability ∈ (INSTANCE_TOOLS ++ [Capability.verifyInstanceState]).map some then .auto
  else if capability = some .stopSandboxInstance then .planAndConfirm
  else .neverAutonomous

/-- `_deny`. -/
def deny (capability : Option Capability) (kind : FailureKind) (code message : String) :
    Except PyExc PolicyDecision :=
  match denialState kind with
  | none => .error (.other "KeyError")
  | some state => do
    let failure ← FailureDetail.create kind code message (kind = .dependencyUnavailable)
    PolicyDecision.create .deny capability (some (denialAuthority capability)) (some state)
      (some failure)

/-- `_schema_denial`. -/
def schemaDenial (capability : Capability) (message : String) : Except PyExc PolicyDecision :=
  deny (some capability) .validationFailure "TOOL_SCHEMA_INVALID" message

/-- What a stop request in a context deserves. -/
def stopDecision (context : DurableContext) : Except PyExc PolicyDecision :=
  if context.proposal.state = .awaitingApproval ∧ context.run.state = .awaitingApproval ∧
      context.approval = none then
    PolicyDecision.create .requireConfirmation (some .stopSandboxInstance) (some .planAndConfirm)
  else if context.proposal.state = .awaitingApproval ∧ context.run.state = .approved ∧
      context.approval.any fun a => a.decision = .approved then
    PolicyDecision.create .allow (some .stopSandboxInstance) (some .planAndConfirm)
  else
    deny (some .stopSandboxInstance) .policyDenial "STOP_PREREQUISITES_DENIED"
      "Stop requires the exact awaiting confirmation or durable approved context"

/-- What a verification request in a context deserves. -/
def verificationDecision (context : DurableContext) : Except PyExc PolicyDecision :=
  if context.run.state ∉ [.verifying, .recoveryRequired, .successWithEvidence] ∨
      ¬context.approval.any fun a => a.decision = .approved then
    deny (some .verifyInstanceState) .policyDenial "VERIFICATION_CONTEXT_DENIED"
      "Verification requires the approved durable target in a verification state"
  else PolicyDecision.create .allow (some .verifyInstanceState) (some .auto)

variable (policy : DefaultDenyToolPolicy)

/-- `_evaluate_instance_read`. -/
def evaluateInstanceRead (capability : Capability) (instanceId : PyObject) :
    Except PyExc PolicyDecision :=
  match instanceId with
  | .str text =>
    if text ≠ ofString policy.target.instanceId then
      deny (some capability) .policyDenial "SANDBOX_SCOPE_DENIED"
        "Read target is outside the configured sandbox scope"
    else PolicyDecision.create .allow (some capability) (some .auto)
  | _ => schemaDenial capability "instance_id must be a string"

/-- The proposal and the run are those of this gate. -/
def Matches (proposal : ActionProposal) (run : Run) : Prop :=
  proposal.runId = policy.identity.runId ∧ run.runId = policy.identity.runId ∧
    run.traceId = policy.identity.traceId ∧ run.correlationId = policy.identity.correlationId ∧
    proposal.action = .stopSandboxInstance ∧
    proposal.target.resourceId = policy.target.instanceId ∧
    proposal.target.region = policy.target.region ∧
    proposal.target.requiredTagKey = policy.target.requiredTagKey ∧
    proposal.target.requiredTagValue = policy.target.requiredTagValue ∧
    proposal.authority = .planAndConfirm ∧
    proposal.evidenceHash = proposal.expectedPrecondition.evidenceHash

instance (proposal : ActionProposal) (run : Run) : Decidable (policy.Matches proposal run) :=
  inferInstanceAs (Decidable (_ ∧ _))

variable [Sha256]

/-- A denial in place of an answer: an early decision is an `error`. -/
def denied {α : Type} (capability : Capability) (kind : FailureKind) (code message : String) :
    Flow (Except PolicyDecision α) := do
  let decision ← .ofExcept (deny (some capability) kind code message)
  return .error decision

/-- The checks of `_durable_context` on what was read. -/
def checkRecords (capability : Capability) (proposal : Option ActionProposal) (run : Option Run)
    (approval : Option Approval) : Flow (Except PolicyDecision DurableContext) :=
  match proposal, run with
  | some proposal, some run =>
    if ¬policy.Matches proposal run then
      denied capability .policyDenial "CROSS_CONTEXT_DENIED"
        "Durable proposal does not match this run, action, evidence, or sandbox"
    else if approval.any fun a => ¬a.Binds proposal then
      denied capability .policyDenial "APPROVAL_BINDING_DENIED"
        "Durable approval binding is stale or belongs to another context"
    else return .ok ⟨proposal, run, approval⟩
  | _, _ =>
    denied capability .policyDenial "DURABLE_REFERENCE_DENIED"
      "Tool request lacks a matching durable run and proposal"

/-- `_durable_context`. -/
def durableContext (capability : Capability) (proposalId : UUID) :
    Flow (Except PolicyDecision DurableContext) :=
  if !policy.repository then
    denied capability .policyDenial "DURABLE_AUTHORITY_ABSENT"
      "Durable proposal authority is unavailable"
  else
    let reads : Flow (Option ActionProposal × Option Run × Option Approval) := do
      let proposal ← Flow.op (.getProposal proposalId)
      let run ← Flow.op (.getRun policy.identity.runId)
      let approval ← Flow.op (.getApproval proposalId)
      return (proposal, run, approval)
    Flow.tryExcept reads
      (fun _ => some <| denied capability .dependencyUnavailable "DURABLE_POLICY_UNAVAILABLE"
        "Durable policy prerequisites are unavailable")
      fun (proposal, run, approval) => policy.checkRecords capability proposal run approval

/-- `_evaluate_stop`. -/
def evaluateStop (proposalId : UUID) : Flow PolicyDecision := do
  match ← policy.durableContext .stopSandboxInstance proposalId with
  | .error decision => return decision
  | .ok context => .ofExcept (stopDecision context)

/-- `_evaluate_verification`. -/
def evaluateVerification (proposalId : UUID) : Flow PolicyDecision := do
  match ← policy.durableContext .verifyInstanceState proposalId with
  | .error decision => return decision
  | .ok context => .ofExcept (verificationDecision context)

/-- `evaluate` for a tool of the surface: the shape of the input, then the tool's own check. -/
def evaluateTool (capability : Capability) (toolInput : ToolInput) : Flow PolicyDecision :=
  match toolInput with
  | .other => .ofExcept <| schemaDenial capability "Tool input must be an exact object"
  | .dict fields =>
    if !fields.keysAre (expectedKey capability) then
      if (fields.get (expectedKey capability)).isNone then
        .ofExcept <| schemaDenial capability "Required tool identifier is missing"
      else
        .ofExcept <| deny (some capability) .policyDenial "PRIVILEGED_FIELD_DENIED"
          "Extra or confused tool fields are denied before dispatch"
    else
      match fields.get (expectedKey capability) with
      | none => .raise (.other "KeyError")
      | some value =>
        if capability ∈ INSTANCE_TOOLS then
          .ofExcept (policy.evaluateInstanceRead capability value)
        else
          match validateCorrelationId value with
          | .error _ => .ofExcept <| schemaDenial capability "proposal_id must be an RFC UUIDv7"
          | .ok proposalId =>
            if capability = .stopSandboxInstance then policy.evaluateStop proposalId
            else policy.evaluateVerification proposalId

/-- `evaluate`. -/
def evaluate (toolName : PyObject) (toolInput : ToolInput) : Flow PolicyDecision :=
  match lookupTool TOOL_CAPABILITY toolName with
  | none =>
    match lookupTool STRUCTURALLY_DENIED_TOOL toolName with
    | some denied =>
      .ofExcept <| deny (some denied) .policyDenial "NEVER_AUTONOMOUS_DENIED"
        "NEVER_AUTONOMOUS capability is structurally denied before dispatch"
    | none =>
      .ofExcept <| deny none .policyDenial "UNKNOWN_TOOL_DENIED"
        "Unknown tool or capability is denied before dispatch"
  | some capability => policy.evaluateTool capability toolInput

end DefaultDenyToolPolicy

/-! ## What the gate is for -/

/-- A repository at one moment: what it holds, and which operations fail on it. -/
structure Repository [Sha256] where
  store : Store
  failure : Op → Option PyExc := fun _ => none

namespace Repository

variable [Sha256]

/-- What a call of the repository returns or raises. -/
def call (r : Repository) (op : Op) : Except PyExc op.Result :=
  match r.failure op with
  | some e => .error e
  | none => (op.run r.store).map Prod.fst

/-- The three reads are answered from the repository; nothing else is. -/
def answer (r : Repository) : (q : Req) → Option q.Ans
  | .store (.getProposal id) => some (r.call (.getProposal id))
  | .store (.getRun id) => some (r.call (.getRun id))
  | .store (.getApproval id) => some (r.call (.getApproval id))
  | _ => none

variable {r : Repository}

theorem observe_op_ok {α : Type} (op : Op) {a : op.Result}
    (ha : r.answer (.store op) = some (.ok a)) (f : op.Result → Flow α) :
    (Flow.op op >>= f).observe r.answer = (f a).observe r.answer := by
  show (r.answer (.store op)).bind _ = _
  rw [ha]
  rfl

theorem observe_op_error {α : Type} (op : Op) {e : PyExc}
    (he : r.answer (.store op) = some (.error e)) (f : op.Result → Flow α) :
    (Flow.op op >>= f).observe r.answer = some (.error e) := by
  show (r.answer (.store op)).bind _ = _
  rw [he]
  rfl

/-- `try` under observation. -/
theorem observe_tryExcept {α β : Type} (body : Flow α) (handler : PyExc → Option (Flow β))
    (rest : α → Flow β) :
    (Flow.tryExcept body handler rest).observe r.answer =
      (body.observe r.answer).bind fun
        | .ok a => (rest a).observe r.answer
        | .error e => ((handler e).getD (.raise e)).observe r.answer := by
  rw [Flow.tryExcept, observe_bind, observe_attempt, Option.bind_map]
  exact congrArg _ (funext fun x => by cases x <;> rfl)

theorem proposalId_of_call {id : UUID} {p : ActionProposal}
    (h : r.call (.getProposal id) = .ok (some p)) : p.proposalId = id := by
  unfold call at h
  split at h
  · cases h
  · exact Table.key_of_get (t := r.store.proposals) (Except.ok.inj h)

end Repository

namespace DefaultDenyToolPolicy

variable [Sha256] (policy : DefaultDenyToolPolicy) (r : Repository)

/-- The stored records a request for a proposal is about, all of them this gate's. -/
structure Finds (proposalId : UUID) (context : DurableContext) : Prop where
  available : policy.repository = true
  proposal : r.call (.getProposal proposalId) = .ok (some context.proposal)
  run : r.call (.getRun policy.identity.runId) = .ok (some context.run)
  approval : r.call (.getApproval proposalId) = .ok context.approval
  matching : policy.Matches context.proposal context.run
  bound : ∀ a, context.approval = some a → a.Binds context.proposal

/-- The proposal and its run wait for a human decision, and there is none yet. -/
def AwaitsConfirmation (proposalId : UUID) : Prop :=
  ∃ proposal run, policy.Finds r proposalId ⟨proposal, run, none⟩ ∧
    proposal.state = .awaitingApproval ∧ run.state = .awaitingApproval

/-- A human has approved this very proposal, and the run stands at that. -/
def StopApproved (proposalId : UUID) : Prop :=
  ∃ proposal run approval, policy.Finds r proposalId ⟨proposal, run, some approval⟩ ∧
    proposal.state = .awaitingApproval ∧ run.state = .approved ∧ approval.decision = .approved

/-! ## One lemma for each way out -/

omit [Sha256] in
theorem deny_ok (capability : Option Capability) (kind : FailureKind) (code message : String)
    (hkind : (denialState kind).isSome = true)
    (htexts : (ShortIdentifier code && NonEmptyText message) = true) :
    ∃ d, deny capability kind code message = .ok d ∧ d.disposition = .deny := by
  obtain ⟨state, hstate⟩ := Option.isSome_iff_exists.1 hkind
  let failure : FailureDetail := ⟨kind, code, message, kind = .dependencyUnavailable⟩
  have shape : DecisionShape .deny (some state) (some failure) := by
    rw [DecisionShape, if_pos rfl]
    exact ⟨rfl, rfl⟩
  refine ⟨⟨.deny, capability, some (denialAuthority capability), some state, some failure, shape⟩,
    ?_, rfl⟩
  rw [deny, hstate]
  simp only [FailureDetail.create, htexts, if_true]
  exact PolicyDecision.create_ok _ _ shape

omit [Sha256] in
theorem schemaDenial_ok (capability : Capability) (message : String)
    (hmessage : NonEmptyText message = true) :
    ∃ d, schemaDenial capability message = .ok d ∧ d.disposition = .deny :=
  deny_ok _ _ _ _ rfl (by rw [hmessage]; decide +kernel)

omit [Sha256] in
theorem evaluateInstanceRead_ok (capability : Capability) (instanceId : PyObject) :
    ∃ d, policy.evaluateInstanceRead capability instanceId = .ok d := by
  unfold evaluateInstanceRead
  split
  · split
    · obtain ⟨d, hd, -⟩ := deny_ok (some capability) .policyDenial "SANDBOX_SCOPE_DENIED"
        "Read target is outside the configured sandbox scope" rfl (by decide +kernel)
      exact ⟨d, hd⟩
    · exact ⟨_, PolicyDecision.create_ok _ _ (.of_ne_deny (by decide))⟩
  · obtain ⟨d, hd, -⟩ := schemaDenial_ok capability "instance_id must be a string"
      (by decide +kernel)
    exact ⟨d, hd⟩

omit [Sha256] in
theorem verificationDecision_ok (context : DurableContext) :
    ∃ d, verificationDecision context = .ok d := by
  unfold verificationDecision
  split
  · obtain ⟨d, hd, -⟩ := deny_ok (some .verifyInstanceState) .policyDenial
      "VERIFICATION_CONTEXT_DENIED"
      "Verification requires the approved durable target in a verification state"
      rfl (by decide +kernel)
    exact ⟨d, hd⟩
  · exact ⟨_, PolicyDecision.create_ok _ _ (.of_ne_deny (by decide))⟩

omit [Sha256] in
theorem stopDecision_spec (context : DurableContext) :
    ∃ d, stopDecision context = .ok d ∧
      (d.disposition = .requireConfirmation ↔ context.proposal.state = .awaitingApproval ∧
        context.run.state = .awaitingApproval ∧ context.approval = none) ∧
      (d.disposition = .allow ↔ context.proposal.state = .awaitingApproval ∧
        context.run.state = .approved ∧
          ∃ a, context.approval = some a ∧ a.decision = .approved) := by
  have approved : (context.approval.any fun a => decide (a.decision = .approved)) = true ↔
      ∃ a, context.approval = some a ∧ a.decision = .approved := by
    cases context.approval <;> simp
  unfold stopDecision
  simp only [approved]
  split
  · next h =>
    refine ⟨_, PolicyDecision.create_ok _ _ (.of_ne_deny (by decide)), ?_, ?_⟩
    · exact ⟨fun _ => h, fun _ => rfl⟩
    constructor
    · intro hd
      cases hd
    · rintro ⟨-, hrun, -⟩
      rw [h.2.1] at hrun
      cases hrun
  · next h =>
    split
    · next h' =>
      refine ⟨_, PolicyDecision.create_ok _ _ (.of_ne_deny (by decide)), ?_, ?_⟩
      · exact ⟨fun hd => (by cases hd), fun hc => absurd hc h⟩
      · exact ⟨fun _ => h', fun _ => rfl⟩
    · next h' =>
      obtain ⟨d, hd, hdeny⟩ := deny_ok (some .stopSandboxInstance) .policyDenial
        "STOP_PREREQUISITES_DENIED"
        "Stop requires the exact awaiting confirmation or durable approved context"
        rfl (by decide +kernel)
      refine ⟨d, hd, ?_, ?_⟩
      · rw [hdeny]
        exact ⟨fun hx => (by cases hx), fun hc => absurd hc h⟩
      · rw [hdeny]
        exact ⟨fun hx => (by cases hx), fun hc => absurd hc h'⟩

/-! ## Reading the records -/

variable {policy r}

/-- The three reads of a proposal, the gate's run and the proposal's approval, as one program. -/
theorem observe_reads {id runId : UUID} :
    (do
      let proposal ← Flow.op (.getProposal id)
      let run ← Flow.op (.getRun runId)
      let approval ← Flow.op (.getApproval id)
      return (proposal, run, approval) :
        Flow (Option ActionProposal × Option Run × Option Approval)).observe r.answer =
    some (do
      let proposal ← r.call (.getProposal id)
      let run ← r.call (.getRun runId)
      let approval ← r.call (.getApproval id)
      return (proposal, run, approval)) := by
  cases hproposal : r.call (.getProposal id) with
  | error e => exact Repository.observe_op_error (.getProposal id) (congrArg some hproposal) _
  | ok proposal =>
    rw [Repository.observe_op_ok (.getProposal id) (congrArg some hproposal)]
    cases hrun : r.call (.getRun runId) with
    | error e => exact Repository.observe_op_error (.getRun runId) (congrArg some hrun) _
    | ok run =>
      rw [Repository.observe_op_ok (.getRun runId) (congrArg some hrun)]
      cases happroval : r.call (.getApproval id) with
      | error e => exact Repository.observe_op_error (.getApproval id) (congrArg some happroval) _
      | ok approval => exact Repository.observe_op_ok (.getApproval id) (congrArg some happroval) _

/-- A denial in place of the context, where there is no context to be found. -/
theorem observe_denied {capability : Capability} {id : UUID} {kind : FailureKind}
    {code message : String} (hkind : (denialState kind).isSome = true)
    (htexts : (ShortIdentifier code && NonEmptyText message) = true)
    (hnone : ∀ context, ¬policy.Finds r id context) :
    ∃ x, (denied capability kind code message).observe r.answer = some (.ok x) ∧
      (∀ d, x = .error d → d.disposition = .deny) ∧
      ∀ context, x = .ok context ↔ policy.Finds r id context := by
  obtain ⟨d, hd, hdeny⟩ := deny_ok (some capability) kind code message hkind htexts
  refine ⟨.error d, ?_, ?_, ?_⟩
  · rw [denied, hd]
    rfl
  · intro d' hd'
    cases hd'
    exact hdeny
  · intro context
    exact ⟨fun h => (by cases h), fun h => absurd h (hnone context)⟩

/-- The checks on what was read. -/
theorem observe_checks {capability : Capability} {id : UUID} {proposal : Option ActionProposal}
    {run : Option Run} {approval : Option Approval} (havailable : policy.repository = true)
    (hproposal : r.call (.getProposal id) = .ok proposal)
    (hrun : r.call (.getRun policy.identity.runId) = .ok run)
    (happroval : r.call (.getApproval id) = .ok approval) :
    ∃ x, (policy.checkRecords capability proposal run approval).observe r.answer = some (.ok x) ∧
      (∀ d, x = .error d → d.disposition = .deny) ∧
      ∀ context, x = .ok context ↔ policy.Finds r id context := by
  have found (context : DurableContext) (h : policy.Finds r id context) :
      proposal = some context.proposal ∧ run = some context.run ∧ approval = context.approval :=
    ⟨Except.ok.inj (hproposal.symm.trans h.proposal), Except.ok.inj (hrun.symm.trans h.run),
      Except.ok.inj (happroval.symm.trans h.approval)⟩
  unfold checkRecords
  split
  · next p q =>
    split
    · next hmatch =>
      refine observe_denied rfl (by decide +kernel) fun context h => hmatch ?_
      obtain ⟨hp, hq, -⟩ := found context h
      cases hp
      cases hq
      exact h.matching
    · next hmatch =>
      split
      · next hbind =>
        refine observe_denied rfl (by decide +kernel) fun context h => ?_
        obtain ⟨hp, -, ha⟩ := found context h
        cases hp
        cases approval with
        | none => simp at hbind
        | some a => exact of_decide_eq_true hbind (h.bound a ha.symm)
      · next hbind =>
        refine ⟨_, rfl, fun d h => (by cases h), fun context => ⟨?_, ?_⟩⟩
        · rintro h
          cases h
          refine ⟨havailable, hproposal, hrun, happroval, not_not.1 hmatch, ?_⟩
          rintro a rfl
          simpa using hbind
        · intro h
          obtain ⟨hp, hq, ha⟩ := found context h
          cases hp
          cases hq
          rw [ha]
  · next hnone =>
    refine observe_denied rfl (by decide +kernel) fun context h => ?_
    obtain ⟨hp, hq, -⟩ := found context h
    exact hnone _ _ hp hq

/-- **What a request finds**: the context if every record is there and fits, else a denial. -/
theorem observe_durableContext (policy : DefaultDenyToolPolicy) (r : Repository)
    (capability : Capability) (id : UUID) :
    ∃ x, (policy.durableContext capability id).observe r.answer = some (.ok x) ∧
      (∀ d, x = .error d → d.disposition = .deny) ∧
      ∀ context, x = .ok context ↔ policy.Finds r id context := by
  unfold durableContext
  cases havailable : policy.repository with
  | false =>
    refine observe_denied rfl (by decide +kernel) fun context h => ?_
    rw [h.available] at havailable
    cases havailable
  | true =>
    simp only [Bool.not_true, Bool.false_eq_true, if_false]
    rw [Repository.observe_tryExcept, observe_reads]
    cases hproposal : r.call (.getProposal id) with
    | error e =>
      refine observe_denied rfl (by decide +kernel) fun context h => ?_
      rw [h.proposal] at hproposal
      cases hproposal
    | ok proposal =>
      cases hrun : r.call (.getRun policy.identity.runId) with
      | error e =>
        refine observe_denied rfl (by decide +kernel) fun context h => ?_
        rw [h.run] at hrun
        cases hrun
      | ok run =>
        cases happroval : r.call (.getApproval id) with
        | error e =>
          refine observe_denied rfl (by decide +kernel) fun context h => ?_
          rw [h.approval] at happroval
          cases happroval
        | ok approval =>
          exact observe_checks havailable hproposal hrun happroval

/-! ## The two tools that act on a proposal -/

theorem evaluateStop_spec (policy : DefaultDenyToolPolicy) (r : Repository) (id : UUID) :
    ∃ d, (policy.evaluateStop id).observe r.answer = some (.ok d) ∧
      (d.disposition = .requireConfirmation ↔ policy.AwaitsConfirmation r id) ∧
      (d.disposition = .allow ↔ policy.StopApproved r id) := by
  obtain ⟨x, hx, herror, hok⟩ := observe_durableContext policy r .stopSandboxInstance id
  rw [evaluateStop, observe_bind, hx]
  cases x with
  | error d =>
    have hdeny := herror d rfl
    have hnone (context : DurableContext) : ¬policy.Finds r id context := fun h => by
      cases (hok context).2 h
    refine ⟨d, rfl, ?_, ?_⟩
    · rw [hdeny]
      exact ⟨fun h => (by cases h), fun ⟨_, _, h, _⟩ => absurd h (hnone _)⟩
    · rw [hdeny]
      exact ⟨fun h => (by cases h), fun ⟨_, _, _, h, _⟩ => absurd h (hnone _)⟩
  | ok context =>
    have hfinds := (hok context).1 rfl
    obtain ⟨d, hd, hconfirm, hallow⟩ := stopDecision_spec context
    refine ⟨d, ?_, ?_, ?_⟩
    · show (ofExcept (stopDecision context) : Flow PolicyDecision).observe r.answer = _
      rw [hd]
      rfl
    · rw [hconfirm]
      constructor
      · rintro ⟨hp, hr, ha⟩
        obtain ⟨proposal, run, approval⟩ := context
        cases ha
        exact ⟨proposal, run, hfinds, hp, hr⟩
      · rintro ⟨proposal, run, h, hp, hr⟩
        cases (hok _).2 h
        exact ⟨hp, hr, rfl⟩
    · rw [hallow]
      constructor
      · rintro ⟨hp, hr, a, ha, happroved⟩
        obtain ⟨proposal, run, approval⟩ := context
        cases ha
        exact ⟨proposal, run, a, hfinds, hp, hr, happroved⟩
      · rintro ⟨proposal, run, a, h, hp, hr, happroved⟩
        cases (hok _).2 h
        exact ⟨hp, hr, a, rfl, happroved⟩

theorem evaluateVerification_ok (policy : DefaultDenyToolPolicy) (r : Repository) (id : UUID) :
    ∃ d, (policy.evaluateVerification id).observe r.answer = some (.ok d) := by
  obtain ⟨x, hx, -⟩ := observe_durableContext policy r .verifyInstanceState id
  rw [evaluateVerification, observe_bind, hx]
  cases x with
  | error d => exact ⟨d, rfl⟩
  | ok context =>
    obtain ⟨d, hd⟩ := verificationDecision_ok context
    refine ⟨d, ?_⟩
    show (ofExcept (verificationDecision context) : Flow PolicyDecision).observe r.answer = _
    rw [hd]
    rfl

/-- What the gate lets through, the coordinator finds approved: its own way to the run, through the
    proposal, ends at the gate's. -/
theorem requireApprovedRecords_of_stopApproved {id : UUID} (h : policy.StopApproved r id) :
    ∃ run proposal approval, (requireApprovedRecords id).observe r.answer =
      some (.ok (run, proposal, approval)) := by
  obtain ⟨proposal, run, approval, hfinds, hproposal, hrun, happroval⟩ := h
  have hid : proposal.proposalId = id := Repository.proposalId_of_call hfinds.proposal
  have hread : r.call (.getApproval proposal.proposalId) = .ok (some approval) := by
    rw [hid]
    exact hfinds.approval
  have hown : r.call (.getRun proposal.runId) = .ok (some run) := by
    rw [hfinds.matching.1]
    exact hfinds.run
  refine ⟨run, proposal, approval, ?_⟩
  rw [requireApprovedRecords,
    Repository.observe_op_ok (.getProposal id) (congrArg some hfinds.proposal)]
  simp only [hproposal, ne_eq, not_true_eq_false, if_false]
  rw [Repository.observe_op_ok (.getApproval proposal.proposalId) (congrArg some hread)]
  simp only [happroval, not_true_eq_false, if_false]
  rw [Repository.observe_op_ok (.getRun proposal.runId) (congrArg some hown)]
  simp only [hrun, not_true_eq_false, if_false]
  rfl

/-! ## The whole gate -/

omit [Sha256] in
theorem lookupTool_eq_some {table : List (String × Capability)} {name : PyObject} {c : Capability}
    (h : lookupTool table name = some c) : ∃ n, (n, c) ∈ table ∧ name = .str (ofString n) := by
  obtain ⟨⟨n, c'⟩, hfind, rfl⟩ := Option.map_eq_some_iff.1 h
  have hname := List.find?_some hfind
  exact ⟨n, List.mem_of_find?_eq_some hfind, (of_decide_eq_true hname).symm⟩

/-- A tool outside the surface is denied, whatever it is called with. -/
theorem evaluate_outside (policy : DefaultDenyToolPolicy) (r : Repository) {name : PyObject}
    (input : ToolInput)
    (h : ∀ entry ∈ TOOL_CAPABILITY, name ≠ .str (ofString entry.1)) :
    ∃ d, (policy.evaluate name input).observe r.answer = some (.ok d) ∧ d.disposition = .deny := by
  have hnone : lookupTool TOOL_CAPABILITY name = none := by
    by_contra hsome
    obtain ⟨c, hc⟩ := Option.ne_none_iff_exists'.1 hsome
    obtain ⟨n, hn, hname⟩ := lookupTool_eq_some hc
    exact h _ hn hname
  unfold evaluate
  rw [hnone]
  cases lookupTool STRUCTURALLY_DENIED_TOOL name with
  | none =>
    obtain ⟨d, hd, hdeny⟩ := deny_ok none .policyDenial "UNKNOWN_TOOL_DENIED"
      "Unknown tool or capability is denied before dispatch" rfl (by decide +kernel)
    exact ⟨d, by simp only [hd, observe_ofExcept], hdeny⟩
  | some denied =>
    obtain ⟨d, hd, hdeny⟩ := deny_ok (some denied) .policyDenial "NEVER_AUTONOMOUS_DENIED"
      "NEVER_AUTONOMOUS capability is structurally denied before dispatch" rfl (by decide +kernel)
    exact ⟨d, by simp only [hd, observe_ofExcept], hdeny⟩

/-- What a decision has to be on a stop request. -/
def StopExact (policy : DefaultDenyToolPolicy) (r : Repository) (input : ToolInput)
    (d : PolicyDecision) : Prop :=
  (d.disposition = .requireConfirmation ↔
    ∃ id, input.NamesProposal id ∧ policy.AwaitsConfirmation r id) ∧
  (d.disposition = .allow ↔ ∃ id, input.NamesProposal id ∧ policy.StopApproved r id)

/-- A denial is exact where the input names no proposal. -/
theorem stopExact_of_deny {input : ToolInput} {d : PolicyDecision} (hd : d.disposition = .deny)
    (hnone : ∀ id, ¬input.NamesProposal id) : StopExact policy r input d := by
  unfold StopExact
  rw [hd]
  constructor
  · exact ⟨fun h => (by cases h), fun ⟨id, h, _⟩ => absurd h (hnone id)⟩
  · exact ⟨fun h => (by cases h), fun ⟨id, h, _⟩ => absurd h (hnone id)⟩

theorem evaluateTool_spec (policy : DefaultDenyToolPolicy) (r : Repository)
    (capability : Capability) (input : ToolInput) :
    ∃ d, (policy.evaluateTool capability input).observe r.answer = some (.ok d) ∧
      (capability = .stopSandboxInstance → StopExact policy r input d) := by
  unfold evaluateTool
  cases input with
  | other =>
    obtain ⟨d, hd, hdeny⟩ := schemaDenial_ok capability "Tool input must be an exact object"
      (by decide +kernel)
    refine ⟨d, by simp only [hd, observe_ofExcept], fun _ => stopExact_of_deny hdeny ?_⟩
    rintro id ⟨fields, value, hinput, -⟩
    cases hinput
  | dict fields =>
    by_cases hkeys : fields.keysAre (expectedKey capability) = true
    · obtain ⟨value, hentries⟩ := (PyDict.keysAre_iff _ _).1 hkeys
      simp only [hkeys, Bool.not_true, Bool.false_eq_true, if_false, PyDict.get_of_entries hentries]
      by_cases hinstance : capability ∈ INSTANCE_TOOLS
      · obtain ⟨d, hd⟩ := evaluateInstanceRead_ok policy capability value
        refine ⟨d, by rw [if_pos hinstance, hd, observe_ofExcept], ?_⟩
        rintro rfl
        exact absurd hinstance (by decide)
      · rw [if_neg hinstance]
        -- the one field of the input has one value
        have same {id : UUID} (hstop : capability = .stopSandboxInstance)
            (h : (ToolInput.dict fields).NamesProposal id) :
            validateCorrelationId value = .ok id := by
          obtain ⟨fields', value', hinput, hentries', hvalue⟩ := h
          cases hinput
          subst hstop
          have hpair := hentries.symm.trans hentries'
          cases hpair
          exact hvalue
        cases hvalue : validateCorrelationId value with
        | error e =>
          obtain ⟨d, hd, hdeny⟩ := schemaDenial_ok capability "proposal_id must be an RFC UUIDv7"
            (by decide +kernel)
          refine ⟨d, by simp only [hd, observe_ofExcept], fun hstop => ?_⟩
          refine stopExact_of_deny hdeny fun id h => ?_
          cases hvalue.symm.trans (same hstop h)
        | ok id =>
          by_cases hstop : capability = .stopSandboxInstance
          · obtain ⟨d, hd, hconfirm, hallow⟩ := evaluateStop_spec policy r id
            have hnames : (ToolInput.dict fields).NamesProposal id := by
              subst hstop
              exact ⟨fields, value, rfl, hentries, hvalue⟩
            have only {id' : UUID} (h : (ToolInput.dict fields).NamesProposal id') : id' = id := by
              cases hvalue.symm.trans (same hstop h)
              rfl
            refine ⟨d, by simp only [hstop, if_true, hd], fun _ => ⟨?_, ?_⟩⟩
            · rw [hconfirm]
              exact ⟨fun h => ⟨id, hnames, h⟩, fun ⟨id', hid', h⟩ => only hid' ▸ h⟩
            · rw [hallow]
              exact ⟨fun h => ⟨id, hnames, h⟩, fun ⟨id', hid', h⟩ => only hid' ▸ h⟩
          · obtain ⟨d, hd⟩ := evaluateVerification_ok policy r id
            exact ⟨d, by simp only [hstop, if_false, hd], fun h => absurd h hstop⟩
    · have unnamed (hstop : capability = .stopSandboxInstance) (id : UUID) :
          ¬(ToolInput.dict fields).NamesProposal id := by
        rintro ⟨fields', value, hinput, hentries, -⟩
        cases hinput
        subst hstop
        exact hkeys ((PyDict.keysAre_iff _ _).2 ⟨value, hentries⟩)
      have hkeys := Bool.eq_false_iff.2 hkeys
      simp only [hkeys, Bool.not_false, if_true]
      split
      · obtain ⟨d, hd, hdeny⟩ := schemaDenial_ok capability "Required tool identifier is missing"
          (by decide +kernel)
        exact ⟨d, by simp only [hd, observe_ofExcept],
          fun hstop => stopExact_of_deny hdeny (unnamed hstop)⟩
      · obtain ⟨d, hd, hdeny⟩ := deny_ok (some capability) .policyDenial "PRIVILEGED_FIELD_DENIED"
          "Extra or confused tool fields are denied before dispatch" rfl (by decide +kernel)
        exact ⟨d, by simp only [hd, observe_ofExcept],
          fun hstop => stopExact_of_deny hdeny (unnamed hstop)⟩

/-- **The gate is exact**: it never raises, on a stop request it says what is stored, it denies
    every tool outside its surface, and what it lets through the coordinator finds approved. -/
theorem evaluate_exact (policy : DefaultDenyToolPolicy) (r : Repository) (toolName : PyObject)
    (toolInput : ToolInput) :
    ∃ d, (policy.evaluate toolName toolInput).observe r.answer = some (.ok d) ∧
      (toolName = .str (ofString "stop_sandbox_instance") →
        (d.disposition = .requireConfirmation ↔
          ∃ id, toolInput.NamesProposal id ∧ policy.AwaitsConfirmation r id) ∧
        (d.disposition = .allow ↔
          ∃ id, toolInput.NamesProposal id ∧ policy.StopApproved r id) ∧
        (d.disposition = .deny ↔
          (¬∃ id, toolInput.NamesProposal id ∧ policy.AwaitsConfirmation r id) ∧
            ¬∃ id, toolInput.NamesProposal id ∧ policy.StopApproved r id) ∧
        (d.disposition = .allow →
          ∃ id run proposal approval, toolInput.NamesProposal id ∧
            (requireApprovedRecords id).observe r.answer =
              some (.ok (run, proposal, approval)))) ∧
      ((∀ entry ∈ TOOL_CAPABILITY, toolName ≠ .str (ofString entry.1)) →
        d.disposition = .deny) := by
  by_cases houtside : ∀ entry ∈ TOOL_CAPABILITY, toolName ≠ .str (ofString entry.1)
  · obtain ⟨d, hd, hdeny⟩ := evaluate_outside policy r toolInput houtside
    refine ⟨d, hd, fun hstop => ?_, fun _ => hdeny⟩
    exact absurd hstop (houtside (Capability.stopSandboxInstance.value, .stopSandboxInstance)
      (by decide))
  · obtain ⟨capability, hlookup⟩ : ∃ c, lookupTool TOOL_CAPABILITY toolName = some c := by
      obtain ⟨entry, hentry, hname⟩ : ∃ e ∈ TOOL_CAPABILITY, toolName = .str (ofString e.1) := by
        simpa only [not_forall, not_not, exists_prop] using houtside
      have hfound :
          (TOOL_CAPABILITY.find? fun e => PyObject.str (ofString e.1) = toolName).isSome :=
        List.find?_isSome.2 ⟨entry, hentry, decide_eq_true hname.symm⟩
      obtain ⟨e, he⟩ := Option.isSome_iff_exists.1 hfound
      exact ⟨e.2, by rw [lookupTool, he]; rfl⟩
    obtain ⟨d, hd, hexact⟩ := evaluateTool_spec policy r capability toolInput
    refine ⟨d, by simp only [evaluate, hlookup, hd], fun hstop => ?_, fun h => absurd h houtside⟩
    have hcapability : capability = .stopSandboxInstance := by
      subst hstop
      have : lookupTool TOOL_CAPABILITY (.str (ofString "stop_sandbox_instance")) =
          some .stopSandboxInstance := by decide +kernel
      exact Option.some.inj (hlookup.symm.trans this)
    obtain ⟨hconfirm, hallow⟩ := hexact hcapability
    refine ⟨hconfirm, hallow, ?_, fun h => ?_⟩
    · rw [← hconfirm, ← hallow]
      cases d.disposition <;> simp
    · obtain ⟨id, hnames, happroved⟩ := hallow.1 h
      obtain ⟨run, proposal, approval, hrecords⟩ := requireApprovedRecords_of_stopApproved happroved
      exact ⟨id, run, proposal, approval, hnames, hrecords⟩

end DefaultDenyToolPolicy

end CloudOpsAgent
