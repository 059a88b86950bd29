/-
  `DurableProposalHumanInTheLoop`: what a tool call meets before it is dispatched.

  1. **Program** — `react` takes the decision of the policy on the call.  A denial is remembered as
     the last failure; a denial for the shape of the input goes through the correction budget first.
     A call that the policy does not deny is still denied while the last failure is of another kind,
     or once the budget is used up; else it goes to the native handler, and a confirmation of a stop
     gets the durable proposal as its prompt.

  2. **Specification** — `Sticky`: after a denial that is not about the shape of the input, every
     call is denied and the last failure stays of such a kind.

  3. **The crux (`sticky_iff`)** — the last failure is overwritten by whatever was denied last, so
     a later call with a malformed input replaces a policy denial by a validation failure, and the
     next well-formed call wipes it.  Denials are sticky exactly in the runs where no call is denied for
     its shape after one was denied for another reason.
-/
import CloudOpsAgent.Agent.ApprovalFlow
import CloudOpsAgent.Lib.History
import CloudOpsAgent.Nz.Sha256
import CloudOpsAgent.Safety.Policy

namespace CloudOpsAgent

open PyText ClientProg ClientProg.Prog

/-! ## The correction budget -/

/-- `SchemaCorrectionBudget`. -/
structure SchemaCorrectionBudget where
  maxAttempts : Nat := 2
  invalidAttempts : Nat := 0
  max_ok : 1 ≤ maxAttempts ∧ maxAttempts ≤ 3
  invalid_ok : invalidAttempts ≤ maxAttempts

namespace SchemaCorrectionBudget

def exhausted (b : SchemaCorrectionBudget) : Bool := b.maxAttempts ≤ b.invalidAttempts

/-- One more attempt used, if there is one left. -/
def consume (b : SchemaCorrectionBudget) : SchemaCorrectionBudget :=
  if h : b.invalidAttempts < b.maxAttempts then
    { b with invalidAttempts := b.invalidAttempts + 1, invalid_ok := h }
  else b

/-- `reject`. -/
def reject (b : SchemaCorrectionBudget) : FailureDetail × SchemaCorrectionBudget :=
  let b := b.consume
  (⟨.validationFailure,
    if b.exhausted then "MODEL_OUTPUT_INVALID" else "MODEL_OUTPUT_CORRECTION_REQUIRED",
    if b.exhausted then "Model output remained schema-invalid after the bounded correction budget"
    else "Model output is schema-invalid and may be corrected within the fixed budget",
    !b.exhausted⟩, b)

theorem reject_kind (b : SchemaCorrectionBudget) : b.reject.1.kind = .validationFailure := rfl

end SchemaCorrectionBudget

/-! ## The handler -/

/-- An `InterventionAction`, as far as the handler looks at it. -/
inductive InterventionAction where
  | deny (reason : String)
  | confirm (prompt : String) (reason response evaluate : PyObject)
  | other (name : String)
  deriving DecidableEq

/-- One tool call: its name and input, its canonical JSON, the repository at that moment, and what
    the native handler answers if it is asked. -/
structure ToolCall [Sha256] where
  name : PyObject
  input : ToolInput
  canonical : String
  durable : Repository
  native : Except PyExc InterventionAction

/-- What the handler remembers between calls. -/
structure HitlState where
  schemaBudget : SchemaCorrectionBudget
  lastFailure : Option FailureDetail := none
  denialCount : Nat := 0

/-- The last failure is one that no correction lifts. -/
def HitlState.Blocked (s : HitlState) : Prop :=
  ∃ failure, s.lastFailure = some failure ∧ failure.kind ≠ .validationFailure

structure DurableProposalHumanInTheLoop where
  policy : DefaultDenyToolPolicy
  modelId : String

namespace DurableProposalHumanInTheLoop

/-- `_safe_denial_reason`. -/
def safeDenialReason (failure : FailureDetail) : String :=
  if failure.kind = .validationFailure ∧ failure.retryable then
    "Tool schema rejected; one bounded exact-schema correction may be attempted."
  else if failure.kind = .validationFailure then
    "Tool schema rejected; the bounded correction budget is exhausted."
  else "Deterministic Non-Zero policy denied this tool request before dispatch."

/-- `UUID(str(tool_input["proposal_id"]))` of an input with that one field. -/
def proposalField (input : ToolInput) : Option (BitVec 128) :=
  match input with
  | .other => none
  | .dict fields =>
    if fields.keysAre "proposal_id" then
      match fields.get "proposal_id" with
      | some (.str text) | some (.other text) => UUID.parse text
      | some (.uuid bits) => some bits
      | none => none
    else none

variable [Sha256] (hitl : DurableProposalHumanInTheLoop)

/-- `_append_denial_audit`: best effort. -/
def appendDenialAudit (call : ToolCall) (decision : PolicyDecision) (failure : FailureDetail) :
    Flow Unit :=
  let body : Flow Unit := do
    match ← Flow.op (.getRun hitl.policy.identity.runId) with
    | none => return
    | some run =>
      let metadata := Dict.ofPairs [("correlation_id", run.correlationId.str),
        ("failure_kind", failure.kind.value), ("policy_code", failure.code),
        ("trace_id", run.traceId.str)]
      let eventId ← Flow.freshId
      let timestamp ← Flow.clock
      let _ ← Flow.op <| .appendAuditEvent {
        eventId := eventId
        runId := run.runId
        type := if failure.kind = .validationFailure then .modelOutputRejected else .policyDenied
        timestamp := timestamp
        source := "nz-safety-policy"
        toolName := some ((decision.capability.map Capability.value).getD "policy-denied")
        modelId := some hitl.modelId
        redactedPayloadHash := Sha256.hexdigest call.canonical
        metadata :=
          match proposalField call.input with
          | some bits => metadata.insert "proposal_id" (UUID.format bits)
          | none => metadata }
      return
  if !hitl.policy.repository then .ret ()
  else Flow.tryExcept body (fun _ => some (.ret ())) fun _ => .ret ()

/-- Remember a failure, write it down and deny. -/
def denyWith (s : HitlState) (call : ToolCall) (decision : PolicyDecision)
    (failure : FailureDetail) : Flow (Except PyExc InterventionAction × HitlState) := do
  hitl.appendDenialAudit call decision failure
  return (.ok (.deny (safeDenialReason failure)),
    { s with lastFailure := some failure, denialCount := s.denialCount + 1 })

/-- The prompt of a stop confirmation, read back from the durable proposal. -/
def confirmationPrompt (call : ToolCall) : Flow String :=
  if !hitl.policy.repository then .raise (.valueError "durable truth is unavailable")
  else
    match proposalField call.input with
    | none => .raise (.valueError "badly formed hexadecimal UUID string")
    | some bits => do
      let proposal ← if UUID.version bits = some 7 then Flow.op (.getProposal (.ofBits bits))
        else .ret none
      match proposal with
      | some proposal =>
        if proposal.state ≠ .awaitingApproval then
          .raise (.valueError "proposal is not durably awaiting approval")
        else
          return "Approve proposal-bound sandbox STOP?\n  Payload: " ++
            (buildApprovalPayload proposal).toJson.dumps
      | none => .raise (.valueError "proposal is not durably awaiting approval")

/-- The native handler, and the durable prompt for a confirmation of a stop. -/
def dispatch (call : ToolCall) : Flow (Except PyExc InterventionAction) :=
  match call.native with
  | .error e => .ret (.error e)
  | .ok action =>
    if call.name ≠ .str (ofString "stop_sandbox_instance") then .ret (.ok action)
    else
      match action with
      | .confirm _ reason response evaluate =>
        let single := match call.input with
          | .dict fields => fields.keysAre "proposal_id"
          | .other => false
        if !single then
          .ret <| .ok <| .deny
            "Mutation request must contain only one durable proposal reference."
        else
          Flow.tryExcept (hitl.confirmationPrompt call)
            (fun _ => some <| .ret <| .ok <| .deny
              "Durable approval payload could not be proven.")
            fun prompt => .ret <| .ok <| .confirm prompt reason response evaluate
      | action => .ret (.ok action)

/-- `before_tool_call` after the policy's decision.  What it raises is its first component: the
    state it leaves behind is there in any case. -/
def react (s : HitlState) (call : ToolCall) (decision : PolicyDecision) :
    Flow (Except PyExc InterventionAction × HitlState) :=
  if decision.disposition = .deny then
    match decision.failure with
    | none => .ret (.error (.other "AssertionError"), s)
    | some failure =>
      if failure.kind = .validationFailure then
        let (failure, budget) := s.schemaBudget.reject
        hitl.denyWith { s with schemaBudget := budget } call decision failure
      else hitl.denyWith s call decision failure
  else
    match s.lastFailure with
    | some failure =>
      -- an earlier denial stands: for another reason, or with the budget used up
      if failure.kind ≠ .validationFailure ∨ s.schemaBudget.exhausted then
        hitl.denyWith s call decision failure
      else do
        let action ← hitl.dispatch call
        return (action, { s with lastFailure := none })
    | none =>
      if s.schemaBudget.exhausted then
        let (failure, budget) := s.schemaBudget.reject
        hitl.denyWith { s with schemaBudget := budget } call decision failure
      else do
        let action ← hitl.dispatch call
        return (action, s)

/-! ## Runs -/

end DurableProposalHumanInTheLoop

/-- One call of `before_tool_call`: what the policy decided, what came out, the state afterwards. -/
structure Turn [Sha256] where
  call : ToolCall
  decision : PolicyDecision
  outcome : Except PyExc InterventionAction
  after : HitlState

def Turn.Denied [Sha256] (t : Turn) : Prop := ∃ reason, t.outcome = .ok (.deny reason)

/-- The policy denies the call, and not for the shape of its input. -/
def PolicyDecision.Final (d : PolicyDecision) : Prop :=
  ∃ failure, d.failure = some failure ∧ failure.kind ≠ .validationFailure

/-- The policy denies the call for the shape of its input. -/
def PolicyDecision.Malformed (d : PolicyDecision) : Prop :=
  ∃ failure, d.failure = some failure ∧ failure.kind = .validationFailure

namespace DurableProposalHumanInTheLoop

variable [Sha256] (hitl : DurableProposalHumanInTheLoop)

/-- `before_tool_call`: the policy reads the repository of the call; whatever else is asked, the
    audit of a denial and the proposal of a prompt, may be answered in any way. -/
def Handles (s : HitlState) (t : Turn) : Prop :=
  (hitl.policy.evaluate t.call.name t.call.input).observe t.call.durable.answer =
      some (.ok t.decision) ∧
    ∃ l, Path (hitl.react s t.call t.decision) l (.ret (t.outcome, t.after))

/-- A sequence of calls on one instance. -/
inductive Runs : HitlState → List Turn → Prop
  | nil (s : HitlState) : Runs s []
  | cons {s : HitlState} {t : Turn} {turns : List Turn} (h : hitl.Handles s t)
    (hs : Runs t.after turns) : Runs s (t :: turns)

/-- Once a call was denied for another reason than its shape, so is every later one. -/
def Sticky (turns : List Turn) : Prop :=
  turns.Pairwise fun t u => t.Denied → t.after.Blocked → u.Denied ∧ u.after.Blocked

/-- No call is malformed after one that the policy denied for another reason. -/
def WellFormedAfterFinal (turns : List Turn) : Prop :=
  turns.Pairwise fun t u => t.decision.Final → ¬u.decision.Malformed

/-! ## One call -/

variable {hitl} {s : HitlState} {call : ToolCall} {t : Turn}

theorem denyWith_returns (s : HitlState) (call : ToolCall) (d : PolicyDecision)
    (failure : FailureDetail) :
    (hitl.denyWith s call d failure).Returns fun x =>
      (∃ reason, x.1 = .ok (.deny reason)) ∧ x.2.lastFailure = some failure :=
  returns_bind _ fun _ => ⟨⟨_, rfl⟩, rfl⟩

omit [Sha256] in
theorem blocked_of_lastFailure {s : HitlState} {failure : FailureDetail}
    (h : s.lastFailure = some failure) : s.Blocked ↔ failure.kind ≠ .validationFailure := by
  constructor
  · rintro ⟨f, hf, hkind⟩
    rw [h] at hf
    cases hf
    exact hkind
  · exact fun hkind => ⟨failure, h, hkind⟩

/-- A final denial blocks the instance. -/
theorem react_final {d : PolicyDecision} (hd : d.Final) :
    (hitl.react s call d).Returns fun x =>
      (∃ reason, x.1 = .ok (.deny reason)) ∧ x.2.Blocked := by
  obtain ⟨failure, hfailure, hkind⟩ := hd
  have hdeny : d.disposition = .deny := by
    by_contra hne
    have shape := d.shape
    rw [DecisionShape, if_neg hne, hfailure] at shape
    cases shape.1
  simp only [react, hdeny, hfailure, hkind, if_true, if_false]
  refine (denyWith_returns s call d failure).mono fun x hx => ⟨hx.1, ?_⟩
  exact (blocked_of_lastFailure hx.2).2 hkind

/-- A malformed call lifts whatever block there was. -/
theorem react_malformed {d : PolicyDecision} (hd : d.Malformed) :
    (hitl.react s call d).Returns fun x => ¬x.2.Blocked := by
  obtain ⟨failure, hfailure, hkind⟩ := hd
  have hdeny : d.disposition = .deny := by
    by_contra hne
    have shape := d.shape
    rw [DecisionShape, if_neg hne, hfailure] at shape
    cases shape.1
  simp only [react, hdeny, hfailure, hkind, if_true]
  refine (denyWith_returns _ call d s.schemaBudget.reject.1).mono fun x hx => ?_
  rw [blocked_of_lastFailure hx.2, s.schemaBudget.reject_kind]
  exact fun h => h rfl

/-- A call the policy does not deny leaves a block, and no block, alone. -/
theorem react_passing {d : PolicyDecision} (hd : d.failure = none) :
    (hitl.react s call d).Returns fun x =>
      (s.Blocked → (∃ reason, x.1 = .ok (.deny reason)) ∧ x.2.Blocked) ∧
        (¬s.Blocked → ¬x.2.Blocked) := by
  have hdeny : d.disposition ≠ .deny := by
    intro hdeny
    have shape := d.shape
    rw [DecisionShape, if_pos hdeny, hd] at shape
    cases shape.1
  simp only [react, hdeny, if_false]
  split
  · next failure hlast =>
    have hblocked := blocked_of_lastFailure hlast
    split
    · next hstands =>
      refine (denyWith_returns s call d failure).mono fun x hx => ?_
      have hx' := blocked_of_lastFailure hx.2
      exact ⟨fun h => ⟨hx.1, hx'.2 (hblocked.1 h)⟩, fun h h' => h (hblocked.2 (hx'.1 h'))⟩
    · next hlifted =>
      refine returns_bind _ fun action => ⟨fun h => ?_, fun _ h => ?_⟩
      · exact absurd (.inl (hblocked.1 h)) hlifted
      · obtain ⟨f, hf, -⟩ := h
        cases hf
  · next hlast =>
    have hfree : ¬s.Blocked := by
      rintro ⟨f, hf, -⟩
      rw [hlast] at hf
      cases hf
    split
    · refine (denyWith_returns _ call d s.schemaBudget.reject.1).mono fun x hx => ?_
      refine ⟨fun h => absurd h hfree, fun _ => ?_⟩
      rw [blocked_of_lastFailure hx.2, s.schemaBudget.reject_kind]
      exact fun h => h rfl
    · exact returns_bind _ fun action => ⟨fun h => absurd h hfree, fun h => h⟩

/-! ## A whole run -/

omit [Sha256] in
theorem decision_cases (d : PolicyDecision) : d.Final ∨ d.Malformed ∨ d.failure = none := by
  rcases hf : d.failure with _ | failure
  · exact .inr (.inr rfl)
  · by_cases hkind : failure.kind = .validationFailure
    · exact .inr (.inl ⟨failure, hf, hkind⟩)
    · exact .inl ⟨failure, hf, hkind⟩

theorem Handles.final (h : hitl.Handles s t) (hd : t.decision.Final) :
    t.Denied ∧ t.after.Blocked := by
  obtain ⟨-, l, hpath⟩ := h
  have hspec := hpath.returns (react_final hd)
  exact hspec

theorem Handles.malformed (h : hitl.Handles s t) (hd : t.decision.Malformed) :
    ¬t.after.Blocked := by
  obtain ⟨-, l, hpath⟩ := h
  have hspec := hpath.returns (react_malformed hd)
  exact hspec

theorem Handles.passing (h : hitl.Handles s t) (hd : t.decision.failure = none) :
    (s.Blocked → t.Denied ∧ t.after.Blocked) ∧ (¬s.Blocked → ¬t.after.Blocked) := by
  obtain ⟨-, l, hpath⟩ := h
  have hspec := hpath.returns (react_passing hd)
  exact hspec

/-- A blocked instance stays blocked while no call is malformed. -/
theorem Runs.blocked {turns : List Turn} (h : hitl.Runs s turns) (hs : s.Blocked)
    (hwell : ∀ u ∈ turns, ¬u.decision.Malformed) : ∀ u ∈ turns, u.Denied ∧ u.after.Blocked := by
  induction h with
  | nil s => simp
  | @cons s t turns ht hturns ih =>
    have hhead : t.Denied ∧ t.after.Blocked := by
      rcases decision_cases t.decision with hd | hd | hd
      · exact ht.final hd
      · exact absurd hd (hwell t List.mem_cons_self)
      · exact (ht.passing hd).1 hs
    intro u hu
    rcases List.mem_cons.1 hu with rfl | hu
    · exact hhead
    · exact ih hhead.2 (fun v hv => hwell v (List.mem_cons_of_mem t hv)) u hu

theorem Runs.handles {turns : List Turn} (h : hitl.Runs s turns) :
    ∀ t ∈ turns, ∃ s', hitl.Handles s' t := by
  induction h with
  | nil s => simp
  | @cons s t turns ht hturns ih =>
    intro u hu
    rcases List.mem_cons.1 hu with rfl | hu
    · exact ⟨s, ht⟩
    · exact ih u hu

/-- Where no call is malformed after a final denial, every denial of that kind sticks; the instance
    may be blocked to begin with, as long as nothing malformed is to come. -/
theorem Runs.sticky {turns : List Turn} (h : hitl.Runs s turns)
    (hs : s.Blocked → ∀ u ∈ turns, ¬u.decision.Malformed) (hwell : WellFormedAfterFinal turns) :
    Sticky turns := by
  induction h with
  | nil s => exact .nil
  | @cons s t turns ht hturns ih =>
    obtain ⟨hhead, htail⟩ := List.pairwise_cons.1 hwell
    have quiet (hblocked : t.after.Blocked) : ∀ u ∈ turns, ¬u.decision.Malformed := by
      rcases decision_cases t.decision with hd | hd | hd
      · exact fun u hu => hhead u hu hd
      · exact absurd hblocked (ht.malformed hd)
      · have hsblocked : s.Blocked := by
          by_contra hfree
          exact (ht.passing hd).2 hfree hblocked
        exact fun u hu => hs hsblocked u (List.mem_cons_of_mem t hu)
    refine List.pairwise_cons.2 ⟨fun u hu _ hblocked => ?_, ih quiet htail⟩
    exact hturns.blocked hblocked (quiet hblocked) u hu

/-- **Denials are sticky exactly in the runs without a malformed call after a final denial.** -/
theorem sticky_iff {budget : SchemaCorrectionBudget} {turns : List Turn}
    (h : hitl.Runs { schemaBudget := budget } turns) :
    Sticky turns ↔ WellFormedAfterFinal turns := by
  constructor
  · intro hsticky
    refine List.Pairwise.imp_of_mem (fun {t u} ht hu hpair hfinal hmalformed => ?_) hsticky
    obtain ⟨s₁, h₁⟩ := h.handles t ht
    obtain ⟨s₂, h₂⟩ := h.handles u hu
    obtain ⟨hdenied, hblocked⟩ := h₁.final hfinal
    exact h₂.malformed hmalformed (hpair hdenied hblocked).2
  · refine h.sticky fun ⟨failure, hlast, _⟩ => ?_
    cases hlast

end DurableProposalHumanInTheLoop

namespace DurableProposalHumanInTheLoop.Sample

attribute [local instance] Sha256.standard

/-- The gate of one run, without a repository. -/
def gate : DurableProposalHumanInTheLoop where
  policy :=
    { identity := ⟨⟨0, 0, 1⟩, ⟨0, 0, 2⟩, ⟨0, 0, 3⟩⟩
      target := { instanceId := "i-0123456789abcdef0" }
      repository := false }
  modelId := "model"

theorem two_attempts : 1 ≤ 2 ∧ 2 ≤ 3 := by decide

theorem none_invalid : 0 ≤ 2 := by decide

def budget : SchemaCorrectionBudget where
  max_ok := two_attempts
  invalid_ok := none_invalid

/-- A call on an empty repository that the native handler would let through. -/
def request (name : String) (input : ToolInput) : ToolCall where
  name := .str (ofString name)
  input := input
  canonical := name
  durable := { store := {} }
  native := .ok (.other "Proceed")

def fields : PyDict where
  entries := [(.str (ofString "instance_id"), .str (ofString "i-0123456789abcdef0"))]
  nodup := by decide

def shellDenial : FailureDetail :=
  ⟨.policyDenial, "NEVER_AUTONOMOUS_DENIED",
    "NEVER_AUTONOMOUS capability is structurally denied before dispatch", false⟩

def shapeDenial : FailureDetail :=
  ⟨.validationFailure, "TOOL_SCHEMA_INVALID", "Tool input must be an exact object", false⟩

/-- A denied shell, a malformed read, a well-formed read. -/
def turns : List Turn :=
  [{ call := request "shell" .other
     decision := ⟨.deny, some .shellExecution, some .neverAutonomous, some .deniedByPolicy,
      some shellDenial, by decide⟩
     outcome := .ok (.deny (safeDenialReason shellDenial))
     after := { schemaBudget := budget, lastFailure := some shellDenial, denialCount := 1 } },
    { call := request "inspect_instance" .other
      decision := ⟨.deny, some .inspectInstance, some .auto, some .modelOutputInvalid,
        some shapeDenial, by decide⟩
      outcome := .ok (.deny (safeDenialReason budget.reject.1))
      after := { schemaBudget := budget.reject.2, lastFailure := some budget.reject.1,
                 denialCount := 2 } },
    { call := request "inspect_instance" (.dict fields)
      decision := ⟨.allow, some .inspectInstance, some .auto, none, none, by decide⟩
      outcome := .ok (.other "Proceed")
      after := { schemaBudget := budget.reject.2, lastFailure := none, denialCount := 2 } }]

theorem runs_turns : gate.Runs { schemaBudget := budget } turns := by
  refine .cons ⟨by rfl, [], ?_⟩ (.cons ⟨by rfl, [], ?_⟩ (.cons ⟨by rfl, [], ?_⟩ (.nil _)))
  · exact .nil _
  · exact .nil _
  · exact .nil _

/-- After the denied shell the malformed read replaces its failure, and the next read goes
    through. -/
theorem policy_denial_forgotten : gate.Runs { schemaBudget := budget } turns ∧ ¬Sticky turns := by
  refine ⟨runs_turns, fun h => ?_⟩
  have hlast := (List.pairwise_cons.1 h).1 _ (.tail _ (.head _)) ⟨_, rfl⟩
    ⟨shellDenial, rfl, by decide⟩
  obtain ⟨reason, hreason⟩ := hlast.1
  cases hreason

/-- The exact condition, at that run: the malformed read comes after the denied shell. -/
theorem sticky_iff_turns : Sticky turns ↔ WellFormedAfterFinal turns := sticky_iff runs_turns

end DurableProposalHumanInTheLoop.Sample

end CloudOpsAgent
