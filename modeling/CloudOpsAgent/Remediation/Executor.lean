/-
  `Ec2SandboxStopExecutor`: the sole `StopInstances` capability behind all live safety gates.

  One call asks EC2 and the emergency control in this order, and stops at the first gate that does
  not open:

      checkCommand ─→ DescribeInstances ─→ checkInstance ─→ emergency check ─→ DryRun ─→ checkDryRun
        ─→ emergency check ─→ StopInstances ─→ readAcknowledgement ─→ acknowledgement

  EC2 answers with any nested data (`PyValue`) or raises any exception (`Raised`).

  1. **Values** — what the executor reads of a response or an exception.

  2. **The executor** — each gate a function of the answer it checks, the messages the source's.

  3. **Gating** — the mutation is reached through every gate, in this call (`executor_gated`).

  4. **After the mutation** — which answers are turned into a typed outcome
     (`acknowledgement_typed_iff`).
-/
import CloudOpsAgent.Flow.World
import CloudOpsAgent.Lib.History
import CloudOpsAgent.Nz.Sha256

namespace CloudOpsAgent

open ClientProg

/-! ## Values -/

/-- A response value.  `other` is anything that is neither `None`, text, list nor mapping; a mapping
    has its text keys. -/
inductive PyValue where
  | none
  | str (text : String)
  | list (items : List PyValue)
  | dict (fields : List (String × PyValue))
  | other (hashable : Bool)

namespace PyValue

/-- `value == text`. -/
def isStr (v : PyValue) (text : String) : Bool :=
  match v with
  | .str t => t = text
  | _ => false

/-- Lists and mappings cannot be members of a set, nor keys. -/
def hashable : PyValue → Bool
  | .none | .str _ => true
  | .list _ | .dict _ => false
  | .other hashable => hashable

/-- `value.get(key) if isinstance(value, Mapping) else None`. -/
def get (v : PyValue) (key : String) : PyValue :=
  match v with
  | .dict fields => (fields.lookup key).getD .none
  | _ => .none

/-- `isinstance(value, Mapping)`. -/
def isMapping : PyValue → Bool
  | .dict _ => true
  | _ => false

theorem isStr_iff {v : PyValue} {text : String} : v.isStr text ↔ v = .str text := by
  cases v <;> simp [isStr]

end PyValue

/-- The exception classes the executor's handlers tell apart. -/
inductive RaisedClass where
  /-- `RemediationDependencyError` or `RemediationScopeError`. -/
  | remediation
  /-- Any other `Exception`. -/
  | exception
  /-- A `BaseException` that no `except Exception` catches. -/
  | base
  deriving DecidableEq

/-- An exception of the client: its class and its `response` attribute, if it has one. -/
structure Raised where
  class' : RaisedClass := .exception
  response : PyValue := .none

/-- `_aws_error_code`. -/
def Raised.awsErrorCode (e : Raised) : Option String :=
  match (e.response.get "Error").get "Code" with
  | .str code => some code
  | _ => none

inductive ExecutorError where
  | disabled (message : String)
  | emergencyDisabled (message : String)
  | scope (message : String)
  | dependency (message : String)
  | execution (message : String)
  | ambiguous (message : String)
  | typeError
  /-- pydantic's `ValidationError`. -/
  | validation
  /-- What was raised passes through. -/
  | raised (e : Raised)

/-! ## The executor -/

/-- `SandboxRemediationSettings`; the target is its first three fields and the region. -/
structure SandboxRemediationSettings where
  instanceId : String
  requiredTagKey : String := "AIOACloudOpsSandbox"
  requiredTagValue : String := "true"
  region : String := "eu-central-1"
  awsMutationsEnabled : Bool := false
  allowLiveSandboxStop : Bool := false

def SandboxRemediationSettings.liveExecutionEnabled (s : SandboxRemediationSettings) : Bool :=
  s.awsMutationsEnabled && s.allowLiveSandboxStop

/-- `EnvironmentEmergencyExecutionControl.assert_writes_enabled`, on what its reader does. -/
def EnvironmentEmergencyExecutionControl.assertWritesEnabled (value : Except Raised PyValue) :
    Except ExecutorError Unit :=
  match value with
  | .error e =>
    if e.class' = .base then .error (.raised e)
    else .error (.emergencyDisabled "emergency executor disable is active or unavailable")
  | .ok value =>
    if !value.isStr "false" then
      .error (.emergencyDisabled "emergency executor disable is active or unavailable")
    else .ok ()

/-- Only the exact text `false` lets a write pass. -/
theorem EnvironmentEmergencyExecutionControl.assertWritesEnabled_ok_iff
    {value : Except Raised PyValue} :
    assertWritesEnabled value = .ok () ↔ value = .ok (.str "false") := by
  unfold assertWritesEnabled
  cases value with
  | error e =>
    dsimp only
    split <;> simp
  | ok value =>
    rw [Except.ok.injEq, ← PyValue.isStr_iff]
    dsimp only
    cases value.isStr "false" <;> simp

/-- What the executor asks. -/
inductive ExecutorReq where
  | describeInstances (instanceIds : List String)
  | assertWritesEnabled
  | stopInstances (instanceIds : List String) (dryRun : Bool)
  | clock

/-- Any response or exception of the client, and any outcome of the emergency control. -/
def ExecutorReq.Ans : ExecutorReq → Type
  | describeInstances _ | stopInstances _ _ => Except Raised PyValue
  | assertWritesEnabled => Except ExecutorError Unit
  | clock => Time

/-- The instance records of one reservation after another. -/
def reservedInstances : List PyValue → Except ExecutorError (List PyValue)
  | [] => .ok []
  | reservation :: rest =>
    if !reservation.isMapping then
      .error (.dependency "DescribeInstances returned a malformed reservation")
    else match reservation.get "Instances" with
      | .list instances =>
        if !instances.all PyValue.isMapping then
          .error (.dependency "DescribeInstances returned malformed instance data")
        else (reservedInstances rest).map (instances ++ ·)
      | _ => .error (.dependency "DescribeInstances omitted instance records")

/-- `_single_instance`. -/
def singleInstance (response : PyValue) : Except ExecutorError PyValue :=
  if !response.isMapping then
    .error (.dependency "DescribeInstances returned a malformed response")
  else match response.get "Reservations" with
    | .list reservations =>
      match reservedInstances reservations with
      | .error e => .error e
      | .ok [instance'] => .ok instance'
      | .ok _ => .error (.scope "exactly one sandbox instance must be returned")
    | _ => .error (.dependency "DescribeInstances omitted reservations")

/-- `tag_map.get(key)`, `none` when a tag's key cannot be one.  The last tag of a key counts. -/
def tagValue (key : String) : List PyValue → PyValue → Option PyValue
  | [], found => some found
  | tag :: rest, found =>
    if !tag.isMapping then tagValue key rest found
    else if !(tag.get "Key").hashable then none
    else tagValue key rest (if (tag.get "Key").isStr key then tag.get "Value" else found)

namespace Ec2SandboxStopExecutor

variable (settings : SandboxRemediationSettings) (command : StopExecutionCommand)

/-- The checks before any AWS call. -/
def checkCommand : Except ExecutorError Unit :=
  if !settings.liveExecutionEnabled then
    .error (.disabled "live sandbox stop requires both explicit opt-ins")
  else if command.target.resourceId ≠ settings.instanceId ∨
      command.target.region ≠ settings.region ∨
      command.target.requiredTagKey ≠ settings.requiredTagKey ∨
      command.target.requiredTagValue ≠ settings.requiredTagValue then
    .error (.scope "execution command is outside configured sandbox scope")
  else if command.expectedPrecondition.instanceState ≠ .running then
    .error (.scope "sandbox stop requires a running precondition")
  else .ok ()

/-- The fresh scope check. -/
def checkInstance (answer : Except Raised PyValue) : Except ExecutorError Unit :=
  match answer with
  | .error e =>
    if e.class' = .exception then .error (.dependency "fresh sandbox scope check failed")
    else .error (.raised e)
  | .ok response =>
    match singleInstance response with
    | .error e => .error e
    | .ok instance' =>
      if !(instance'.get "InstanceId").isStr settings.instanceId then
        .error (.scope "DescribeInstances returned a different target")
      else if !((instance'.get "State").get "Name").isStr "running" then
        .error (.scope "sandbox instance is not in the approved running state")
      else if !(instance'.get "RootDeviceType").isStr "ebs" then
        .error (.scope "sandbox instance must be EBS-backed")
      else match instance'.get "Tags" with
        | .list tags =>
          match tagValue settings.requiredTagKey tags .none with
          | none => .error .typeError
          | some value =>
            if !value.isStr settings.requiredTagValue then
              .error (.scope "fresh sandbox tag proof failed")
            else .ok ()
        | _ => .error (.scope "fresh sandbox tag proof is missing")

/-- The dry run has to fail, with the one code that says it would have succeeded. -/
def checkDryRun (answer : Except Raised PyValue) : Except ExecutorError Unit :=
  match answer with
  | .error e =>
    if e.class' = .base then .error (.raised e)
    else if e.awsErrorCode ≠ some "DryRunOperation" then
      .error (.dependency "StopInstances DryRun was not authorized")
    else .ok ()
  | .ok _ => .error (.dependency "StopInstances DryRun returned unexpected success")

/-- `response_metadata.get("RequestId")`, where that is a text. -/
def requestReference (response : PyValue) : Option String :=
  match (response.get "ResponseMetadata").get "RequestId" with
  | .str text => some text
  | _ => none

/-- What the mutation acknowledged: the current state and the request reference. -/
def readAcknowledgement (answer : Except Raised PyValue) :
    Except ExecutorError ({s : ObservedInstanceState // s = .stopping ∨ s = .stopped} ×
      Option String) :=
  match answer with
  | .error e =>
    if e.class' = .base then .error (.raised e)
    else match e.awsErrorCode with
      | none => .error (.ambiguous
          "StopInstances acknowledgement is ambiguous and requires reconciliation")
      | some code => .error (.execution ("StopInstances failed with AWS code " ++ code))
  | .ok response =>
    if !response.isMapping then
      .error (.ambiguous "StopInstances returned a malformed acknowledgement")
    else match response.get "StoppingInstances" with
      | .list [transition] =>
        if !transition.isMapping ∨ !(transition.get "InstanceId").isStr settings.instanceId then
          .error (.ambiguous "StopInstances acknowledgement target is ambiguous")
        else if !((transition.get "PreviousState").get "Name").isStr "running" then
          .error (.ambiguous "StopInstances acknowledgement state is unexpected")
        else
          let currentName := (transition.get "CurrentState").get "Name"
          -- `not in {…}` hashes the name
          if !currentName.hashable then .error .typeError
          else if currentName.isStr "stopping" then
            .ok (⟨.stopping, .inl rfl⟩, requestReference response)
          else if currentName.isStr "stopped" then
            .ok (⟨.stopped, .inr rfl⟩, requestReference response)
          else .error (.ambiguous "StopInstances acknowledgement state is unexpected")
      | _ => .error (.ambiguous "StopInstances did not acknowledge exactly one target")

variable [Sha256]

/-- The acknowledgement model, which validates its request reference. -/
def acknowledgement (current : {s : ObservedInstanceState // s = .stopping ∨ s = .stopped})
    (reference : Option String) (acknowledgedAt : Time) :
    Except ExecutorError ExecutionAcknowledgement :=
  if !reference.all NonEmptyText then .error .validation
  else .ok
    { proposalId := command.proposalId
      runId := command.runId
      target := command.target
      currentState := current.1
      requestReference := reference
      acknowledgedAt := acknowledgedAt
      acknowledgementHash := canonicalDigest (.obj [
        ("proposal_id", .str command.proposalId.str), ("run_id", .str command.runId.str),
        ("action", .str command.action.value), ("target", command.target.toJson),
        ("previous_state", .str "running"), ("current_state", .str current.1.value),
        ("request_reference", Json.ofOption .str reference),
        ("acknowledged_at", .str acknowledgedAt.isoformat)])
      current_ok := current.2 }

/-- From the mutation's answer on. -/
def afterMutation (answer : Except Raised PyValue) :
    Prog ExecutorReq ExecutorReq.Ans ExecutorError ExecutionAcknowledgement := do
  let (current, reference) ← .ofExcept (readAcknowledgement settings answer)
  .call .clock fun now => .ofExcept (acknowledgement command current reference now)

/-- Dry-run then gracefully stop exactly one preconfigured tagged target. -/
def execute : Prog ExecutorReq ExecutorReq.Ans ExecutorError ExecutionAcknowledgement := do
  .ofExcept (checkCommand settings command)
  .call (.describeInstances [settings.instanceId]) fun described => do
  .ofExcept (checkInstance settings described)
  .call .assertWritesEnabled fun enabled => do
  .ofExcept enabled
  .call (.stopInstances [settings.instanceId] true) fun dryRun => do
  .ofExcept (checkDryRun dryRun)
  .call .assertWritesEnabled fun enabled => do
  .ofExcept enabled
  .call (.stopInstances [settings.instanceId] false) (afterMutation settings command)

end Ec2SandboxStopExecutor

/-! ## Gating -/

section Gating

/-- The members of a list, none of anything else. -/
def PyValue.items : PyValue → List PyValue
  | .list items => items
  | _ => []

/-- Every instance record of a `DescribeInstances` response. -/
def describedInstances (response : PyValue) : List PyValue :=
  (response.get "Reservations").items.flatMap fun reservation => (reservation.get "Instances").items

theorem reservedInstances_ok {reservations instances : List PyValue}
    (h : reservedInstances reservations = .ok instances) :
    reservations.flatMap (fun reservation => (reservation.get "Instances").items) = instances := by
  induction reservations generalizing instances with
  | nil =>
    cases h
    rfl
  | cons reservation rest ih =>
    unfold reservedInstances at h
    split at h
    · simp at h
    · split at h
      · next own hown =>
        split at h
        · simp at h
        · cases hrest : reservedInstances rest with
          | error e =>
            rw [hrest] at h
            simp [Except.map] at h
          | ok others =>
            rw [hrest] at h
            obtain rfl : own ++ others = instances := Except.ok.inj h
            rw [List.flatMap_cons, hown, ih hrest]
            rfl
      · simp at h

theorem singleInstance_ok {response instance' : PyValue}
    (h : singleInstance response = .ok instance') : describedInstances response = [instance'] := by
  unfold singleInstance at h
  split at h
  · simp at h
  · split at h
    · next reservations hres =>
      split at h
      · simp at h
      · next only hone =>
        obtain rfl : only = instance' := Except.ok.inj h
        unfold describedInstances
        rw [hres]
        exact reservedInstances_ok hone
      · simp at h
    · simp at h

/-- The value found is that of some tag with the key, unless none has it. -/
theorem tagValue_some {key : String} {tags : List PyValue} {found value : PyValue}
    (h : tagValue key tags found = some value) :
    value = found ∨ ∃ tag ∈ tags, tag.get "Key" = .str key ∧ tag.get "Value" = value := by
  induction tags generalizing found with
  | nil =>
    cases h
    exact .inl rfl
  | cons tag rest ih =>
    unfold tagValue at h
    split at h
    · rcases ih h with rfl | ⟨tag', hmem, hkey, hvalue⟩
      · exact .inl rfl
      · exact .inr ⟨tag', List.mem_cons_of_mem _ hmem, hkey, hvalue⟩
    · split at h
      · simp at h
      · rcases ih h with rfl | ⟨tag', hmem, hkey, hvalue⟩
        · by_cases hkey : (tag.get "Key").isStr key
          · rw [if_pos hkey]
            exact .inr ⟨tag, List.mem_cons_self, PyValue.isStr_iff.1 hkey, rfl⟩
          · rw [if_neg hkey]
            exact .inl rfl
        · exact .inr ⟨tag', List.mem_cons_of_mem _ hmem, hkey, hvalue⟩

namespace Ec2SandboxStopExecutor

variable {settings : SandboxRemediationSettings} {command : StopExecutionCommand}

/-- What has to be true of a command for EC2 to be asked at all. -/
structure InScope (settings : SandboxRemediationSettings) (command : StopExecutionCommand) :
    Prop where
  live : settings.liveExecutionEnabled
  instanceId : command.target.resourceId = settings.instanceId
  region : command.target.region = settings.region
  tagKey : command.target.requiredTagKey = settings.requiredTagKey
  tagValue : command.target.requiredTagValue = settings.requiredTagValue

/-- What a response has to prove of the target. -/
structure Proves (settings : SandboxRemediationSettings) (response : PyValue) : Prop where
  fresh : ∃ instance', describedInstances response = [instance'] ∧
    instance'.get "InstanceId" = .str settings.instanceId ∧
    (instance'.get "State").get "Name" = .str "running" ∧
    instance'.get "RootDeviceType" = .str "ebs" ∧
    ∃ tag ∈ (instance'.get "Tags").items,
      tag.get "Key" = .str settings.requiredTagKey ∧ tag.get "Value" = .str settings.requiredTagValue

theorem checkCommand_ok (h : checkCommand settings command = .ok ()) : InScope settings command := by
  unfold checkCommand at h
  split at h
  · simp at h
  · next hlive =>
    split at h
    · simp at h
    · next hscope =>
      push Not at hscope
      obtain ⟨hid, hregion, hkey, hvalue⟩ := hscope
      exact ⟨by simpa using hlive, hid, hregion, hkey, hvalue⟩

theorem checkInstance_ok {answer : Except Raised PyValue}
    (h : checkInstance settings answer = .ok ()) :
    ∃ response, answer = .ok response ∧ Proves settings response := by
  unfold checkInstance at h
  cases answer with
  | error e =>
    dsimp only at h
    split at h <;> simp at h
  | ok response =>
    refine ⟨response, rfl, ?_⟩
    cases hs : singleInstance response with
    | error e => simp [hs] at h
    | ok instance' =>
      simp only [hs] at h
      split at h
      · simp at h
      · next hid =>
        split at h
        · simp at h
        · next hstate =>
          split at h
          · simp at h
          · next hroot =>
            split at h
            · next tags htags =>
              split at h
              · simp at h
              · next value hvalue =>
                split at h
                · simp at h
                · next hstr =>
                  have hstr : value = .str settings.requiredTagValue :=
                    PyValue.isStr_iff.1 (by simpa using hstr)
                  subst hstr
                  refine ⟨instance', singleInstance_ok hs, PyValue.isStr_iff.1 (by simpa using hid),
                    PyValue.isStr_iff.1 (by simpa using hstate),
                    PyValue.isStr_iff.1 (by simpa using hroot), ?_⟩
                  rcases tagValue_some hvalue with hnone | htag
                  · simp at hnone
                  · rw [htags]
                    exact htag
            · simp at h

theorem checkDryRun_ok {answer : Except Raised PyValue} (h : checkDryRun answer = .ok ()) :
    ∃ refused, answer = .error refused ∧ refused.awsErrorCode = some "DryRunOperation" := by
  unfold checkDryRun at h
  cases answer with
  | ok response => simp at h
  | error refused =>
    refine ⟨refused, rfl, ?_⟩
    dsimp only at h
    split at h
    · simp at h
    · split at h
      · simp at h
      · next hcode => exact not_not.1 hcode

/-- The four answers the mutation waits for. -/
def gates (settings : SandboxRemediationSettings) (response : PyValue) (refused : Raised) :
    List (Exchange ExecutorReq ExecutorReq.Ans) :=
  [⟨.describeInstances [settings.instanceId], .ok response⟩, ⟨.assertWritesEnabled, .ok ()⟩,
    ⟨.stopInstances [settings.instanceId] true, .error refused⟩, ⟨.assertWritesEnabled, .ok ()⟩]

/-- What authorizes the mutation: a command in scope, and the history of this call so far. -/
structure Authorized (settings : SandboxRemediationSettings) (command : StopExecutionCommand)
    (history : List (Exchange ExecutorReq ExecutorReq.Ans)) : Prop where
  inScope : InScope settings command
  gated : ∃ response refused, history = gates settings response refused ∧
    Proves settings response ∧ refused.awsErrorCode = some "DryRunOperation"

/-- A non-DryRun `StopInstances` call. -/
def mutates (e : Exchange ExecutorReq ExecutorReq.Ans) : Bool :=
  match e.1 with
  | .stopInstances _ dryRun => !dryRun
  | _ => false

variable [Sha256] {history : List (Exchange ExecutorReq ExecutorReq.Ans)}
  {p : Prog ExecutorReq ExecutorReq.Ans ExecutorError ExecutionAcknowledgement}

/-- **Every path**: it has not come to the mutation, or went through all gates and only reads the
    clock afterwards. -/
theorem execute_path (h : Path (execute settings command) history p) :
    (history.filter mutates = [] ∧ ∀ ids k, p = .call (.stopInstances ids false) k →
      ids = [settings.instanceId] ∧ Authorized settings command history) ∨
    ∃ before x after, history = before ++ ⟨.stopInstances [settings.instanceId] false, x⟩ :: after ∧
      Authorized settings command before ∧ before.filter mutates = [] ∧
      Path (afterMutation settings command x) after p := by
  have ended : ∀ {e : ExecutorError}, p = .raise e → ∀ ids k, p = .call (.stopInstances ids false) k →
      ids = [settings.instanceId] ∧ Authorized settings command history := by
    intro e hp ids k hk
    rw [hp] at hk
    simp at hk
  unfold execute at h
  rcases Path.ofExcept_bind_iff.1 h with ⟨e, -, rfl, hp⟩ | ⟨⟨⟩, hcommand, h1⟩
  · exact .inl ⟨rfl, ended hp⟩
  rcases Path.call_iff.1 h1 with ⟨rfl, rfl⟩ | ⟨described, l, rfl, h2⟩
  · exact .inl ⟨rfl, by intro ids k hk; simp at hk⟩
  rcases Path.ofExcept_bind_iff.1 h2 with ⟨e, -, rfl, hp⟩ | ⟨⟨⟩, hinstance, h3⟩
  · exact .inl ⟨rfl, ended hp⟩
  rcases Path.call_iff.1 h3 with ⟨rfl, rfl⟩ | ⟨enabled, l, rfl, h4⟩
  · exact .inl ⟨rfl, by intro ids k hk; simp at hk⟩
  rcases Path.ofExcept_bind_iff.1 h4 with ⟨e, -, rfl, hp⟩ | ⟨⟨⟩, rfl, h5⟩
  · exact .inl ⟨rfl, ended hp⟩
  rcases Path.call_iff.1 h5 with ⟨rfl, rfl⟩ | ⟨dryRun, l, rfl, h6⟩
  · exact .inl ⟨rfl, by intro ids k hk; simp at hk⟩
  rcases Path.ofExcept_bind_iff.1 h6 with ⟨e, -, rfl, hp⟩ | ⟨⟨⟩, hdryRun, h7⟩
  · exact .inl ⟨rfl, ended hp⟩
  rcases Path.call_iff.1 h7 with ⟨rfl, rfl⟩ | ⟨enabled, l, rfl, h8⟩
  · exact .inl ⟨rfl, by intro ids k hk; simp at hk⟩
  rcases Path.ofExcept_bind_iff.1 h8 with ⟨e, -, rfl, hp⟩ | ⟨⟨⟩, rfl, h9⟩
  · exact .inl ⟨rfl, ended hp⟩
  obtain ⟨response, rfl, proves⟩ := checkInstance_ok hinstance
  obtain ⟨refused, rfl, code⟩ := checkDryRun_ok hdryRun
  have authorized : Authorized settings command (gates settings response refused) :=
    ⟨checkCommand_ok hcommand, response, refused, rfl, proves, code⟩
  rcases Path.call_iff.1 h9 with ⟨rfl, rfl⟩ | ⟨x, after, rfl, hafter⟩
  · refine .inl ⟨rfl, ?_⟩
    intro ids k hk
    cases hk
    exact ⟨rfl, authorized⟩
  · exact .inr ⟨gates settings response refused, x, after, rfl, authorized, rfl, hafter⟩

/-- After the mutation only the clock is read. -/
theorem afterMutation_path {x : Except Raised PyValue} {after : List (Exchange ExecutorReq ExecutorReq.Ans)}
    (h : Path (afterMutation settings command x) after p) :
    after.filter mutates = [] ∧ ∀ ids k, p ≠ .call (.stopInstances ids false) k := by
  unfold afterMutation at h
  rcases Path.ofExcept_bind_iff.1 h with ⟨e, -, rfl, rfl⟩ | ⟨⟨current, reference⟩, -, hread⟩
  · exact ⟨rfl, by simp⟩
  rcases Path.call_iff.1 hread with ⟨rfl, rfl⟩ | ⟨now, l, rfl, hclock⟩
  · exact ⟨rfl, by simp⟩
  obtain ⟨rfl, rfl⟩ := Path.ofExcept_iff.1 hclock
  refine ⟨rfl, ?_⟩
  cases acknowledgement command current reference now <;> simp

/-- **EC2 executor gating**: whatever EC2 and the emergency control answer, `execute` calls
    `StopInstances` without DryRun at most once, for the configured instance, and only after every
    gate has opened in this call. -/
theorem executor_gated (h : Path (execute settings command) history p) :
    (history.filter mutates).length ≤ 1 ∧
    ∀ before ids x after, history = before ++ ⟨.stopInstances ids false, x⟩ :: after →
      ids = [settings.instanceId] ∧ Authorized settings command before := by
  constructor
  · rcases execute_path h with ⟨hnone, -⟩ | ⟨before, x, after, rfl, -, hnone, hafter⟩
    · rw [hnone]
      exact Nat.zero_le 1
    · rw [List.filter_append, hnone, List.nil_append, List.filter_cons_of_pos rfl,
        (afterMutation_path hafter).1]
      exact le_rfl
  · rintro before ids x after rfl
    obtain ⟨k, hbefore, -⟩ := h.split
    rcases execute_path hbefore with ⟨-, next⟩ | ⟨_, x', after', rfl, -, -, hafter⟩
    · exact next ids k rfl
    · exact absurd rfl ((afterMutation_path hafter).2 ids k)

/-! ## After the mutation -/

/-- An acknowledgement bound to the command, or one of the two typed errors. -/
def Typed (command : StopExecutionCommand) : Except ExecutorError ExecutionAcknowledgement → Prop
  | .ok ack => ack.proposalId = command.proposalId ∧ ack.runId = command.runId ∧
    ack.target = command.target
  | .error (.ambiguous _) | .error (.execution _) => True
  | .error _ => False

/-- The answers that end in a typed outcome.  Once the acknowledged target and its previous state
    are the expected ones, the current state's name has to be hashable, and with a stopping or
    stopped target the request id, where it is a text, one the acknowledgement model takes. -/
def Acknowledgeable (settings : SandboxRemediationSettings) : Except Raised PyValue → Prop
  | .error e => e.class' ≠ .base
  | .ok response => ∀ transition, response.get "StoppingInstances" = .list [transition] →
    transition.get "InstanceId" = .str settings.instanceId →
    (transition.get "PreviousState").get "Name" = .str "running" →
    ((transition.get "CurrentState").get "Name").hashable ∧
    ((transition.get "CurrentState").get "Name" = .str "stopping" ∨
      (transition.get "CurrentState").get "Name" = .str "stopped" →
      ∀ text, (response.get "ResponseMetadata").get "RequestId" = .str text → NonEmptyText text)

omit [Sha256] in
theorem requestReference_all {response : PyValue} : (requestReference response).all NonEmptyText ↔
    ∀ text, (response.get "ResponseMetadata").get "RequestId" = .str text → NonEmptyText text := by
  unfold requestReference
  cases (response.get "ResponseMetadata").get "RequestId" <;> simp

omit [Sha256] in
theorem isMapping_of_get {v w : PyValue} {key : String} (h : v.get key = w) (hw : w ≠ .none) :
    v.isMapping := by
  cases v with
  | dict fields => rfl
  | none | str text | list items | other hashable => exact absurd h.symm hw

/-- What is read of an answer, against the condition on it. -/
def Classifies (settings : SandboxRemediationSettings) (x : Except Raised PyValue) :
    Except ExecutorError ({s : ObservedInstanceState // s = .stopping ∨ s = .stopped} ×
      Option String) → Prop
  | .error (.ambiguous _) | .error (.execution _) => Acknowledgeable settings x
  | .error _ => ¬ Acknowledgeable settings x
  | .ok (_, reference) => (Acknowledgeable settings x ↔ reference.all NonEmptyText)

omit [Sha256] in
theorem readAcknowledgement_spec (x : Except Raised PyValue) :
    Classifies settings x (readAcknowledgement settings x) := by
  cases x with
  | error e =>
    unfold readAcknowledgement
    by_cases hbase : e.class' = .base
    · simp [hbase, Acknowledgeable, Classifies]
    · simp only [hbase, if_false]
      cases e.awsErrorCode with
      | none => exact hbase
      | some code => exact hbase
  | ok response =>
    unfold readAcknowledgement
    dsimp only
    split
    · next hresponse =>
      intro transition htransition
      rw [isMapping_of_get htransition (by simp)] at hresponse
      simp at hresponse
    · split
      · next transition htransition =>
        have only : Acknowledgeable settings (.ok response) ↔
            (transition.get "InstanceId" = .str settings.instanceId →
            (transition.get "PreviousState").get "Name" = .str "running" →
            ((transition.get "CurrentState").get "Name").hashable ∧
            ((transition.get "CurrentState").get "Name" = .str "stopping" ∨
              (transition.get "CurrentState").get "Name" = .str "stopped" →
              (requestReference response).all NonEmptyText)) := by
          simp only [requestReference_all]
          constructor
          · exact fun h => h transition htransition
          · intro h other hother
            obtain rfl : transition = other := by simpa [htransition] using hother
            exact h
        split
        · next htarget =>
          refine only.2 fun hid _ => ?_
          rw [isMapping_of_get hid (by simp), hid] at htarget
          simp [PyValue.isStr] at htarget
        · next htarget =>
          have hid : transition.get "InstanceId" = .str settings.instanceId := by
            push Not at htarget
            exact PyValue.isStr_iff.1 (by simpa using htarget.2)
          split
          · next hprevious =>
            refine only.2 fun _ hrunning => ?_
            rw [hrunning] at hprevious
            simp [PyValue.isStr] at hprevious
          · next hprevious =>
            have hrunning : (transition.get "PreviousState").get "Name" = .str "running" :=
              PyValue.isStr_iff.1 (by simpa using hprevious)
            generalize (transition.get "CurrentState").get "Name" = name at only ⊢
            split
            · next hhash =>
              intro h
              rw [(only.1 h hid hrunning).1] at hhash
              simp at hhash
            · next hhash =>
              have hhash : name.hashable := by simpa using hhash
              split
              · next hname =>
                obtain rfl := PyValue.isStr_iff.1 hname
                exact ⟨fun h => (only.1 h hid hrunning).2 (.inl rfl), fun h =>
                  only.2 fun _ _ => ⟨hhash, fun _ => h⟩⟩
              · next hstopping =>
                split
                · next hname =>
                  obtain rfl := PyValue.isStr_iff.1 hname
                  exact ⟨fun h => (only.1 h hid hrunning).2 (.inr rfl), fun h =>
                    only.2 fun _ _ => ⟨hhash, fun _ => h⟩⟩
                · next hstopped =>
                  refine only.2 fun _ _ => ⟨hhash, ?_⟩
                  rintro (hname | hname)
                  · exact absurd (PyValue.isStr_iff.2 hname) hstopping
                  · exact absurd (PyValue.isStr_iff.2 hname) hstopped
      · next hother =>
        intro transition htransition
        exact absurd htransition (hother transition)

/-- From the mutation's answer on, every outcome is a typed one under the condition, and only then. -/
theorem afterMutation_typed_iff (command : StopExecutionCommand) {x : Except Raised PyValue} :
    (∀ l o, Path (afterMutation settings command x) l (.ofExcept o) → Typed command o) ↔
      Acknowledgeable settings x := by
  have hspec : Classifies settings x _ := readAcknowledgement_spec x
  unfold afterMutation
  cases hread : readAcknowledgement settings x with
  | error e =>
    rw [hread] at hspec
    have ends : (∀ l o, Path (.raise e : Prog ExecutorReq ExecutorReq.Ans ExecutorError
        ExecutionAcknowledgement) l (.ofExcept o) → Typed command o) ↔
        Typed command (.error e) := by
      constructor
      · exact fun h => h [] (.error e) (.nil _)
      · intro h l o hpath
        obtain ⟨-, ho⟩ := Path.raise_iff.1 hpath
        cases o with
        | ok ack => simp at ho
        | error e' =>
          obtain rfl : e' = e := by simpa using ho
          exact h
    refine ends.trans ?_
    cases e with
    | ambiguous m | execution m => exact iff_of_true trivial hspec
    | _ => exact iff_of_false id hspec
  | ok read =>
    obtain ⟨current, reference⟩ := read
    rw [hread] at hspec
    refine Iff.trans ?_ (show Acknowledgeable settings x ↔ _ from hspec).symm
    constructor
    · intro h
      have hended := h [⟨.clock, (0 : Time)⟩] (acknowledgement command current reference 0)
        (.call (.nil _))
      unfold acknowledgement at hended
      split at hended
      · exact hended.elim
      · next hall => simpa using hall
    · intro hall l o hpath
      have hok : ∀ now, ∃ ack, acknowledgement command current reference now = .ok ack ∧
          Typed command (.ok ack) := by
        intro now
        unfold acknowledgement
        rw [if_neg (by simp [hall])]
        exact ⟨_, rfl, rfl, rfl, rfl⟩
      rcases Path.call_iff.1 hpath with ⟨-, ho⟩ | ⟨now, l', -, hclock⟩
      · cases o <;> simp at ho
      · obtain ⟨-, ho⟩ := Path.ofExcept_iff.1 hclock
        obtain ⟨ack, hack, htyped⟩ := hok now
        rw [hack] at ho
        cases o with
        | error e => simp at ho
        | ok ack' =>
          obtain rfl : ack' = ack := by simpa using ho
          exact htyped

/-- **Errors after the mutation are typed**: once the non-DryRun call has been answered, every way
    `execute` goes on ends in an acknowledgement bound to the command or one of the two errors,
    exactly when the answer is acknowledgeable. -/
theorem acknowledgement_typed_iff {ids : List String} {x : Except Raised PyValue}
    (h : Path (execute settings command) (history ++ [⟨.stopInstances ids false, x⟩]) p) :
    (∀ l o, Path p l (.ofExcept o) → Typed command o) ↔ Acknowledgeable settings x := by
  rcases execute_path h with ⟨hnone, -⟩ | ⟨before, x', after, heq, -, -, hafter⟩
  · rw [List.filter_append, List.filter_cons_of_pos rfl] at hnone
    simp at hnone
  · rcases List.eq_nil_or_concat after with rfl | ⟨after, last, rfl⟩
    · obtain ⟨-, heq⟩ := List.append_inj' heq rfl
      cases heq
      obtain rfl := Path.nil_iff.1 hafter
      exact afterMutation_typed_iff command
    · -- the clock is not read before the answer it belongs to
      have heq' : history ++ [⟨.stopInstances ids false, x⟩] =
          (before ++ ⟨.stopInstances [settings.instanceId] false, x'⟩ :: after) ++ [last] := by
        simpa using heq
      obtain ⟨-, hlast⟩ := List.append_inj' heq' rfl
      obtain rfl := List.singleton_inj.1 hlast
      have hnone := (afterMutation_path hafter).1
      rw [List.concat_eq_append, List.filter_append, List.filter_cons_of_pos rfl] at hnone
      simp at hnone

end Ec2SandboxStopExecutor

end Gating

/-! ### A sample call -/

namespace Ec2SandboxStopExecutor

def sampleCommand : StopExecutionCommand :=
  let hash : Sha256Digest := ⟨7⟩
  { proposalId := ⟨1, 1, 1⟩
    runId := ⟨2, 1, 1⟩
    traceId := ⟨3, 1, 1⟩
    correlationId := ⟨4, 1, 1⟩
    action := .stopSandboxInstance
    target := { resourceId := "i-0123456789abcdef0", sandboxScope := "hackathon-sandbox" }
    expectedPrecondition := ⟨.running, 0, hash⟩
    evidenceHash := hash
    approvalRequestHash := hash
    approvalActorSessionId := "human-session-001"
    approvalDecisionNonceHash := hash
    idempotencyKey := "stop:0123456789abcdef"
    issuedAt := 0
    action_eq := rfl
    evidence_eq := rfl }

def sampleSettings : SandboxRemediationSettings :=
  { instanceId := "i-0123456789abcdef0", awsMutationsEnabled := true, allowLiveSandboxStop := true }

/-- Every gate opens. -/
def sampleGates : List (Exchange ExecutorReq ExecutorReq.Ans) :=
  gates sampleSettings
    (.dict [("Reservations", .list [.dict [("Instances", .list [.dict [
      ("InstanceId", .str "i-0123456789abcdef0"), ("State", .dict [("Name", .str "running")]),
      ("RootDeviceType", .str "ebs"),
      ("Tags", .list [.dict [("Key", .str "AIOACloudOpsSandbox"), ("Value", .str "true")]])]])]])])
    { response := .dict [("Error", .dict [("Code", .str "DryRunOperation")])] }

/-- An acknowledgement with the given current state and request id. -/
def sampleAnswer (current requestId : PyValue) : PyValue := .dict [
  ("StoppingInstances", .list [.dict [("InstanceId", .str "i-0123456789abcdef0"),
    ("PreviousState", .dict [("Name", .str "running")]), ("CurrentState", .dict [("Name", current)])]]),
  ("ResponseMetadata", .dict [("RequestId", requestId)])]

theorem sample_path [Sha256] (x : Except Raised PyValue) :
    Path (execute sampleSettings sampleCommand)
      (sampleGates ++ [⟨.stopInstances [sampleSettings.instanceId] false, x⟩])
      (afterMutation sampleSettings sampleCommand x) :=
  .call (.call (.call (.call (.call (.nil _)))))

attribute [local instance] Sha256.standard in
theorem executor_gated_sample : Authorized sampleSettings sampleCommand sampleGates :=
  ((executor_gated (sample_path (.ok (sampleAnswer (.str "stopping") (.str "request-1"))))).2 _ _ _ _
    rfl).2

attribute [local instance] Sha256.standard in
theorem acknowledgement_typed_sample :
    Acknowledgeable sampleSettings (.ok (sampleAnswer (.str "stopping") (.str "request-1"))) ∧
      ∀ l o, Path (afterMutation sampleSettings sampleCommand
        (.ok (sampleAnswer (.str "stopping") (.str "request-1")))) l (.ofExcept o) →
        Typed sampleCommand o := by
  have hanswer : Acknowledgeable sampleSettings
      (.ok (sampleAnswer (.str "stopping") (.str "request-1"))) := by
    intro transition htransition _ _
    obtain rfl : _ = transition := by simpa [sampleAnswer, PyValue.get] using htransition
    refine ⟨rfl, fun _ text htext => ?_⟩
    change PyValue.str "request-1" = .str text at htext
    cases htext
    decide
  exact ⟨hanswer, (acknowledgement_typed_iff (sample_path _)).2 hanswer⟩

attribute [local instance] Sha256.standard in
/-- A current state named by a list, and an empty request id, end in other errors. -/
theorem acknowledgement_untyped :
    (Path (execute sampleSettings sampleCommand) (sampleGates ++ [⟨.stopInstances
        [sampleSettings.instanceId] false, .ok (sampleAnswer (.list []) (.str "request-1"))⟩])
      (.ofExcept (.error .typeError)) ∧ ¬ Typed sampleCommand (.error .typeError)) ∧
    Path (execute sampleSettings sampleCommand) (sampleGates ++ [⟨.stopInstances
        [sampleSettings.instanceId] false, .ok (sampleAnswer (.str "stopping") (.str ""))⟩,
        ⟨.clock, (0 : Time)⟩])
      (.ofExcept (.error .validation)) ∧ ¬ Typed sampleCommand (.error .validation) :=
  ⟨⟨sample_path _, id⟩, .call (.call (.call (.call (.call (.call (.nil _)))))), id⟩

end Ec2SandboxStopExecutor

end CloudOpsAgent
