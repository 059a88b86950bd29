/-
  From the inventory to a proposal, and back: `QueryResource` classifies a resource, `PlanRemediation`
  derives the one action its findings permit, and `LocalMockStateStore.execute` carries it out.

  Each of the three decides by itself what an unsafe ingress rule is.  The query asks whether there is
  one, the planner lists every occurrence, and the executor removes the rules listed but counts them
  without repetition.  For a group that lists an unsafe rule twice the counts differ, and the
  executor refuses the planner's proposal (`planner_executor_agree_iff`).

  1. **Querying** and **planning** — the two services on the inventory.
     The planner's model output is what the planner uses of it: whether it is a valid candidate, and
     which candidates it equals.

  2. **What each decides** — one lemma a resource kind.

  3. **Agreement**.
-/
import CloudOpsAgent.Cloudops.LocalMock
import CloudOpsAgent.Nz.Isoformat
import CloudOpsAgent.Nz.Sha256

namespace CloudOpsAgent

/-! ## Querying -/

def REQUIRED_EC2_TAGS : List String := ["Environment", "Owner"]

namespace QueryResource

/-- `_findings`, of which there is always one. -/
def finding : CloudResource → CloudFinding
  | .elasticIp r => if r.associationId.isNone then .unattachedElasticIp else .clean
  | .securityGroup r =>
    if r.inboundRules.any (·.cidrIpv4 = "0.0.0.0/0") then .overlyPermissiveIngress else .clean
  | .ec2 r => if REQUIRED_EC2_TAGS.all (· ∈ r.tags) then .clean else .requiredTagsMissing

/-- The sorted field names of a dumped resource. -/
def observedFields : CloudResourceType → List String
  | .ec2Instance => ["instance_type", "region", "resource_id", "resource_type", "state", "tags"]
  | .elasticIp => ["association_id", "public_ip", "region", "resource_id", "resource_type", "tags"]
  | .securityGroup => ["inbound_rules", "outbound_rules", "region", "resource_id", "resource_type",
      "tags", "vpc_id"]

theorem observedFields_ok (t : CloudResourceType) :
    observedFields t ≠ [] ∧ (observedFields t).Pairwise (· < ·) := by
  cases t <;> decide

/-- `ResourceEvidence.create` on what was read. -/
def evidenceOf (resource : CloudResource) (run : Run) (observedAt : Time) : ResourceEvidence where
  runId := run.runId
  traceId := run.traceId
  correlationId := run.correlationId
  resource := resource
  findings := [finding resource]
  provenance :=
    { runId := run.runId
      traceId := run.traceId
      correlationId := run.correlationId
      adapter := "persistent-local-mock-aws"
      resourceType := resource.resourceType
      resourceId := resource.resourceId
      observedFields := observedFields resource.resourceType
      observedAt := observedAt
      fields_ok := observedFields_ok resource.resourceType }
  observedAt := observedAt
  binding := ⟨rfl, rfl, rfl, rfl, rfl, rfl⟩
  findings_ok := by
    refine ⟨by simp, fun h => ?_, by simp⟩
    rw [List.mem_singleton.mp h]

/-- `execute`, over the adapter of a readable inventory. -/
def execute (s : Inventory) (query : CloudResourceType × String × String) (run : Run)
    (observedAt : Time) : ControlResult ResourceEvidence :=
  match s.resources.get query with
  | none => .failed ⟨.notFound, "RESOURCE_NOT_FOUND", "Requested resource was not found", false⟩
  | some resource => .succeeded (evidenceOf resource run observedAt)

end QueryResource

/-! ## Planning -/

inductive PlanDisposition where
  | noAction | proposal | nonExecutableRecommendation
  deriving DecidableEq

/-- Strict untrusted model output. -/
structure ModelPlanCandidate where
  disposition : PlanDisposition
  operationType : Option RemediationOperation := none
  targetResourceType : Option CloudResourceType := none
  targetResourceId : Option String := none
  normalizedParameters : Option (List (String × Json)) := none
  claimedAuthority : Option AuthorityGate := none

/-- The rules of a group that are open to everyone. -/
def SecurityGroupResource.unsafeRules (r : SecurityGroupResource) : List SecurityGroupRule :=
  r.inboundRules.filter (·.cidrIpv4 = "0.0.0.0/0")

/-- `canonical_model_candidate`: the only candidate that evidence and policy permit. -/
def canonicalModelCandidate (e : ResourceEvidence) : Except PyExc ModelPlanCandidate :=
  match e.findings with
  | [.clean] => .ok { disposition := .noAction }
  | [.unattachedElasticIp] => .ok
    { disposition := .proposal
      operationType := some .releaseElasticIp
      targetResourceType := some .elasticIp
      targetResourceId := some e.resource.resourceId
      normalizedParameters := some [("allocation_id", .str e.resource.resourceId)]
      claimedAuthority := some .planAndConfirm }
  | [.overlyPermissiveIngress] =>
    match e.resource with
    | .securityGroup r =>
      if r.unsafeRules = [] then
        .error (.valueError "security-group finding has no observed unsafe rule")
      else .ok
        { disposition := .proposal
          operationType := some .revokePublicIngress
          targetResourceType := some .securityGroup
          targetResourceId := some r.resourceId
          normalizedParameters := some [
            ("ingress_rules", .arr (r.unsafeRules.map SecurityGroupRule.toJson)),
            ("security_group_id", .str r.resourceId)]
          claimedAuthority := some .planAndConfirm }
    | _ => .error (.valueError "security-group finding requires security-group evidence")
  | [.requiredTagsMissing] =>
    match e.resource with
    | .ec2 r => .ok
      { disposition := .nonExecutableRecommendation
        operationType := some .applyRequiredTags
        targetResourceType := some .ec2Instance
        targetResourceId := some r.resourceId
        normalizedParameters := some [("tags", .obj
          ((REQUIRED_EC2_TAGS.filter (· ∉ r.tags)).map fun key =>
            (key, .str (if key = "Environment" then "hackathon" else "platform"))))]
        claimedAuthority := some .neverAutonomous }
    | _ => .error (.valueError "tag finding requires EC2 evidence")
  | _ => .error (.valueError "resource findings do not have a supported remediation policy")

/-- `RemediationProposal.create`, raising its validator's errors. -/
def RemediationProposal.create [Sha256] (proposalId : UUID) (evidence : ResourceEvidence)
    (operationType : RemediationOperation) (parameters : List (String × Json))
    (authority : AuthorityGate) (riskSummary : String) (createdAt expiresAt : Time) :
    Except PyExc RemediationProposal :=
  if hparams : parameters ≠ [] then
    if htype : evidence.resource.resourceType = operationType.policy.1 then
      if hauthority : authority = operationType.policy.2 then
        if hexpires : createdAt < expiresAt then .ok
          { proposalId := proposalId
            runId := evidence.runId
            correlationId := evidence.correlationId
            operationType := operationType
            targetResourceType := evidence.resource.resourceType
            targetResourceId := evidence.resource.resourceId
            normalizedParameters := parameters
            authorityClass := authority
            evidenceHash := evidence.evidenceHash
            evidenceFingerprint := evidence.stableFingerprint
            riskSummary := riskSummary
            createdAt := createdAt
            expiresAt := expiresAt
            policy_ok := ⟨htype, hauthority⟩
            expires_later := hexpires
            parameters_ok := hparams
            version_pos := Nat.zero_lt_one }
        else .error (.valueError "expires_at must be later than created_at")
      else .error (.valueError "operation_type does not match local authority policy")
    else .error (.valueError "operation_type does not match target_resource_type")
  else .error (.valueError "normalized_parameters")

/-- Explicit proposal, clean result, or non-executable recommendation. -/
structure RemediationPlan where
  disposition : PlanDisposition
  evidenceHash : Sha256Digest
  proposal : Option RemediationProposal := none
  reason : String

/-- The first check of `validate_disposition` that fails. -/
def RemediationPlan.violation (plan : RemediationPlan) : Option String :=
  match plan.disposition, plan.proposal with
  | .noAction, some _ => some "NO_ACTION cannot contain a proposal"
  | .noAction, none => none
  | _, none => some "proposal dispositions require a typed proposal"
  | disposition, some p =>
    if p.evidenceHash ≠ plan.evidenceHash then
      some "plan and proposal evidence hashes must match"
    else if disposition = .proposal ∧ p.authorityClass ≠ .planAndConfirm then
      some "executable proposal data requires PLAN_AND_CONFIRM"
    else if disposition = .nonExecutableRecommendation ∧ p.authorityClass ≠ .neverAutonomous then
      some "recommendation requires NEVER_AUTONOMOUS"
    else none

/-- `RemediationPlan(…)`. -/
def RemediationPlan.validated (plan : RemediationPlan) : Except PyExc (ControlResult RemediationPlan) :=
  match plan.violation with
  | some message => .error (.valueError message)
  | none => .ok (.succeeded plan)

namespace PlanRemediation

def failed (kind : FailureKind) (code message : String) :
    Except PyExc (ControlResult RemediationPlan) := .ok (.failed ⟨kind, code, message, false⟩)

def risk : RemediationOperation → String
  | .releaseElasticIp => "Releasing an address is destructive and requires exact human approval"
  | .revokePublicIngress =>
    "Changing ingress can disrupt access and requires exact human approval"
  | .applyRequiredTags =>
    "Tag mutation is recommendation-only under the current hard policy"

/-- A model output: no text, no valid candidate, or a candidate that equals some candidates. -/
inductive ModelOutput where
  | blank
  | invalid
  | candidate (equals : ModelPlanCandidate → Bool)

def execute [Sha256] (e : ResourceEvidence) (output : ModelOutput) (proposalId : UUID)
    (createdAt : Time) : Except PyExc (ControlResult RemediationPlan) :=
  match output with
  | .blank => failed .validationFailure "MODEL_PLAN_INVALID" "Model plan output must be non-empty JSON"
  | .invalid =>
    failed .validationFailure "MODEL_PLAN_INVALID" "Model plan output failed strict validation"
  | .candidate equals =>
    match canonicalModelCandidate e with
    | .error _ => failed .policyDenial "REMEDIATION_POLICY_UNSUPPORTED"
        "Observed findings are outside the local remediation policy"
    | .ok expected =>
      if !equals expected then failed .policyDenial "MODEL_PLAN_POLICY_MISMATCH"
        "Model plan does not match evidence-bound local policy"
      else if expected.disposition = .noAction then
        ({ disposition := .noAction
           evidenceHash := e.evidenceHash
           reason := "Resource is compliant; no remediation is warranted" } :
          RemediationPlan).validated
      else match expected.operationType, expected.normalizedParameters, expected.claimedAuthority with
        | some operation, some parameters, some authority =>
          if Time.datetimeMax < createdAt + seconds 86400 then .error (.other "OverflowError")
          else match RemediationProposal.create proposalId e operation parameters authority
              (risk operation) createdAt (createdAt + seconds 86400) with
            | .error _ => failed .validationFailure "PROPOSAL_CONTRACT_INVALID"
                "Evidence-bound proposal failed canonical validation"
            | .ok proposal =>
              ({ disposition := expected.disposition
                 evidenceHash := e.evidenceHash
                 proposal := some proposal
                 reason := risk operation } : RemediationPlan).validated
        | _, _, _ => failed .policyDenial "REMEDIATION_POLICY_INCOMPLETE"
            "Local remediation policy did not resolve exact action data"

end PlanRemediation

/-! ## What each decides -/

section

variable [Sha256] {e : ResourceEvidence} {p : RemediationProposal} {plan : RemediationPlan}
  {output : PlanRemediation.ModelOutput} {proposalId : UUID} {t : Time}

/-- A proposal of the planner: what it takes from the evidence, and from the canonical candidate. -/
structure Plans (e : ResourceEvidence) (p : RemediationProposal) : Prop where
  runId : p.runId = e.runId
  correlationId : p.correlationId = e.correlationId
  evidenceHash : p.evidenceHash = e.evidenceHash
  fingerprint : p.evidenceFingerprint = e.stableFingerprint
  target : e.resource.resourceType = p.targetResourceType ∧
    e.resource.resourceId = p.targetResourceId
  gate : p.authorityClass = .planAndConfirm
  action : ∃ candidate, canonicalModelCandidate e = .ok candidate ∧
    candidate.disposition = .proposal ∧ candidate.operationType = some p.operationType ∧
    candidate.normalizedParameters = some p.normalizedParameters

theorem RemediationProposal.create_ok {operation : RemediationOperation}
    {parameters : List (String × Json)} {authority : AuthorityGate} {risk : String} {t' : Time}
    (h : RemediationProposal.create proposalId e operation parameters authority risk t t' = .ok p) :
    p.runId = e.runId ∧ p.correlationId = e.correlationId ∧ p.evidenceHash = e.evidenceHash ∧
    p.evidenceFingerprint = e.stableFingerprint ∧ p.targetResourceType = e.resource.resourceType ∧
    p.targetResourceId = e.resource.resourceId ∧ p.operationType = operation ∧
    p.normalizedParameters = parameters := by
  unfold RemediationProposal.create at h
  split at h
  · split at h
    · split at h
      · split at h
        · obtain rfl := Except.ok.inj h
          exact ⟨rfl, rfl, rfl, rfl, rfl, rfl, rfl, rfl⟩
        · simp at h
      · simp at h
    · simp at h
  · simp at h

omit [Sha256] in
theorem RemediationPlan.validated_ok {plan' : RemediationPlan}
    (h : plan'.validated = .ok (.succeeded plan)) : plan' = plan ∧ plan.violation = none := by
  unfold RemediationPlan.validated at h
  split at h
  · simp at h
  · next hnone =>
    obtain rfl : plan' = plan := by simpa using h
    exact ⟨rfl, hnone⟩

theorem PlanRemediation.execute_plans (h : execute e output proposalId t = .ok (.succeeded plan))
    (hd : plan.disposition = .proposal) (hp : plan.proposal = some p) : Plans e p := by
  unfold execute at h
  cases output with
  | blank => simp [failed] at h
  | invalid => simp [failed] at h
  | candidate equals =>
    dsimp only at h
    cases hc : canonicalModelCandidate e with
    | error x => simp [hc, failed] at h
    | ok expected =>
      rw [hc] at h
      dsimp only at h
      split at h
      · simp [failed] at h
      · split at h
        · obtain ⟨rfl, -⟩ := RemediationPlan.validated_ok h
          simp at hd
        · split at h
          · next operation parameters authority hop hparams hauth =>
            split at h
            · simp at h
            · split at h
              · simp [failed] at h
              · next proposal hcreate =>
                obtain ⟨rfl, hvalid⟩ := RemediationPlan.validated_ok h
                obtain rfl : proposal = p := Option.some.inj hp
                obtain ⟨h1, h2, h3, h4, h5, h6, h7, h8⟩ := RemediationProposal.create_ok hcreate
                refine ⟨h1, h2, h3, h4, ⟨h5.symm, h6.symm⟩, ?_, expected, hc, hd, ?_, ?_⟩
                · dsimp only at hd
                  by_contra hgate
                  simp [RemediationPlan.violation, hd, hgate, h3] at hvalid
                · rw [h7, hop]
                · rw [h8, hparams]
          · simp [failed] at h

/-! ### Addresses -/

section

variable {r : ElasticIpResource} {run : Run}

theorem Plans.elasticIp (h : Plans (QueryResource.evidenceOf (.elasticIp r) run t) p) :
    r.associationId = none ∧ p.operationType = .releaseElasticIp ∧
      p.normalizedParameters = [("allocation_id", .str r.resourceId)] := by
  obtain ⟨candidate, hc, hd, hop, hparams⟩ := h.action
  unfold canonicalModelCandidate QueryResource.evidenceOf QueryResource.finding at hc
  by_cases hnone : r.associationId.isNone
  · simp only [hnone, if_true] at hc
    obtain rfl := Except.ok.inj hc
    exact ⟨by simpa using hnone, (Option.some.inj hop).symm, (Option.some.inj hparams).symm⟩
  · simp only [hnone] at hc
    obtain rfl := Except.ok.inj hc
    simp at hd

/-- The release is always possible. -/
theorem Plans.release (parse : Json → Option SecurityGroupRule)
    (h : Plans (QueryResource.evidenceOf (.elasticIp r) run t) p) :
    Inventory.afterOperation parse p (.elasticIp r) = .ok none ∧
      ReceiptStates p.operationType (.elasticIp r) none := by
  obtain ⟨hnone, hop, hparams⟩ := h.elasticIp
  have hid : p.targetResourceId = r.resourceId := h.target.2.symm
  rw [hop]
  refine ⟨?_, by simp [ReceiptStates, hnone]⟩
  unfold Inventory.afterOperation releaseParameters
  simp [hop, hnone, hparams, hid]

end

/-! ### Groups -/

section

variable {g : SecurityGroupResource} {run : Run} {parse : Json → Option SecurityGroupRule}

theorem Plans.securityGroup (h : Plans (QueryResource.evidenceOf (.securityGroup g) run t) p) :
    g.unsafeRules ≠ [] ∧ p.operationType = .revokePublicIngress ∧
      p.normalizedParameters = [("ingress_rules", .arr (g.unsafeRules.map SecurityGroupRule.toJson)),
        ("security_group_id", .str g.resourceId)] := by
  obtain ⟨candidate, hc, hd, hop, hparams⟩ := h.action
  unfold canonicalModelCandidate QueryResource.evidenceOf QueryResource.finding at hc
  by_cases hany : g.inboundRules.any (·.cidrIpv4 = "0.0.0.0/0")
  · simp only [hany, if_true] at hc
    split at hc
    · simp at hc
    · next hne =>
      obtain rfl := Except.ok.inj hc
      exact ⟨hne, (Option.some.inj hop).symm, (Option.some.inj hparams).symm⟩
  · simp only [hany] at hc
    obtain rfl := Except.ok.inj hc
    simp at hd

/-- The group without the rules open to everyone. -/
def SecurityGroupResource.closed (g : SecurityGroupResource) : SecurityGroupResource :=
  { g with inboundRules := g.inboundRules.filter (·.cidrIpv4 ≠ "0.0.0.0/0") }

/-- What the validators of a rule accept, besides its ports' order: a text for the protocol, and
    port numbers. -/
def SecurityGroupRule.Accepted (r : SecurityGroupRule) : Prop :=
  NonEmptyText r.ipProtocol ∧ (∀ n ∈ r.fromPort, n ≤ 65535) ∧ ∀ n ∈ r.toPort, n ≤ 65535

/-- `SecurityGroupRule.model_validate` gives back an accepted rule open to everyone, from its dump. -/
def ReadsBack (parse : Json → Option SecurityGroupRule) : Prop :=
  ∀ r : SecurityGroupRule, r.Accepted → r.cidrIpv4 = "0.0.0.0/0" → parse r.toJson = some r

omit [Sha256] in
theorem unsafe_of_mem {rule : SecurityGroupRule} (h : rule ∈ g.unsafeRules) :
    rule ∈ g.inboundRules ∧ rule.cidrIpv4 = "0.0.0.0/0" := by
  simpa [SecurityGroupResource.unsafeRules] using h

omit [Sha256] in
theorem mapM_unsafeRules (hparse : ReadsBack parse) (hrules : ∀ rule ∈ g.inboundRules, rule.Accepted) :
    (g.unsafeRules.map SecurityGroupRule.toJson).mapM parse = some g.unsafeRules := by
  have key : ∀ rules : List SecurityGroupRule, (∀ rule ∈ rules, parse rule.toJson = some rule) →
      (rules.map SecurityGroupRule.toJson).mapM parse = some rules := by
    intro rules hrules
    induction rules with
    | nil => rfl
    | cons rule rest ih =>
      rw [List.map_cons, List.mapM_cons, hrules rule (by simp),
        ih fun rule' h => hrules rule' (by simp [h])]
      rfl
  refine key _ fun rule h => ?_
  obtain ⟨hmem, hcidr⟩ := unsafe_of_mem h
  exact hparse rule (hrules rule hmem) hcidr

omit [Sha256] in
/-- What is left when the unsafe rules are taken out is the closed group's list. -/
theorem remaining_eq : g.inboundRules.filter (· ∉ g.unsafeRules) = g.closed.inboundRules := by
  refine List.filter_congr fun rule hmem => ?_
  simp [SecurityGroupResource.unsafeRules, hmem]

omit [Sha256] in
/-- The executor's count: distinct rules against rules. -/
theorem count_iff : g.closed.inboundRules.length = g.inboundRules.length - g.unsafeRules.dedup.length ↔
    g.unsafeRules.Nodup := by
  have hsum : g.inboundRules.length = g.unsafeRules.length + g.closed.inboundRules.length := by
    rw [List.length_eq_length_filter_add (fun rule : SecurityGroupRule =>
      decide (rule.cidrIpv4 = "0.0.0.0/0"))]
    simp [SecurityGroupResource.unsafeRules, SecurityGroupResource.closed]
  have hle := (List.dedup_sublist g.unsafeRules).length_le
  rw [← List.dedup_eq_self]
  constructor
  · intro h
    exact (List.dedup_sublist _).eq_of_length (by omega)
  · intro h
    rw [h]
    omega

/-- The executor takes the proposal, or finds it ambiguous. -/
theorem Plans.revoke (h : Plans (QueryResource.evidenceOf (.securityGroup g) run t) p)
    (hparse : ReadsBack parse) (hrules : ∀ rule ∈ g.inboundRules, rule.Accepted) :
    Inventory.afterOperation parse p (.securityGroup g) =
      if g.unsafeRules.Nodup then .ok (some (.securityGroup g.closed))
      else .error .localMockPolicy := by
  obtain ⟨hne, hop, hparams⟩ := h.securityGroup
  have hid : p.targetResourceId = g.resourceId := h.target.2.symm
  have hingress : ingressParameters p = some (g.unsafeRules.map SecurityGroupRule.toJson) := by
    unfold ingressParameters
    rw [hparams]
    simp [List.lookup_cons, hid, hne]
  have hpresent : g.unsafeRules.any (· ∉ g.inboundRules) = false := by
    simp only [List.any_eq_false, decide_eq_true_eq, not_not]
    exact fun rule hmem => (unsafe_of_mem hmem).1
  unfold Inventory.afterOperation Inventory.revokedIngress
  simp only [hop, hingress, mapM_unsafeRules hparse hrules, hpresent, Bool.false_eq_true, if_false,
    remaining_eq]
  by_cases hnodup : g.unsafeRules.Nodup
  · rw [if_pos hnodup, if_neg (not_not.mpr (count_iff.2 hnodup))]
    rfl
  · rw [if_neg hnodup, if_pos fun hcount => hnodup (count_iff.1 hcount)]
    rfl

/-- The closed group is what a revocation receipt has to prove. -/
theorem Plans.revoke_states (h : Plans (QueryResource.evidenceOf (.securityGroup g) run t) p) :
    ReceiptStates p.operationType (.securityGroup g) (some (.securityGroup g.closed)) := by
  obtain ⟨hne, hop, -⟩ := h.securityGroup
  have hsub : g.closed.inboundRules.Sublist g.inboundRules := List.filter_sublist
  have hlt : g.closed.inboundRules.length < g.inboundRules.length := by
    refine lt_of_le_of_ne hsub.length_le fun heq => ?_
    obtain ⟨rule, hmem⟩ := List.exists_mem_of_ne_nil _ hne
    obtain ⟨hrule, hcidr⟩ := unsafe_of_mem hmem
    have := List.length_filter_eq_length_iff.1 heq rule hrule
    simp [hcidr] at this
  rw [hop]
  simp only [ReceiptStates, orderedSubset_iff.2 hsub, hlt, decide_true, Bool.and_true]
  simp [SecurityGroupResource.closed]

end

/-- Only a resource with a finding is planned for, and never an instance. -/
theorem Plans.finding {resource : CloudResource} {run : Run}
    (h : Plans (QueryResource.evidenceOf resource run t) p) :
    QueryResource.finding resource ≠ .clean ∧ resource.resourceType ≠ .ec2Instance := by
  cases resource with
  | ec2 r =>
    obtain ⟨candidate, hc, hd, -⟩ := h.action
    unfold canonicalModelCandidate QueryResource.evidenceOf QueryResource.finding at hc
    by_cases htags : REQUIRED_EC2_TAGS.all (· ∈ r.tags)
    · simp only [htags, if_true] at hc
      obtain rfl := Except.ok.inj hc
      simp at hd
    · simp only [htags] at hc
      obtain rfl := Except.ok.inj hc
      simp at hd
  | elasticIp r => simp [QueryResource.finding, h.elasticIp.1, CloudResource.resourceType]
  | securityGroup g =>
    obtain ⟨rule, hmem⟩ := List.exists_mem_of_ne_nil _ h.securityGroup.1
    obtain ⟨hrule, hcidr⟩ := unsafe_of_mem hmem
    have hany : g.inboundRules.any (·.cidrIpv4 = "0.0.0.0/0") := by
      simp only [List.any_eq_true, decide_eq_true_eq]
      exact ⟨rule, hrule, hcidr⟩
    simp [QueryResource.finding, hany, CloudResource.resourceType]

omit [Sha256] in
/-- A closed group is clean. -/
theorem finding_closed {g : SecurityGroupResource} :
    QueryResource.finding (.securityGroup g.closed) = .clean := by
  simp [QueryResource.finding, SecurityGroupResource.closed]

/-! ## Agreement -/

/-- An approval that matches a proposal. -/
structure Approves (p : RemediationProposal) (a : LocalApprovalDecisionRecord) : Prop where
  decision : a.decision = .approved
  proposalId : a.proposalId = p.proposalId
  runId : a.runId = p.runId
  proposalHash : a.proposalHash = p.proposalHash
  evidenceHash : a.evidenceHash = p.evidenceHash
  version : a.proposalVersion = p.version

/-- Executing the proposal succeeds: it leaves every other resource as it is, and a group with all
    its fields but the rules open to everyone; and the resource, queried again by any run, has no
    finding left. -/
def CarriedOut (parse : Json → Option SecurityGroupRule) (inv : Inventory) (p : RemediationProposal)
    (e : ResourceEvidence) (a : LocalApprovalDecisionRecord) (n : LocalExecutionIntent) (t : Time) :
    Prop :=
  ∃ x applied inv', inv.execute parse p e a n t = .ok (x, applied, inv') ∧
    (∀ key ≠ e.resource.key, inv'.resources.get key = inv.resources.get key) ∧
    (∀ g, e.resource = .securityGroup g →
      inv'.resources.get e.resource.key = some (.securityGroup g.closed)) ∧
    ∀ run t' e', QueryResource.execute inv' e.resource.key run t' = .succeeded e' →
      e'.findings = [.clean]

variable {a : LocalApprovalDecisionRecord} {n : LocalExecutionIntent}

theorem Plans.bound (h : Plans e p) (ha : Approves p a)
    (hn : LocalExecutionIntent.create p a t = .ok n) : executionBound p e a n := by
  obtain ⟨h1, h2, h3, h4, h5, h6⟩ := ha
  unfold LocalExecutionIntent.create at hn
  split at hn
  · simp at hn
  · split at hn
    · simp at hn
    · split at hn
      · obtain rfl := Except.ok.inj hn
        simp [executionBound, h.gate, h.runId, h.correlationId, h.evidenceHash, h.fingerprint, h1, h2,
          h3, h4, h5, h6]
      · simp at hn

/-- With the key free, a proposal is carried out if its operation can be. -/
theorem Plans.carriedOut {parse : Json → Option SecurityGroupRule} {inv : Inventory}
    {after : Option CloudResource} (h : Plans e p) (hbound : executionBound p e a n)
    (hnone : inv.receipts.get n.idempotencyKey = none)
    (hget : inv.resources.get e.resource.key = some e.resource)
    (hafter : Inventory.afterOperation parse p e.resource = .ok after)
    (hstates : ReceiptStates p.operationType e.resource after)
    (hgroup : ∀ g, e.resource = .securityGroup g → after = some (.securityGroup g.closed))
    (hclean : ∀ r ∈ after, QueryResource.finding r = .clean) (t : Time) :
    CarriedOut parse inv p e a n t := by
  obtain ⟨x, rfl, hx⟩ := Inventory.execute_applies hbound hnone hget h.target hafter hstates t
  have hnow : (inv.mutated e.resource x.afterResource x).resources.get e.resource.key =
      x.afterResource := by
    unfold Inventory.mutated
    cases hx : x.afterResource with
    | none => exact Table.get_erase_self _ _
    | some r =>
      rw [hx] at hstates
      rw [← Inventory.receiptStates_key hstates]
      exact Table.get_put_self _ _
  refine ⟨x, true, _, hx, ?_, ?_, ?_⟩
  · intro key hkey
    refine (Inventory.execute_frame hx).1 key ?_
    rwa [← Inventory.execute_target hx]
  · intro g hg
    rw [hnow, hgroup g hg]
  · intro run t' e' he'
    unfold QueryResource.execute at he'
    rw [hnow] at he'
    cases hr : x.afterResource with
    | none =>
      rw [hr] at he'
      simp at he'
    | some r =>
      rw [hr] at he'
      obtain rfl : QueryResource.evidenceOf r run t' = e' := by simpa using he'
      exact congrArg (fun f => [f]) (hclean r hr)

/-- A receipt under the key means that nothing is changed now. -/
theorem Plans.not_carriedOut {parse : Json → Option SecurityGroupRule} {inv : Inventory}
    {resource : CloudResource} {run : Run} {t₀ : Time} {existing : LocalExecutionReceipt}
    (h : Plans (QueryResource.evidenceOf resource run t₀) p)
    (hget : inv.resources.get resource.key = some resource)
    (hsome : inv.receipts.get n.idempotencyKey = some existing) (t : Time) :
    ¬ CarriedOut parse inv p (QueryResource.evidenceOf resource run t₀) a n t := by
  rintro ⟨x, applied, inv', hx, -, -, hquery⟩
  obtain ⟨-, ⟨-, rfl, -⟩ | ⟨-, hnone, -⟩⟩ := Inventory.execute_ok hx
  · have hagain : QueryResource.execute inv' resource.key run t₀ =
        .succeeded (QueryResource.evidenceOf resource run t₀) := by
      unfold QueryResource.execute
      rw [hget]
    have hclean := hquery run t₀ _ hagain
    exact h.finding.1 (List.singleton_inj.1 hclean)
  · rw [hsome] at hnone
    simp at hnone

/-- The canonical output is planned for, wherever there is a finding to act on. -/
theorem PlanRemediation.execute_canonical {candidate : ModelPlanCandidate}
    {operation : RemediationOperation} {parameters : List (String × Json)} {authority : AuthorityGate}
    (hc : canonicalModelCandidate e = .ok candidate) (hd : candidate.disposition = .proposal)
    (hop : candidate.operationType = some operation)
    (hparams : candidate.normalizedParameters = some parameters) (hne : parameters ≠ [])
    (hauth : candidate.claimedAuthority = some authority)
    (hpolicy : e.resource.resourceType = operation.policy.1 ∧ authority = operation.policy.2)
    (hgate : authority = .planAndConfirm) (proposalId : UUID) {t : Time}
    (ht : t + seconds 86400 ≤ Time.datetimeMax) :
    ∃ plan p, execute e (.candidate fun _ => true) proposalId t = .ok (.succeeded plan) ∧
      plan.disposition = .proposal ∧ plan.proposal = some p ∧ p.operationType = operation := by
  have hexpires : t < t + seconds 86400 := Nat.lt_add_of_pos_right (by decide)
  have hcreate : ∃ p, RemediationProposal.create proposalId e operation parameters authority
      (risk operation) t (t + seconds 86400) = .ok p ∧ p.authorityClass = authority := by
    unfold RemediationProposal.create
    rw [dif_pos hne, dif_pos hpolicy.1, dif_pos hpolicy.2, dif_pos hexpires]
    exact ⟨_, rfl, rfl⟩
  obtain ⟨p, hp, hclass⟩ := hcreate
  obtain ⟨-, -, hhash, -, -, -, hoperation, -⟩ := RemediationProposal.create_ok hp
  refine ⟨⟨.proposal, e.evidenceHash, some p, risk operation⟩, p, ?_, rfl, rfl, hoperation⟩
  unfold execute
  simp only [hc, hd, hop, hparams, hauth, Nat.not_lt.mpr ht, hp, Bool.not_true, Bool.false_eq_true,
    if_false, reduceCtorEq]
  unfold RemediationPlan.validated
  simp only [RemediationPlan.violation, hhash, hclass, hgate, ne_eq, not_true, and_false, if_false,
    reduceCtorEq, false_and]

/-- A proposal can be approved, and its approval turned into an intent. -/
theorem RemediationProposal.approvable (hop : p.operationType ≠ .applyRequiredTags) (t : Time) :
    ∃ a n, Approves p a ∧ LocalExecutionIntent.create p a t = .ok n := by
  let a : LocalApprovalDecisionRecord :=
    { requestId := p.proposalId
      proposalId := p.proposalId
      runId := p.runId
      requestHash := p.proposalHash
      proposalHash := p.proposalHash
      evidenceHash := p.evidenceHash
      proposalVersion := p.version
      decision := .approved
      actorSessionId := "operator"
      decisionNonceHash := p.evidenceHash
      decidedAt := t
      version_pos := p.version_pos }
  refine ⟨a, ?_⟩
  unfold LocalExecutionIntent.create
  rw [if_neg (by simp [a]), if_neg (by simp [a]), dif_pos hop]
  exact ⟨_, ⟨rfl, rfl, rfl, rfl, rfl, rfl⟩, rfl⟩

end

/-! ### Two sample groups -/

namespace PlanningSample

/-- The port numbers of a dumped rule. -/
def port? : Json → Option (Option Nat)
  | .null => some none
  | .int n => if 0 ≤ n ∧ n ≤ 65535 then some (some n.toNat) else none
  | _ => none

/-- The validation of dumped rules, with the one network the samples use. -/
def readRule : Json → Option SecurityGroupRule
  | .obj [("ip_protocol", .str protocol), ("cidr_ipv4", .str cidr), ("from_port", lo),
      ("to_port", hi)] =>
    match port? lo, port? hi with
    | some lo, some hi =>
      if h : NonEmptyText protocol ∧ cidr = "0.0.0.0/0" ∧
          if protocol = "-1" then lo = none ∧ hi = none else ∃ a ∈ lo, ∃ b ∈ hi, a ≤ b then
        some ⟨protocol, cidr, lo, hi, h.2.2⟩
      else none
    | _, _ => none
  | _ => none

theorem port?_dump {port : Option Nat} (h : ∀ n ∈ port, n ≤ 65535) :
    port? (.ofOption (fun n => .int n) port) = some port := by
  cases port with
  | none => rfl
  | some n =>
    have hn := h n rfl
    show (if (0 : Int) ≤ n ∧ (n : Int) ≤ 65535 then some (some (n : Int).toNat) else none) = _
    rw [if_pos (by omega)]
    rfl

theorem readsBack : ReadsBack readRule := by
  rintro ⟨protocol, cidr, lo, hi, hports⟩ ⟨htext, hlo, hhi⟩ rfl
  simp only [SecurityGroupRule.toJson, readRule, port?_dump hlo, port?_dump hhi]
  rw [dif_pos ⟨htext, trivial, hports⟩]

/-- Everyone may reach a port. -/
def openPort (n : Nat) : SecurityGroupRule :=
  ⟨"tcp", "0.0.0.0/0", some n, some n, by simp⟩

def group (rules : List SecurityGroupRule) : SecurityGroupResource :=
  { resourceId := "sg-0123456789abcdef0", region := "eu-central-1", vpcId := "vpc-0123456789abcdef0",
    inboundRules := rules, outboundRules := [], tags := ∅ }

def inventory (rules : List SecurityGroupRule) : Inventory :=
  { resources := (∅ : Table CloudResource.key).put (.securityGroup (group rules)) }

def run : Run :=
  ⟨⟨1, 1, 1⟩, ⟨2, 1, 1⟩, ⟨3, 1, 1⟩, "request", .received, 0, 0,
    ⟨10, 1000, 60, 0, 0, 0, by decide, by decide⟩, 1, by decide, by decide⟩

/-- What the query finds. -/
def evidence (rules : List SecurityGroupRule) : ResourceEvidence :=
  QueryResource.evidenceOf (.securityGroup (group rules)) run 0

theorem query_evidence (rules : List SecurityGroupRule) :
    QueryResource.execute (inventory rules) (CloudResource.securityGroup (group rules)).key run 0 =
      .succeeded (evidence rules) := by
  unfold QueryResource.execute inventory
  rw [Table.get_put_self]
  rfl

/-- The whole way from an inventory to an intent, for a group with an open port first. -/
theorem planned [Sha256] (n : Nat) (rules : List SecurityGroupRule) :
    ∃ plan p a i, PlanRemediation.execute (evidence (openPort n :: rules)) (.candidate fun _ => true)
        ⟨4, 1, 1⟩ 0 = .ok (.succeeded plan) ∧ plan.disposition = .proposal ∧
      plan.proposal = some p ∧ Approves p a ∧ LocalExecutionIntent.create p a 1 = .ok i := by
  have hfinding : (evidence (openPort n :: rules)).findings = [.overlyPermissiveIngress] := by
    simp [evidence, QueryResource.evidenceOf, QueryResource.finding, group, openPort]
  have hne : (group (openPort n :: rules)).unsafeRules ≠ [] := by
    simp [SecurityGroupResource.unsafeRules, group, openPort]
  have hc : canonicalModelCandidate (evidence (openPort n :: rules)) = .ok
      { disposition := .proposal
        operationType := some .revokePublicIngress
        targetResourceType := some .securityGroup
        targetResourceId := some "sg-0123456789abcdef0"
        normalizedParameters := some [("ingress_rules", .arr
          ((group (openPort n :: rules)).unsafeRules.map SecurityGroupRule.toJson)),
          ("security_group_id", .str "sg-0123456789abcdef0")]
        claimedAuthority := some .planAndConfirm } := by
    unfold canonicalModelCandidate
    rw [hfinding]
    exact if_neg hne
  obtain ⟨plan, p, hplan, hd, hp, hop⟩ := PlanRemediation.execute_canonical hc rfl rfl rfl (by simp)
    rfl ⟨rfl, rfl⟩ rfl ⟨4, 1, 1⟩ (t := 0) (by decide)
  obtain ⟨a, i, ha, hi⟩ := RemediationProposal.approvable (p := p) (by simp [hop]) 1
  exact ⟨plan, p, a, i, hplan, hd, hp, ha, hi⟩

theorem accepted {rules : List SecurityGroupRule} (h : ∀ rule ∈ rules, rule.Accepted) :
    ∀ g, (inventory rules).resources.get (CloudResource.securityGroup (group rules)).key =
      some (.securityGroup g) → ∀ rule ∈ g.inboundRules, rule.Accepted := by
  intro g hg
  unfold inventory at hg
  rw [Table.get_put_self] at hg
  cases hg
  exact h

theorem openPort_accepted {n : Nat} (h : n ≤ 65535) : (openPort n).Accepted := by
  refine ⟨show NonEmptyText "tcp" by decide, fun m hm => ?_, fun m hm => ?_⟩
  · obtain rfl : n = m := by simpa [openPort] using hm
    exact h
  · obtain rfl : n = m := by simpa [openPort] using hm
    exact h

end PlanningSample

end CloudOpsAgent
