/-
  `LocalMockStateStore`: the persistent mock inventory and its protected execution boundary.

  The inventory file holds two collections, the resources by identity and the receipts by
  idempotency key, and is replaced as a whole: a mutation and its receipt become durable together.
  `execute` either finds the receipt of its intent's key and hands it back, or applies the one action
  the proposal names to exactly the resource the evidence saw.  `verify` reads the inventory again.

  `SecurityGroupRule.model_validate` of the rules a proposal carries is a parameter: which texts
  pydantic and `ipaddress` accept, and in which normal form.
-/
import CloudOpsAgent.Lib.Table
import CloudOpsAgent.Nz.LocalContracts
import Mathlib.Data.List.Dedup

namespace CloudOpsAgent

/-- The identity of a resource. -/
def CloudResource.key (r : CloudResource) : CloudResourceType × String × String :=
  (r.resourceType, r.resourceId, r.region)

/-- The two collections of the inventory file. -/
structure Inventory where
  resources : Table CloudResource.key := ∅
  receipts : Table LocalExecutionReceipt.idempotencyKey := ∅

/-- `_validate_execution_binding`: proposal, evidence, decision and intent are one approved action. -/
def executionBound [Sha256] (p : RemediationProposal) (e : ResourceEvidence)
    (a : LocalApprovalDecisionRecord) (n : LocalExecutionIntent) : Bool :=
  p.authorityClass == .planAndConfirm && a.decision == .approved && p.runId == e.runId &&
    p.correlationId == e.correlationId && p.evidenceHash == e.evidenceHash &&
    p.evidenceFingerprint == e.stableFingerprint && a.proposalId == p.proposalId &&
    a.runId == p.runId && a.proposalHash == p.proposalHash && a.evidenceHash == p.evidenceHash &&
    a.proposalVersion == p.version && n.runId == p.runId && n.proposalId == p.proposalId &&
    n.proposalHash == p.proposalHash && n.evidenceHash == p.evidenceHash &&
    n.decisionHash == a.decisionHash && n.operationType == p.operationType &&
    n.targetResourceType == p.targetResourceType && n.targetResourceId == p.targetResourceId &&
    n.idempotencyKey == "local-exec:" ++ p.proposalHash.hex

/-- `normalized_parameters == {"allocation_id": target_resource_id}`. -/
def releaseParameters (p : RemediationProposal) : Bool :=
  match p.normalizedParameters with
  | [(key, .str id)] => key == "allocation_id" && id == p.targetResourceId
  | _ => false

/-- The raw rules of a proposal whose parameters are exactly a group and its non-empty rule list. -/
def ingressParameters (p : RemediationProposal) : Option (List Json) :=
  match p.normalizedParameters.lookup "security_group_id",
      p.normalizedParameters.lookup "ingress_rules" with
  | some (.str id), some (.arr rules) =>
    if id = p.targetResourceId ∧ rules ≠ [] ∧ p.normalizedParameters.all fun kv =>
        kv.1 == "security_group_id" || kv.1 == "ingress_rules" then some rules
    else none
  | _, _ => none

namespace Inventory

/-- `get_receipt`. -/
def getReceipt (s : Inventory) (key : String) : Option LocalExecutionReceipt := s.receipts.get key

/-- What a group is left with when the approved rules are revoked. -/
def revokedIngress (parse : Json → Option SecurityGroupRule) (p : RemediationProposal)
    (r : SecurityGroupResource) : Except PyExc CloudResource :=
  match ingressParameters p with
  | none => .error .localMockPolicy
  | some raw =>
    match raw.mapM parse with
    | none => .error .localMockPolicy
    | some approved =>
      let remaining := r.inboundRules.filter (· ∉ approved)
      if approved.any (· ∉ r.inboundRules) then .error .localMockConflict
      else if remaining.length ≠ r.inboundRules.length - approved.dedup.length then
        .error .localMockPolicy
      else .ok (.securityGroup { r with inboundRules := remaining })

/-- The resource after the proposal's operation: gone, or with fewer rules. -/
def afterOperation (parse : Json → Option SecurityGroupRule) (p : RemediationProposal)
    (current : CloudResource) : Except PyExc (Option CloudResource) :=
  match p.operationType, current with
  | .releaseElasticIp, .elasticIp r =>
    if r.associationId.isSome ∨ !releaseParameters p then .error .localMockPolicy else .ok none
  | .revokePublicIngress, .securityGroup r => do
    let after ← revokedIngress parse p r
    .ok (some after)
  | _, _ => .error .localMockPolicy

/-- `LocalExecutionReceipt(**values)`, raising its validator's error. -/
def receiptOf [Sha256] (p : RemediationProposal) (a : LocalApprovalDecisionRecord)
    (n : LocalExecutionIntent) (current : CloudResource) (after : Option CloudResource)
    (executedAt : Time) : Except PyExc LocalExecutionReceipt :=
  if ht : current.resourceType = p.targetResourceType ∧ current.resourceId = p.targetResourceId then
    if hs : ReceiptStates p.operationType current after then
      .ok {
        runId := p.runId
        proposalId := p.proposalId
        proposalHash := p.proposalHash
        evidenceHash := p.evidenceHash
        decisionHash := a.decisionHash
        intentHash := n.intentHash
        idempotencyKey := n.idempotencyKey
        operationType := p.operationType
        targetResourceType := p.targetResourceType
        targetResourceId := p.targetResourceId
        beforeResource := current
        afterResource := after
        executedAt := executedAt
        target_ok := ht
        states_ok := hs }
    else .error <| .valueError <| match p.operationType with
      | .releaseElasticIp => "release receipt must prove an unattached address became absent"
      | .revokePublicIngress => "ingress receipt does not prove a bounded rule removal"
      | .applyRequiredTags => "local receipt operation is non-executable"
  else .error (.valueError "local receipt before-resource target does not match")

/-- The file with one resource changed and one receipt added. -/
def mutated (s : Inventory) (current : CloudResource) (after : Option CloudResource)
    (r : LocalExecutionReceipt) : Inventory where
  resources := match after with
    | none => s.resources.erase current.key
    | some resource => s.resources.put resource
  receipts := s.receipts.put r

/-- `execute`: the receipt, whether the action was applied now, and the inventory afterwards. -/
def execute [Sha256] (parse : Json → Option SecurityGroupRule) (s : Inventory)
    (p : RemediationProposal) (e : ResourceEvidence) (a : LocalApprovalDecisionRecord)
    (n : LocalExecutionIntent) (executedAt : Time) :
    Except PyExc (LocalExecutionReceipt × Bool × Inventory) :=
  if !executionBound p e a n then .error .localMockPolicy
  else
    match s.receipts.get n.idempotencyKey with
    | some existing =>
      if existing.intentHash ≠ n.intentHash ∨ existing.proposalHash ≠ p.proposalHash ∨
          existing.decisionHash ≠ a.decisionHash then .error .localMockConflict
      else .ok (existing, false, s)
    | none =>
      match s.resources.get (p.targetResourceType, p.targetResourceId, e.resource.region) with
      | none => .error .localMockConflict
      | some current =>
        if current ≠ e.resource then .error .localMockConflict
        else do
          let after ← afterOperation parse p current
          let receipt ← receiptOf p a n current after executedAt
          .ok (receipt, true, s.mutated current after receipt)

/-- The resource a receipt is about, as the inventory holds it. -/
def observed (s : Inventory) (r : LocalExecutionReceipt) : Option CloudResource :=
  s.resources.get (r.targetResourceType, r.targetResourceId, r.beforeResource.region)

/-- `LocalVerificationEvidence(**values)`, raising its validator's error. -/
def evidenceOf [Sha256] (r : LocalExecutionReceipt) (absent : Bool)
    (observed : Option CloudResource) (verifiedAt : Time) :
    Except PyExc LocalVerificationEvidence :=
  if h : ObservedStates r.operationType r.targetResourceType r.targetResourceId absent observed then
    .ok {
      runId := r.runId
      proposalId := r.proposalId
      receiptHash := r.receiptHash
      operationType := r.operationType
      targetResourceType := r.targetResourceType
      targetResourceId := r.targetResourceId
      observedAbsent := absent
      observedResource := observed
      verifiedAt := verifiedAt
      observed_ok := h }
  else .error <| .valueError <| match r.operationType with
    | .releaseElasticIp => "release verification requires exact target absence"
    | .revokePublicIngress => "ingress verification requires Security Group read-back"
    | .applyRequiredTags => "local verification operation is non-executable"

/-- `verify`: read the inventory independently and bind what is there to the receipt. -/
def verify [Sha256] (s : Inventory) (r : LocalExecutionReceipt) (verifiedAt : Time) :
    Except PyExc LocalVerificationEvidence :=
  if s.receipts.get r.idempotencyKey ≠ some r then .error .localMockConflict
  else
    match r.operationType with
    | .releaseElasticIp =>
      if (s.observed r).isSome then .error .localMockConflict
      else evidenceOf r true (s.observed r) verifiedAt
    | .revokePublicIngress =>
      if s.observed r ≠ r.afterResource then .error .localMockConflict
      else evidenceOf r false (s.observed r) verifiedAt
    | .applyRequiredTags => .error .localMockPolicy

/-! ## What an execution does -/

/-- An operation leaves the identity of what it leaves alone. -/
theorem receiptStates_key {operation : RemediationOperation} {before after : CloudResource}
    (h : ReceiptStates operation before (some after)) : after.key = before.key := by
  cases operation with
  | releaseElasticIp => cases receiptStates_released h
  | revokePublicIngress =>
    obtain ⟨b, a, rfl, ha, hid⟩ := receiptStates_revoked h
    cases ha
    simp only [ReceiptStates, Bool.and_eq_true, beq_iff_eq] at h
    obtain ⟨⟨⟨⟨⟨⟨-, hregion⟩, -⟩, -⟩, -⟩, -⟩, -⟩ := h
    simp [CloudResource.key, CloudResource.resourceType, CloudResource.resourceId,
      CloudResource.region, hid, hregion]
  | applyRequiredTags => simp [ReceiptStates] at h

/-- The check of the two rule lists, where the rest of the group is the same. -/
theorem receiptStates_ingress (before : SecurityGroupResource) {rules : List SecurityGroupRule} :
    ReceiptStates .revokePublicIngress (.securityGroup before)
        (some (.securityGroup { before with inboundRules := rules })) ↔
      rules.Sublist before.inboundRules ∧ rules.length < before.inboundRules.length := by
  simp only [ReceiptStates, beq_self_eq_true, Bool.true_and, Bool.and_eq_true, decide_eq_true_eq,
    orderedSubset_iff]
  exact and_comm

/-- Approved rules are rules of the group, at least one: what is left is shorter, in its order. -/
theorem revokedIngress_ok {parse : Json → Option SecurityGroupRule} {p : RemediationProposal}
    {g : SecurityGroupResource} {after : CloudResource} (h : revokedIngress parse p g = .ok after) :
    ∃ approved : List SecurityGroupRule, after = .securityGroup
        { g with inboundRules := g.inboundRules.filter (· ∉ approved) } ∧
      (g.inboundRules.filter (· ∉ approved)).Sublist g.inboundRules ∧
      (g.inboundRules.filter (· ∉ approved)).length < g.inboundRules.length := by
  unfold revokedIngress at h
  split at h
  · cases h
  rename_i raw hraw
  have hne : raw ≠ [] := by
    unfold ingressParameters at hraw
    split at hraw
    · split at hraw
      · next hparameters =>
        obtain rfl := Option.some.inj hraw
        exact hparameters.2.1
      · cases hraw
    · cases hraw
  split at h
  · cases h
  rename_i approved happroved
  dsimp only at h
  split at h
  · cases h
  rename_i hmissing
  split at h
  · cases h
  refine ⟨approved, (Except.ok.inj h).symm, List.filter_sublist, ?_⟩
  -- the first approved rule is one of the group's, and is filtered out
  obtain ⟨rule, rest, rfl⟩ : ∃ rule rest, approved = rule :: rest := by
    cases approved with
    | cons rule rest => exact ⟨rule, rest, rfl⟩
    | nil =>
      cases raw with
      | nil => exact absurd rfl hne
      | cons first raw =>
        rw [List.mapM_cons] at happroved
        simp [Option.bind_eq_some_iff] at happroved
  have hmem : rule ∈ g.inboundRules := by
    by_contra hnot
    exact hmissing (List.any_eq_true.2 ⟨rule, List.mem_cons_self .., decide_eq_true hnot⟩)
  exact List.length_filter_lt_length_iff_exists.2 ⟨rule, hmem, by simp⟩

theorem afterOperation_error {parse : Json → Option SecurityGroupRule} {p : RemediationProposal}
    {current : CloudResource} {e : PyExc} (h : afterOperation parse p current = .error e) :
    e = .localMockPolicy ∨ e = .localMockConflict := by
  unfold afterOperation at h
  split at h
  · split at h
    · exact .inl (Except.error.inj h).symm
    · cases h
  · rename_i g _
    cases hrevoked : revokedIngress parse p g with
    | ok resource =>
      rw [hrevoked] at h
      cases h
    | error x =>
      rw [hrevoked] at h
      obtain rfl : x = e := Except.error.inj h
      unfold revokedIngress at hrevoked
      split at hrevoked
      · exact .inl (Except.error.inj hrevoked).symm
      split at hrevoked
      · exact .inl (Except.error.inj hrevoked).symm
      dsimp only at hrevoked
      split at hrevoked
      · exact .inr (Except.error.inj hrevoked).symm
      split at hrevoked
      · exact .inl (Except.error.inj hrevoked).symm
      · cases hrevoked
  · exact .inl (Except.error.inj h).symm

variable [Sha256] {parse : Json → Option SecurityGroupRule} {s s' : Inventory}
  {p : RemediationProposal} {e : ResourceEvidence} {a : LocalApprovalDecisionRecord}
  {n : LocalExecutionIntent} {t : Time} {r : LocalExecutionReceipt} {applied : Bool}

/-- The receipt of an action applied now. -/
structure Receipts (p : RemediationProposal) (a : LocalApprovalDecisionRecord)
    (n : LocalExecutionIntent) (current : CloudResource) (r : LocalExecutionReceipt) : Prop where
  runId : r.runId = p.runId
  proposalId : r.proposalId = p.proposalId
  proposalHash : r.proposalHash = p.proposalHash
  decisionHash : r.decisionHash = a.decisionHash
  intentHash : r.intentHash = n.intentHash
  key : r.idempotencyKey = n.idempotencyKey
  before : r.beforeResource = current

theorem receiptOf_ok {current : CloudResource} {after : Option CloudResource}
    (h : receiptOf p a n current after t = .ok r) :
    Receipts p a n current r ∧ r.afterResource = after := by
  unfold receiptOf at h
  split at h
  · split at h
    · cases h
      exact ⟨⟨rfl, rfl, rfl, rfl, rfl, rfl, rfl⟩, rfl⟩
    · cases h
  · cases h

/-- **An execution** is bound to its approval, and replays the receipt of its key or, there being
    none, applies the action to the resource its evidence saw. -/
theorem execute_ok (h : s.execute parse p e a n t = .ok (r, applied, s')) :
    executionBound p e a n ∧
      (applied = false ∧ s' = s ∧ s.receipts.get n.idempotencyKey = some r ∨
        applied = true ∧ s.receipts.get n.idempotencyKey = none ∧
          s.resources.get e.resource.key = some e.resource ∧
          afterOperation parse p e.resource = .ok r.afterResource ∧
          Receipts p a n e.resource r ∧ s' = s.mutated e.resource r.afterResource r) := by
  unfold execute at h
  split at h
  · cases h
  rename_i hbound
  have hbound : executionBound p e a n = true := by simpa using hbound
  refine ⟨hbound, ?_⟩
  split at h
  · rename_i existing hget
    split at h
    · cases h
    · cases h
      exact .inl ⟨rfl, rfl, hget⟩
  · rename_i hnone
    split at h
    · cases h
    rename_i current hcur
    split at h
    · cases h
    rename_i hsame
    obtain rfl : current = e.resource := not_not.mp hsame
    simp only [bind, Except.bind] at h
    split at h
    · cases h
    rename_i after hafter
    split at h
    · cases h
    rename_i receipt hreceipt
    cases h
    obtain ⟨hr, rfl⟩ := receiptOf_ok hreceipt
    refine .inr ⟨rfl, hnone, ?_, hafter, hr, rfl⟩
    rw [Table.key_of_get hcur, hcur]

/-- Receipts are never lost, and the one returned is there. -/
theorem execute_receipts (h : s.execute parse p e a n t = .ok (r, applied, s')) :
    s.receipts.Evolves Eq s'.receipts ∧ s'.receipts.get r.idempotencyKey = some r := by
  obtain ⟨-, ⟨-, rfl, hget⟩ | ⟨-, hnone, -, -, hr, rfl⟩⟩ := execute_ok h
  · have hkey := Table.key_of_get hget
    exact ⟨.refl (fun _ => rfl) _, by rw [hkey, hget]⟩
  · refine ⟨Table.evolves_put (fun _ => rfl) fun w hw => ?_, Table.get_put_self _ _⟩
    rw [hr.key, hnone] at hw
    cases hw

/-- What was not applied has not changed the inventory; what was applied has. -/
theorem execute_changes (h : s.execute parse p e a n t = .ok (r, applied, s')) :
    applied = true ↔ s' ≠ s := by
  obtain ⟨-, ⟨rfl, rfl, -⟩ | ⟨rfl, hnone, -, -, hr, rfl⟩⟩ := execute_ok h
  · simp
  · refine iff_of_true rfl fun heq => ?_
    have hget : (s.mutated e.resource r.afterResource r).receipts.get r.idempotencyKey = some r :=
      Table.get_put_self _ _
    rw [heq, hr.key, hnone] at hget
    cases hget

/-- An action that can be taken on the resource the evidence saw, with no receipt under its key. -/
theorem execute_applies {after : Option CloudResource} (hbound : executionBound p e a n)
    (hnone : s.receipts.get n.idempotencyKey = none)
    (hget : s.resources.get e.resource.key = some e.resource)
    (htarget : e.resource.resourceType = p.targetResourceType ∧
      e.resource.resourceId = p.targetResourceId)
    (hafter : afterOperation parse p e.resource = .ok after)
    (hstates : ReceiptStates p.operationType e.resource after) (t : Time) :
    ∃ x, x.afterResource = after ∧
      s.execute parse p e a n t = .ok (x, true, s.mutated e.resource after x) := by
  have hkey : (p.targetResourceType, p.targetResourceId, e.resource.region) = e.resource.key := by
    rw [← htarget.1, ← htarget.2]
    rfl
  obtain ⟨x, hx, hxafter⟩ : ∃ x, receiptOf p a n e.resource after t = .ok x ∧
      x.afterResource = after := by
    unfold receiptOf
    rw [dif_pos htarget, dif_pos hstates]
    exact ⟨_, rfl, rfl⟩
  refine ⟨x, hxafter, ?_⟩
  simp only [execute, hbound, hnone, hkey, hget, hafter, hx, bind, Except.bind, Bool.not_true,
    Bool.false_eq_true, if_false, ne_eq, not_true]

/-- An action that cannot be taken there. -/
theorem execute_refuses {x : PyExc} (hbound : executionBound p e a n)
    (hnone : s.receipts.get n.idempotencyKey = none)
    (hget : s.resources.get e.resource.key = some e.resource)
    (htarget : e.resource.resourceType = p.targetResourceType ∧
      e.resource.resourceId = p.targetResourceId)
    (hafter : afterOperation parse p e.resource = .error x) (t : Time) :
    s.execute parse p e a n t = .error x := by
  have hkey : (p.targetResourceType, p.targetResourceId, e.resource.region) = e.resource.key := by
    rw [← htarget.1, ← htarget.2]
    rfl
  simp only [execute, hbound, hnone, hkey, hget, hafter, bind, Except.bind, Bool.not_true,
    Bool.false_eq_true, if_false, ne_eq, not_true]

/-- Once executed, an action is only replayed, at any time. -/
theorem execute_again (h : s.execute parse p e a n t = .ok (r, applied, s')) (t' : Time) :
    s'.execute parse p e a n t' = .ok (r, false, s') := by
  obtain ⟨hbound, hcases⟩ := execute_ok h
  have hpass : ¬ (!executionBound p e a n) = true := by simp [hbound]
  rcases hcases with ⟨-, rfl, hget⟩ | ⟨-, -, -, -, hr, rfl⟩
  · unfold execute at h ⊢
    rw [if_neg hpass, hget] at h ⊢
    dsimp only at h ⊢
    split at h
    · simp at h
    · next hown => rw [if_neg hown]
  · have hget : (s.mutated e.resource r.afterResource r).receipts.get n.idempotencyKey = some r :=
      hr.key ▸ Table.get_put_self _ _
    unfold execute
    rw [if_neg hpass, hget]
    dsimp only
    rw [if_neg (by simp [hr.intentHash, hr.proposalHash, hr.decisionHash])]

/-- The resource the evidence saw is the one the proposal names. -/
theorem execute_target (h : s.execute parse p e a n t = .ok (r, true, s')) :
    e.resource.key = (p.targetResourceType, p.targetResourceId, e.resource.region) := by
  unfold execute at h
  split at h
  · simp at h
  split at h
  · split at h <;> simp at h
  · split at h
    · simp at h
    · next current hcur =>
      split at h
      · simp at h
      · next hsame =>
        obtain rfl : current = e.resource := not_not.mp hsame
        exact Table.key_of_get hcur

/-- An applied action changes its target and adds the receipt of its key. -/
theorem execute_frame (h : s.execute parse p e a n t = .ok (r, true, s')) :
    (∀ key ≠ (p.targetResourceType, p.targetResourceId, e.resource.region),
      s'.resources.get key = s.resources.get key) ∧
    s.receipts.get n.idempotencyKey = none ∧
    ∀ key, s'.receipts.get key = if key = n.idempotencyKey then some r else s.receipts.get key := by
  obtain ⟨-, ⟨hfalse, -⟩ | ⟨-, hnone, -, -, hr, rfl⟩⟩ := execute_ok h
  · simp at hfalse
  refine ⟨?_, hnone, ?_⟩
  · intro key hkey
    rw [← execute_target h] at hkey
    have hstates := r.states_ok
    unfold mutated
    cases hafter : r.afterResource with
    | none => exact Table.get_erase_of_ne _ hkey
    | some after =>
      rw [hafter, hr.before] at hstates
      exact Table.get_put_of_ne _ (receiptStates_key hstates ▸ hkey)
  · intro key
    rw [← hr.key]
    exact Table.get_put _ _ _

/-! ## What a verification needs -/

/-- The proof that a read-back found what the receipt says. -/
structure Verifies (r : LocalExecutionReceipt) (v : LocalVerificationEvidence) : Prop where
  runId : v.runId = r.runId
  proposalId : v.proposalId = r.proposalId
  receiptHash : v.receiptHash = r.receiptHash
  operation : v.operationType = r.operationType
  targetType : v.targetResourceType = r.targetResourceType
  targetId : v.targetResourceId = r.targetResourceId
  observed : v.observedResource = r.afterResource

theorem evidenceOf_ok {absent : Bool} {seen : Option CloudResource}
    (h : ObservedStates r.operationType r.targetResourceType r.targetResourceId absent seen)
    (hseen : seen = r.afterResource) (verifiedAt : Time) :
    ∃ v, evidenceOf r absent seen verifiedAt = .ok v ∧ Verifies r v ∧ v.verifiedAt = verifiedAt := by
  unfold evidenceOf
  rw [dif_pos h]
  exact ⟨_, rfl, ⟨rfl, rfl, rfl, rfl, rfl, rfl, hseen⟩, rfl⟩

/-- **A verification** succeeds where the receipt is durable and its target is as it left it. -/
theorem verify_of_unchanged (hget : s.receipts.get r.idempotencyKey = some r)
    (hafter : s.observed r = r.afterResource) (verifiedAt : Time) :
    ∃ v, s.verify r verifiedAt = .ok v ∧ Verifies r v ∧ v.verifiedAt = verifiedAt := by
  have hstates := r.states_ok
  obtain ⟨htype, hid⟩ := r.target_ok
  unfold verify
  rw [if_neg (not_not.mpr hget)]
  cases hop : r.operationType with
  | releaseElasticIp =>
    -- the address is gone
    have hnone : r.afterResource = none := receiptStates_released (hop ▸ hstates)
    dsimp only
    rw [hafter, hnone, if_neg (by simp)]
    exact evidenceOf_ok (by rw [hop]; rfl) hnone.symm verifiedAt
  | revokePublicIngress =>
    -- the group is there, with the rules it was left with
    obtain ⟨before, after, hb, ha, hsame⟩ := receiptStates_revoked (hop ▸ hstates)
    dsimp only
    rw [hafter, if_neg (not_not.mpr rfl)]
    refine evidenceOf_ok ?_ rfl verifiedAt
    rw [hop, ha, ← htype, ← hid, hb]
    simp [ObservedStates, CloudResource.resourceType, CloudResource.resourceId, hsame]
  | applyRequiredTags =>
    rw [hop] at hstates
    simp [ReceiptStates] at hstates

end Inventory

end CloudOpsAgent
