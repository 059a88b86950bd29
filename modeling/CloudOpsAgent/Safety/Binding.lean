/-
  What equal digests bind.

  A decision is hashed over its request's hash, the request over the proposal's hash, the proposal
  over the action; a receipt over its intent's hash, the intent over the decision's.  Each validator
  recomputes one digest over fields of its own record, and the checkpoint validator compares the
  stored digests.

  1. **Payloads** — every payload is a value `json.dumps` accepts, and its text determines the fields
     it names (`Nz/Encoding`).

  2. **Links** — a `Link` of the chain: its text in a checkpoint, and `NoCollision`, which is all that
     is used of SHA-256.

  3. **The chain** — the validator's comparisons carry an equal digest to the link before, so equal
     decision hashes approve one action (`SameApproval`), and equal receipt hashes belong to one
     intent (`SameExecution`).
-/
import CloudOpsAgent.Nz.Encoding
import CloudOpsAgent.Nz.Sha256
import CloudOpsAgent.Recovery.LocalProgress

namespace CloudOpsAgent

/-! ## Payloads -/

/-- The bindings of a text dictionary come in the order of its keys, each key once. -/
theorem Dict.nodup_toFields {ν : Type} (f : ν → Json) (d : Dict String ν) :
    ((d.toFields f).map Prod.fst).Nodup := by
  have kept (l : List String) : ((l.filterMap fun k => (d.lookup k).map fun v => (k, f v)).map
      Prod.fst).Sublist l := by
    induction l with
    | nil => exact .slnil
    | cons k l ih =>
      cases hk : d.lookup k with
      | none =>
        rw [List.filterMap_cons_none (by rw [hk]; rfl)]
        exact ih.cons k
      | some v =>
        rw [List.filterMap_cons_some (by rw [hk]; rfl)]
        exact ih.cons_cons k
  exact (kept _).nodup (Finset.sort_nodup _ _)

theorem Dict.wellFormed_toFields (d : Dict String String) :
    (Json.obj (d.toFields .str)).wellFormed := by
  refine Json.wellFormed_obj.mpr ⟨d.nodup_toFields _, fun f hf => ?_⟩
  obtain ⟨k, -, hk⟩ := List.mem_filterMap.mp hf
  obtain ⟨v, -, rfl⟩ := Option.map_eq_some_iff.mp hk
  rfl

theorem Json.wellFormed_ofOption {α : Type} {f : α → Json} (hf : ∀ a, (f a).wellFormed)
    (o : Option α) : (Json.ofOption f o).wellFormed := by
  cases o with
  | none => rfl
  | some a => exact hf a

open Json

theorem SecurityGroupRule.wellFormed_toJson (r : SecurityGroupRule) : r.toJson.wellFormed := by
  refine wellFormed_obj.mpr ⟨by simp, ?_⟩
  have hport (o : Option Int) : (ofOption (fun n => int n) o).wellFormed :=
    wellFormed_ofOption (fun _ => rfl) o
  simp only [List.forall_mem_cons, hport]
  exact ⟨rfl, rfl, trivial, trivial, nofun⟩

theorem CloudResource.wellFormed_toJson (r : CloudResource) : r.toJson.wellFormed := by
  have hrules (rules : List SecurityGroupRule) :
      (arr (rules.map SecurityGroupRule.toJson)).wellFormed := by
    refine wellFormed_arr.mpr fun j hj => ?_
    obtain ⟨rule, -, rfl⟩ := List.mem_map.mp hj
    exact rule.wellFormed_toJson
  have htext (o : Option String) : (ofOption str o).wellFormed := wellFormed_ofOption (fun _ => rfl) o
  cases r with
  | ec2 r =>
    refine wellFormed_obj.mpr ⟨by simp, ?_⟩
    simp only [List.forall_mem_cons, r.tags.wellFormed_toFields]
    exact ⟨rfl, rfl, rfl, rfl, rfl, trivial, nofun⟩
  | elasticIp r =>
    refine wellFormed_obj.mpr ⟨by simp, ?_⟩
    simp only [List.forall_mem_cons, r.tags.wellFormed_toFields, htext]
    exact ⟨rfl, rfl, rfl, rfl, trivial, trivial, nofun⟩
  | securityGroup r =>
    refine wellFormed_obj.mpr ⟨by simp, ?_⟩
    simp only [List.forall_mem_cons, r.tags.wellFormed_toFields, hrules]
    exact ⟨rfl, rfl, rfl, rfl, trivial, trivial, trivial, nofun⟩

/-! ### The payloads of the chain -/

/-- The payloads that hold texts, numbers and nothing else. -/
theorem wellFormed_scalars {fields : List (String × Json)} (hkeys : (fields.map Prod.fst).Nodup)
    (h : ∀ f ∈ fields, f.2 matches str _ | int _) : (obj fields).wellFormed := by
  refine wellFormed_obj.mpr ⟨hkeys, fun f hf => ?_⟩
  obtain ⟨k, j⟩ := f
  have hj := h _ hf
  cases j with
  | str s => rfl
  | int i => rfl
  | _ => cases hj

/-- The action of two proposals is one: what `action_payload` names, the authority aside, which the
    operation determines. -/
structure RemediationProposal.SameAction (p p' : RemediationProposal) : Prop where
  operationType : p.operationType = p'.operationType
  targetResourceType : p.targetResourceType = p'.targetResourceType
  targetResourceId : p.targetResourceId = p'.targetResourceId
  normalizedParameters : Same (obj p.normalizedParameters) (obj p'.normalizedParameters)
  evidenceFingerprint : p.evidenceFingerprint = p'.evidenceFingerprint

theorem RemediationProposal.action_inj {p p' : RemediationProposal}
    (hp : (obj p.normalizedParameters).wellFormed) (hp' : (obj p'.normalizedParameters).wellFormed)
    (h : p.actionPayload.dumps = p'.actionPayload.dumps) : p.SameAction p' := by
  have payload {q : RemediationProposal} (hq : (obj q.normalizedParameters).wellFormed) :
      q.actionPayload.wellFormed := by
    refine wellFormed_obj.mpr ⟨by simp, ?_⟩
    simp only [List.forall_mem_cons, hq]
    exact ⟨rfl, rfl, trivial, rfl, rfl, rfl, nofun⟩
  have hsame := dumps_inj (payload hp) (payload hp') h
  replace hsame := values_of_same (by simp only [List.map_cons, List.map_nil]) (by simp) hsame
  simp only [List.map_cons, List.map_nil, List.forall₂_cons] at hsame
  obtain ⟨-, hfingerprint, hparameters, hoperation, hid, htype, -⟩ := hsame
  exact ⟨RemediationOperation.value_inj hoperation, CloudResourceType.value_inj htype, hid,
    hparameters, Sha256Digest.hex_inj hfingerprint⟩

/-- **A decision's text** determines the decision, its time as `isoformat` writes it. -/
theorem LocalApprovalDecisionRecord.payload_inj {a a' : LocalApprovalDecisionRecord}
    (h : a.bindingPayload.dumps = a'.bindingPayload.dumps) :
    a = { a' with decidedAt := a.decidedAt } ∧
      Time.isoformat a.decidedAt = Time.isoformat a'.decidedAt := by
  have payload (q : LocalApprovalDecisionRecord) : q.bindingPayload.wellFormed :=
    wellFormed_scalars (by simp) (by simp)
  have hsame := dumps_inj (payload a) (payload a') h
  replace hsame := values_of_same (by simp only [List.map_cons, List.map_nil]) (by simp) hsame
  simp only [List.map_cons, List.map_nil, List.forall₂_cons] at hsame
  obtain ⟨hsession, htime, hdecision, hnonce, hevidence, hproposal, hid, hversion, hrequest,
    hrequestId, hrun, -⟩ := hsame
  refine ⟨?_, htime⟩
  cases a
  cases a'
  simp only [LocalApprovalDecisionRecord.mk.injEq]
  exact ⟨UUID.str_inj hrequestId, UUID.str_inj hid, UUID.str_inj hrun,
    Sha256Digest.hex_inj hrequest, Sha256Digest.hex_inj hproposal, Sha256Digest.hex_inj hevidence,
    Int.ofNat.inj hversion, ApprovalDecision.value_inj hdecision, hsession,
    Sha256Digest.hex_inj hnonce, trivial⟩

/-- **An intent's text** determines the intent. -/
theorem LocalExecutionIntent.payload_inj {i i' : LocalExecutionIntent}
    (h : i.bindingPayload.dumps = i'.bindingPayload.dumps) :
    i = { i' with registeredAt := i.registeredAt } ∧
      Time.isoformat i.registeredAt = Time.isoformat i'.registeredAt := by
  have payload (q : LocalExecutionIntent) : q.bindingPayload.wellFormed :=
    wellFormed_scalars (by simp) (by simp)
  have hsame := dumps_inj (payload i) (payload i') h
  replace hsame := values_of_same (by simp only [List.map_cons, List.map_nil]) (by simp) hsame
  simp only [List.map_cons, List.map_nil, List.forall₂_cons] at hsame
  obtain ⟨hdecision, hevidence, hkey, hoperation, hproposal, hid, htime, hrun, htarget, htype, -⟩ :=
    hsame
  refine ⟨?_, htime⟩
  cases i
  cases i'
  simp only [LocalExecutionIntent.mk.injEq]
  exact ⟨UUID.str_inj hrun, UUID.str_inj hid, Sha256Digest.hex_inj hproposal,
    Sha256Digest.hex_inj hevidence, Sha256Digest.hex_inj hdecision,
    RemediationOperation.value_inj hoperation, CloudResourceType.value_inj htype, htarget, hkey,
    trivial⟩

/-- What a receipt's hash says of its run and its intent. -/
theorem LocalExecutionReceipt.payload_inj {x x' : LocalExecutionReceipt}
    (h : x.receiptPayload.dumps = x'.receiptPayload.dumps) :
    x.runId = x'.runId ∧ x.intentHash = x'.intentHash := by
  have payload (q : LocalExecutionReceipt) : q.receiptPayload.wellFormed := by
    refine wellFormed_obj.mpr ⟨by simp, ?_⟩
    simp only [List.forall_mem_cons, q.beforeResource.wellFormed_toJson,
      wellFormed_ofOption CloudResource.wellFormed_toJson]
    exact ⟨trivial, trivial, rfl, rfl, rfl, rfl, rfl, rfl, rfl, rfl, rfl, rfl, rfl, nofun⟩
  have hsame := dumps_inj (payload x) (payload x') h
  replace hsame := values_of_same (by simp only [List.map_cons, List.map_nil]) (by simp) hsame
  simp only [List.map_cons, List.map_nil, List.forall₂_cons] at hsame
  obtain ⟨-, -, -, -, -, -, hintent, -, -, -, hrun, -⟩ := hsame
  exact ⟨UUID.str_inj hrun, Sha256Digest.hex_inj hintent⟩

/-! ## Links -/

/-- The links whose digests are compared: an action, a decision on it, an intent under the decision,
    a receipt of the intent. -/
inductive Link where
  | proposal | decision | intent | receipt

section

variable [Sha256]

/-- The text that is hashed for a link. -/
def Checkpoint.linkText (c : Checkpoint) : Link → Option String
  | .proposal => c.remediationProposal.map fun p => p.actionPayload.dumps
  | .decision => c.localApproval.map fun a => a.bindingPayload.dumps
  | .intent => c.localExecutionIntent.map fun i => i.bindingPayload.dumps
  | .receipt => c.localExecutionReceipt.map fun x => x.receiptPayload.dumps

/-- SHA-256 does not confuse two texts that the checkpoints hash for one link. -/
def NoCollision (c₁ c₂ : Checkpoint) : Prop :=
  ∀ link, ∀ t₁ ∈ c₁.linkText link, ∀ t₂ ∈ c₂.linkText link,
    Sha256.hexdigest t₁ = Sha256.hexdigest t₂ → t₁ = t₂

/-- The parameters of the proposal are a dictionary `json.dumps` accepts, without which its
    validator would not have a digest to compare. -/
def Checkpoint.Encodes (c : Checkpoint) : Prop :=
  ∀ p, c.remediationProposal = some p → (obj p.normalizedParameters).wellFormed

/-! ## The chain -/

namespace Checkpoint

variable {c : Checkpoint}

theorem proposal_of_approval {a : LocalApprovalDecisionRecord} (ha : c.localApproval = some a) :
    ∃ p, c.remediationProposal = some p ∧ a.proposalHash = p.proposalHash := by
  obtain ⟨-, -, -, happroval, hrequest⟩ := c.chain
  have hsome : c.remediationProposal.isSome := hrequest (happroval (by rw [ha]; rfl))
  obtain ⟨p, hp⟩ := Option.isSome_iff_exists.mp hsome
  obtain ⟨-, -, hhash, -, -⟩ := approval_bound hp ha
  exact ⟨p, hp, hhash⟩

theorem approval_of_intent {i : LocalExecutionIntent} (hi : c.localExecutionIntent = some i) :
    ∃ a, c.localApproval = some a ∧ i.decisionHash = a.decisionHash := by
  obtain ⟨-, -, -, -, -, -, h, -, -⟩ := CheckpointFields.violation_eq_none _ |>.mp c.valid
  simp only [hi, Option.all_some, CheckpointFields.intentBound] at h
  split at h
  · rename_i p a hp ha
    simp only [Bool.and_eq_true, beq_iff_eq] at h
    obtain ⟨⟨⟨⟨⟨⟨⟨-, hdecision⟩, -⟩, -⟩, -⟩, -⟩, -⟩, -⟩ := h
    exact ⟨a, ha, hdecision⟩
  · cases h

theorem intent_of_receipt {x : LocalExecutionReceipt} (hx : c.localExecutionReceipt = some x) :
    ∃ i, c.localExecutionIntent = some i ∧ x.intentHash = i.intentHash := by
  have h := receipt_bound hx
  unfold CheckpointFields.receiptBound at h
  split at h
  · cases h
  · rename_i i hi
    simp only [Bool.and_eq_true, beq_iff_eq] at h
    obtain ⟨⟨⟨⟨⟨⟨-, hintent⟩, -⟩, -⟩, -⟩, -⟩, -⟩ := h
    exact ⟨i, hi, hintent⟩

end Checkpoint

/-- Two approvals of one action: what was decided, by whom and on which challenge. -/
structure SameApproval (c₁ c₂ : Checkpoint) (a₁ a₂ : LocalApprovalDecisionRecord) : Prop where
  decision : a₁.decision = a₂.decision
  actorSessionId : a₁.actorSessionId = a₂.actorSessionId
  decisionNonceHash : a₁.decisionNonceHash = a₂.decisionNonceHash
  action : ∃ p₁ p₂, c₁.remediationProposal = some p₁ ∧ c₂.remediationProposal = some p₂ ∧
    p₁.SameAction p₂

/-- Two receipts of one execution: one run, one intent, one decision, one action.  A time is known as
    `isoformat` writes it. -/
structure SameExecution (c₁ c₂ : Checkpoint) (x₁ x₂ : LocalExecutionReceipt) : Prop where
  runId : x₁.runId = x₂.runId
  intent : ∃ i₁ i₂, c₁.localExecutionIntent = some i₁ ∧ c₂.localExecutionIntent = some i₂ ∧
    i₁ = { i₂ with registeredAt := i₁.registeredAt } ∧
    Time.isoformat i₁.registeredAt = Time.isoformat i₂.registeredAt
  decision : ∃ a₁ a₂, c₁.localApproval = some a₁ ∧ c₂.localApproval = some a₂ ∧
    a₁ = { a₂ with decidedAt := a₁.decidedAt } ∧
    Time.isoformat a₁.decidedAt = Time.isoformat a₂.decidedAt ∧ SameApproval c₁ c₂ a₁ a₂

section Chain

variable {c₁ c₂ : Checkpoint} (hc₁ : c₁.Encodes) (hc₂ : c₂.Encodes) (hsha : NoCollision c₁ c₂)

include hsha

/-- Equal decision hashes come from one text. -/
theorem decision_text {a₁ a₂ : LocalApprovalDecisionRecord} (ha₁ : c₁.localApproval = some a₁)
    (ha₂ : c₂.localApproval = some a₂) (h : a₁.decisionHash = a₂.decisionHash) :
    a₁ = { a₂ with decidedAt := a₁.decidedAt } ∧
      Time.isoformat a₁.decidedAt = Time.isoformat a₂.decidedAt :=
  LocalApprovalDecisionRecord.payload_inj <|
    hsha .decision _ (by simp [Checkpoint.linkText, ha₁]) _ (by simp [Checkpoint.linkText, ha₂]) h

include hc₁ hc₂

/-- **A decision hash binds** the decision and the action it is on. -/
theorem same_approval {a₁ a₂ : LocalApprovalDecisionRecord} (ha₁ : c₁.localApproval = some a₁)
    (ha₂ : c₂.localApproval = some a₂) (h : a₁.decisionHash = a₂.decisionHash) :
    SameApproval c₁ c₂ a₁ a₂ := by
  obtain ⟨hrecord, -⟩ := decision_text hsha ha₁ ha₂ h
  obtain ⟨p₁, hp₁, hhash₁⟩ := Checkpoint.proposal_of_approval ha₁
  obtain ⟨p₂, hp₂, hhash₂⟩ := Checkpoint.proposal_of_approval ha₂
  have hproposal : p₁.proposalHash = p₂.proposalHash := by
    rw [← hhash₁, ← hhash₂, hrecord]
  have haction : p₁.SameAction p₂ :=
    RemediationProposal.action_inj (hc₁ p₁ hp₁) (hc₂ p₂ hp₂) <| hsha .proposal _
      (by simp [Checkpoint.linkText, hp₁]) _ (by simp [Checkpoint.linkText, hp₂]) hproposal
  refine ⟨?_, ?_, ?_, p₁, p₂, hp₁, hp₂, haction⟩
  · rw [hrecord]
  · rw [hrecord]
  · rw [hrecord]

/-- **A receipt hash binds** the run and, through the intent, everything the decision binds. -/
theorem same_execution {x₁ x₂ : LocalExecutionReceipt} (hx₁ : c₁.localExecutionReceipt = some x₁)
    (hx₂ : c₂.localExecutionReceipt = some x₂) (h : x₁.receiptHash = x₂.receiptHash) :
    SameExecution c₁ c₂ x₁ x₂ := by
  obtain ⟨hrun, hintent⟩ := LocalExecutionReceipt.payload_inj <| hsha .receipt _
    (by simp [Checkpoint.linkText, hx₁]) _ (by simp [Checkpoint.linkText, hx₂]) h
  obtain ⟨i₁, hi₁, hhash₁⟩ := Checkpoint.intent_of_receipt hx₁
  obtain ⟨i₂, hi₂, hhash₂⟩ := Checkpoint.intent_of_receipt hx₂
  rw [hhash₁, hhash₂] at hintent
  obtain ⟨hrecord, htime⟩ := LocalExecutionIntent.payload_inj <| hsha .intent _
    (by simp [Checkpoint.linkText, hi₁]) _ (by simp [Checkpoint.linkText, hi₂]) hintent
  obtain ⟨a₁, ha₁, hdecision₁⟩ := Checkpoint.approval_of_intent hi₁
  obtain ⟨a₂, ha₂, hdecision₂⟩ := Checkpoint.approval_of_intent hi₂
  have hdecision : a₁.decisionHash = a₂.decisionHash := by
    rw [← hdecision₁, ← hdecision₂, hrecord]
  obtain ⟨hsame, hdecided⟩ := decision_text hsha ha₁ ha₂ hdecision
  exact ⟨hrun, ⟨i₁, i₂, hi₁, hi₂, hrecord, htime⟩, a₁, a₂, ha₁, ha₂, hsame, hdecided,
    same_approval hc₁ hc₂ hsha ha₁ ha₂ hdecision⟩

/-- **Approval binding**: two checkpoints with one decision hash approve one action, and two with one
    receipt hash hold receipts of one execution. -/
theorem approval_binding_sound :
    (∀ a₁ a₂, c₁.localApproval = some a₁ → c₂.localApproval = some a₂ →
      a₁.decisionHash = a₂.decisionHash → SameApproval c₁ c₂ a₁ a₂) ∧
    ∀ x₁ x₂, c₁.localExecutionReceipt = some x₁ → c₂.localExecutionReceipt = some x₂ →
      x₁.receiptHash = x₂.receiptHash → SameExecution c₁ c₂ x₁ x₂ :=
  ⟨fun _ _ ha₁ ha₂ h => same_approval hc₁ hc₂ hsha ha₁ ha₂ h,
    fun _ _ hx₁ hx₂ h => same_execution hc₁ hc₂ hsha hx₁ hx₂ h⟩

end Chain

/-! ## A sample execution -/

namespace Sample

/-- The intent to release the address. -/
def localIntent : LocalExecutionIntent where
  runId := uid 1
  proposalId := uid 4
  proposalHash := remediation.proposalHash
  evidenceHash := evidence.evidenceHash
  decisionHash := localDecision.decisionHash
  operationType := .releaseElasticIp
  targetResourceType := .elasticIp
  targetResourceId := "eipalloc-0123456789abcdef0"
  idempotencyKey := "local-exec:" ++ remediation.proposalHash.hex
  registeredAt := 3
  operation_ok := by decide

def localReceipt : LocalExecutionReceipt where
  runId := uid 1
  proposalId := uid 4
  proposalHash := remediation.proposalHash
  evidenceHash := evidence.evidenceHash
  decisionHash := localDecision.decisionHash
  intentHash := localIntent.intentHash
  idempotencyKey := "local-exec:" ++ remediation.proposalHash.hex
  operationType := .releaseElasticIp
  targetResourceType := .elasticIp
  targetResourceId := "eipalloc-0123456789abcdef0"
  beforeResource := address
  executedAt := 4
  target_ok := by decide
  states_ok := by decide

/-- The checkpoint with the receipt. -/
def executedCheckpoint : Checkpoint where
  toCheckpointFields := { approvedCheckpoint.toCheckpointFields with
    localExecutionIntent := some localIntent
    localExecutionReceipt := some localReceipt }
  valid := by
    simp [CheckpointFields.violation, approvedCheckpoint, CheckpointFields.proposalBound,
      CheckpointFields.requestBound, CheckpointFields.approvalBound, CheckpointFields.intentBound,
      CheckpointFields.receiptBound, localReceipt, localIntent, localDecision,
      LocalApprovalDecisionRecord.create, request, remediation, evidence]

/-- A later version of it. -/
def laterCheckpoint : Checkpoint where
  toCheckpointFields := { executedCheckpoint.toCheckpointFields with
    lastSafeState := .successWithEvidence, resumeMetadata := ∅, toolResultHashes := ∅,
    createdAt := 9, version := executedCheckpoint.version + 1 }
  valid := executedCheckpoint.validate_update ∅ ∅ (by decide) 9

theorem executed_encodes : executedCheckpoint.Encodes := by
  intro p hp
  obtain rfl : remediation = p := Option.some.inj hp
  simp [remediation, wellFormed, fieldsWellFormed]

end Sample

end

namespace Sample

attribute [local instance] Sha256.standard

/-- The two versions hold one receipt. -/
theorem approval_binding_sample :
    executedCheckpoint.version = 1 ∧ laterCheckpoint.version = 2 ∧
      SameApproval executedCheckpoint laterCheckpoint localDecision localDecision ∧
      SameExecution executedCheckpoint laterCheckpoint localReceipt localReceipt := by
  have hsha : NoCollision executedCheckpoint laterCheckpoint := by
    intro link t₁ ht₁ t₂ ht₂ _
    have hsame : executedCheckpoint.linkText link = laterCheckpoint.linkText link := by
      cases link <;> rfl
    rw [hsame] at ht₁
    exact Option.mem_unique ht₁ ht₂
  have hlater : laterCheckpoint.Encodes := executed_encodes
  obtain ⟨happroval, hexecution⟩ := approval_binding_sound executed_encodes hlater hsha
  exact ⟨rfl, rfl, happroval _ _ rfl rfl rfl, hexecution _ _ rfl rfl rfl⟩

end Sample

end CloudOpsAgent
