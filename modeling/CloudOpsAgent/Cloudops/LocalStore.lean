/-
  `LocalMockStateStore.execute` on its file.

  Every call works on collections it has just read (the file's, or those of a new inventory as long
  as there is no file), and the one write comes last: whatever is raised before it leaves the file
  alone, and a write that fails has replaced the file completely or not at all.

  1. **The file** — its faults, and `execute` with its steps in the order of the source.

  2. **What one call does** (`execute_eq`) — `Inventory.execute` on what was read, then the write.

  3. **Frame, replay, and runs** (`execute_atomic`).
-/
import CloudOpsAgent.Cloudops.LocalMock

namespace CloudOpsAgent

/-! ## The file -/

/-- What may go wrong with the file during one call.  A failed write may have replaced it. -/
inductive FileFault where
  | unreadable
  | writeFailed (replaced : Bool)
  deriving DecidableEq

/-- The store: the resources a new inventory begins with, and the file once there is one. -/
structure LocalMockStateStore where
  initialResources : Table CloudResource.key
  file : Option Inventory := none

/-- The arguments of one `execute`, and what happens to the file meanwhile. -/
structure MockCall where
  proposal : RemediationProposal
  evidence : ResourceEvidence
  approval : LocalApprovalDecisionRecord
  intent : LocalExecutionIntent
  executedAt : Time
  fault : Option FileFault := none

/-- The identity of the resource a call is about. -/
def MockCall.target (c : MockCall) : CloudResourceType × String × String :=
  (c.proposal.targetResourceType, c.proposal.targetResourceId, c.evidence.resource.region)

namespace LocalMockStateStore

/-- `_load`, of a readable file. -/
def load (s : LocalMockStateStore) : Inventory := s.file.getD { resources := s.initialResources }

/-- `_write`. -/
def write (s : LocalMockStateStore) (i : Inventory) (fault : Option FileFault) :
    Except PyExc Unit × LocalMockStateStore :=
  match fault with
  | some (.writeFailed true) => (.error .cloudAdapterUnavailable, { s with file := some i })
  | some (.writeFailed false) => (.error .cloudAdapterUnavailable, s)
  | _ => (.ok (), { s with file := some i })

variable [Sha256]

def execute (parse : Json → Option SecurityGroupRule) (s : LocalMockStateStore) (c : MockCall) :
    Except PyExc (LocalExecutionReceipt × Bool) × LocalMockStateStore :=
  if !executionBound c.proposal c.evidence c.approval c.intent then (.error .localMockPolicy, s)
  else if c.fault = some .unreadable then (.error .cloudAdapterUnavailable, s)
  else
    let resources := s.load.resources
    let receipts := s.load.receipts
    match receipts.get c.intent.idempotencyKey with
    | some existing =>
      if existing.intentHash ≠ c.intent.intentHash ∨
          existing.proposalHash ≠ c.proposal.proposalHash ∨
          existing.decisionHash ≠ c.approval.decisionHash then (.error .localMockConflict, s)
      else (.ok (existing, false), s)
    | none =>
      match resources.get c.target with
      | none => (.error .localMockConflict, s)
      | some current =>
        if current ≠ c.evidence.resource then (.error .localMockConflict, s)
        else match Inventory.afterOperation parse c.proposal current with
          | .error e => (.error e, s)
          | .ok after =>
            let resources := match after with
              | none => resources.erase current.key
              | some resource => resources.put resource
            match Inventory.receiptOf c.proposal c.approval c.intent current after c.executedAt with
            | .error e => (.error e, s)
            | .ok receipt =>
              let written := s.write ⟨resources, receipts.put receipt⟩ c.fault
              (written.1.map fun _ => (receipt, true), written.2)

/-- A sequence of calls, whatever each of them returns. -/
def executeAll (parse : Json → Option SecurityGroupRule) (s : LocalMockStateStore) :
    List MockCall → LocalMockStateStore
  | [] => s
  | c :: rest => (s.execute parse c).2.executeAll parse rest

/-! ## One call -/

variable {parse : Json → Option SecurityGroupRule} {s s' : LocalMockStateStore} {c : MockCall}
  {r : LocalExecutionReceipt} {applied : Bool}

/-- `Inventory.execute` on the collections a call reads. -/
def onLoaded (parse : Json → Option SecurityGroupRule) (s : LocalMockStateStore) (c : MockCall) :
    Except PyExc (LocalExecutionReceipt × Bool × Inventory) :=
  s.load.execute parse c.proposal c.evidence c.approval c.intent c.executedAt

/-- **A call** is the inventory's `execute` on what it reads, and the write if something changed. -/
theorem execute_eq : s.execute parse c =
    if executionBound c.proposal c.evidence c.approval c.intent ∧ c.fault = some .unreadable then
      (.error .cloudAdapterUnavailable, s)
    else match s.onLoaded parse c with
      | .error e => (.error e, s)
      | .ok (r, false, _) => (.ok (r, false), s)
      | .ok (r, true, i) => ((s.write i c.fault).1.map fun _ => (r, true), (s.write i c.fault).2) := by
  unfold execute onLoaded Inventory.execute
  by_cases hbound : executionBound c.proposal c.evidence c.approval c.intent
  · have hpass : ¬ (!executionBound c.proposal c.evidence c.approval c.intent) = true := by
      simp [hbound]
    rw [if_neg hpass, if_neg hpass]
    by_cases hread : c.fault = some .unreadable
    · rw [if_pos hread, if_pos ⟨hbound, hread⟩]
    · rw [if_neg hread, if_neg fun h => hread h.2]
      unfold MockCall.target
      dsimp only
      cases s.load.receipts.get c.intent.idempotencyKey with
      | some existing =>
        dsimp only
        split <;> rfl
      | none =>
        dsimp only
        cases s.load.resources.get (c.proposal.targetResourceType, c.proposal.targetResourceId,
            c.evidence.resource.region) with
        | none => rfl
        | some current =>
          dsimp only
          split
          · rfl
          · cases Inventory.afterOperation parse c.proposal current with
            | error e => rfl
            | ok after =>
              dsimp only [bind, Except.bind]
              cases Inventory.receiptOf c.proposal c.approval c.intent current after c.executedAt with
              | error e => rfl
              | ok receipt => rfl
  · have hstop : (!executionBound c.proposal c.evidence c.approval c.intent) = true := by
      simp [hbound]
    rw [if_pos hstop, if_neg fun h => hbound h.1, if_pos hstop]

variable (parse s c) in
/-- Where a call leaves the collections: as they were, or with one action applied. -/
theorem execute_cases :
    ((s.execute parse c).2 = s ∧ ∀ r, (s.execute parse c).1 ≠ .ok (r, true)) ∨
    ∃ r, s.load.execute parse c.proposal c.evidence c.approval c.intent c.executedAt =
        .ok (r, true, s.load.mutated c.evidence.resource r.afterResource r) ∧
      (s.execute parse c).2.load = s.load.mutated c.evidence.resource r.afterResource r ∧
      ((s.execute parse c).1 = .ok (r, true) ∨
        (s.execute parse c).1 = .error .cloudAdapterUnavailable) := by
  rw [execute_eq]
  split
  · exact .inl ⟨rfl, by simp⟩
  · cases h : s.onLoaded parse c with
    | error e => exact .inl ⟨rfl, by simp⟩
    | ok result =>
      obtain ⟨r, applied, i⟩ := result
      cases applied with
      | false => exact .inl ⟨rfl, by simp⟩
      | true =>
        unfold onLoaded at h
        obtain ⟨-, ⟨hfalse, -⟩ | ⟨-, -, -, -, -, rfl⟩⟩ := Inventory.execute_ok h
        · simp at hfalse
        · dsimp only
          unfold write
          split
          · exact .inr ⟨r, h, rfl, .inr rfl⟩
          · exact .inl ⟨rfl, by simp [Except.map]⟩
          · exact .inr ⟨r, h, rfl, .inl rfl⟩

/-- No call loses or overwrites a receipt. -/
theorem execute_receipts : s.load.receipts.Evolves Eq (s.execute parse c).2.load.receipts := by
  rcases execute_cases parse s c with ⟨hsame, -⟩ | ⟨r, h, hload, -⟩
  · rw [hsame]
    exact .refl (fun _ => rfl) _
  · rw [hload]
    exact (Inventory.execute_receipts h).1

theorem executeAll_receipts (calls : List MockCall) :
    s.load.receipts.Evolves Eq (s.executeAll parse calls).load.receipts := by
  induction calls generalizing s with
  | nil => exact .refl (fun _ => rfl) _
  | cons c rest ih => exact .trans_eq execute_receipts ih

/-- What a returned receipt says of the inventory's `execute`. -/
theorem execute_returns (h : (s.execute parse c).1 = .ok (r, applied)) :
    ∃ i, s.onLoaded parse c = .ok (r, applied, i) ∧ (s.execute parse c).2.load = i := by
  rw [execute_eq] at h ⊢
  split at h
  · simp at h
  · next hread =>
    rw [if_neg hread]
    cases hl : s.onLoaded parse c with
    | error e =>
      rw [hl] at h
      simp at h
    | ok result =>
      obtain ⟨r', applied', i⟩ := result
      rw [hl] at h
      cases applied' with
      | false =>
        obtain ⟨rfl, rfl⟩ : r' = r ∧ false = applied := by simpa using h
        refine ⟨i, rfl, ?_⟩
        unfold onLoaded at hl
        obtain ⟨-, ⟨-, rfl, -⟩ | ⟨hfalse, -⟩⟩ := Inventory.execute_ok hl
        · rfl
        · simp at hfalse
      | true =>
        dsimp only at h ⊢
        unfold write at h ⊢
        split at h
        · simp [Except.map] at h
        · simp [Except.map] at h
        · obtain ⟨rfl, rfl⟩ : r' = r ∧ true = applied := by simpa [Except.map] using h
          exact ⟨i, rfl, rfl⟩

/-- A call repeated on a readable file, at any time, returns the receipt and writes nothing. -/
theorem execute_again (h : (s.execute parse c).1 = .ok (r, applied)) (executedAt : Time)
    {fault : Option FileFault} (hfault : fault ≠ some .unreadable) :
    (s.execute parse c).2.execute parse { c with executedAt := executedAt, fault := fault } =
      (.ok (r, false), (s.execute parse c).2) := by
  obtain ⟨i, hl, hload⟩ := execute_returns h
  unfold onLoaded at hl
  rw [execute_eq, if_neg fun hf => hfault hf.2]
  unfold onLoaded
  rw [hload, Inventory.execute_again hl]

/-- **Atomic, framed, idempotent**: a policy or conflict error changes neither collection; an applied
    action changes only its target, and adds only the receipt of its key; the same call again
    returns the same receipt and changes nothing; and no sequence of calls, faults included, loses
    or overwrites a receipt. -/
theorem execute_atomic (parse : Json → Option SecurityGroupRule) (s : LocalMockStateStore)
    (c : MockCall) :
    ((s.execute parse c).1 = .error .localMockPolicy ∨
      (s.execute parse c).1 = .error .localMockConflict → (s.execute parse c).2.load = s.load) ∧
    (∀ r, (s.execute parse c).1 = .ok (r, true) →
      (∀ key ≠ c.target, (s.execute parse c).2.load.resources.get key = s.load.resources.get key) ∧
      s.load.receipts.get c.intent.idempotencyKey = none ∧
      ∀ key, (s.execute parse c).2.load.receipts.get key =
        if key = c.intent.idempotencyKey then some r else s.load.receipts.get key) ∧
    (∀ r applied, (s.execute parse c).1 = .ok (r, applied) →
      (s.execute parse c).2.execute parse c = (.ok (r, false), (s.execute parse c).2)) ∧
    ∀ calls key r, s.load.receipts.get key = some r →
      (s.executeAll parse calls).load.receipts.get key = some r := by
  refine ⟨?_, ?_, ?_, ?_⟩
  · intro herr
    rcases execute_cases parse s c with ⟨hsame, -⟩ | ⟨r, -, -, hres⟩
    · rw [hsame]
    · rcases hres with hres | hres <;> rw [hres] at herr <;> simp at herr
  · intro r h
    obtain ⟨i, hl, hload⟩ := execute_returns h
    rw [hload]
    exact Inventory.execute_frame hl
  · intro r applied h
    refine execute_again h c.executedAt fun hread => ?_
    rw [execute_eq] at h
    split at h
    · simp at h
    · next hbound =>
      have hpolicy : ¬ executionBound c.proposal c.evidence c.approval c.intent :=
        fun hb => hbound ⟨hb, hread⟩
      unfold onLoaded Inventory.execute at h
      rw [if_pos (by simpa using hpolicy)] at h
      simp at h
  · intro calls key r h
    exact (executeAll_receipts calls).get_eq h

/-! ## Ingress receipts -/

omit [Sha256] in
theorem afterOperation_ingress {p : RemediationProposal} {current : CloudResource}
    {after : Option CloudResource} (hp : p.operationType = .revokePublicIngress)
    (h : Inventory.afterOperation parse p current = .ok after) :
    ∃ (g : SecurityGroupResource) (approved : List SecurityGroupRule),
      current = .securityGroup g ∧
      after = some (.securityGroup
        { g with inboundRules := g.inboundRules.filter (· ∉ approved) }) ∧
      (g.inboundRules.filter (· ∉ approved)).Sublist g.inboundRules ∧
      (g.inboundRules.filter (· ∉ approved)).length < g.inboundRules.length := by
  unfold Inventory.afterOperation at h
  rw [hp] at h
  cases current with
  | ec2 r => cases h
  | elasticIp r => cases h
  | securityGroup g =>
    dsimp only at h
    cases hrevoked : Inventory.revokedIngress parse p g with
    | error e =>
      rw [hrevoked] at h
      cases h
    | ok resource =>
      rw [hrevoked] at h
      obtain rfl : some resource = after := Except.ok.inj h
      obtain ⟨approved, rfl, hrest⟩ := Inventory.revokedIngress_ok hrevoked
      exact ⟨g, approved, rfl, rfl, hrest⟩

omit [Sha256] in
/-- The key a resource is stored under names the target of the call. -/
theorem target_of_get {i : Inventory} {current : CloudResource}
    (h : i.resources.get c.target = some current) :
    current.resourceType = c.proposal.targetResourceType ∧
      current.resourceId = c.proposal.targetResourceId := by
  have hkey : current.key = c.target := Table.key_of_get h
  exact ⟨congrArg Prod.fst hkey, congrArg (·.2.1) hkey⟩

/-- **The check of an ingress receipt is exact**: it accepts the strictly shorter order-preserving
    subsequences; what `execute` computes always is one, so that it never fails at the receipt. -/
theorem ingress_receipt_exact :
    (∀ p a n t (before : SecurityGroupResource) rules, p.operationType = .revokePublicIngress →
      before.resourceId = p.targetResourceId →
      ((∃ r, Inventory.receiptOf p a n (.securityGroup before)
          (some (.securityGroup { before with inboundRules := rules })) t = .ok r) ↔
        rules.Sublist before.inboundRules ∧ rules.length < before.inboundRules.length)) ∧
    ∀ parse s c, c.proposal.operationType = .revokePublicIngress →
      (∀ current after, Inventory.afterOperation parse c.proposal current = .ok after →
        ∃ (g : SecurityGroupResource) (approved : List SecurityGroupRule),
          current = .securityGroup g ∧
          after = some (.securityGroup
            { g with inboundRules := g.inboundRules.filter (· ∉ approved) }) ∧
          (g.inboundRules.filter (· ∉ approved)).Sublist g.inboundRules ∧
          (g.inboundRules.filter (· ∉ approved)).length < g.inboundRules.length) ∧
      ∀ message, (execute parse s c).1 ≠ .error (.valueError message) := by
  refine ⟨fun p a n t before rules hp hid => ?_, fun parse s c hp => ⟨fun current after h =>
    afterOperation_ingress hp h, fun message herr => ?_⟩⟩
  · have htype : p.targetResourceType = .securityGroup := by
      rw [p.policy_ok.1, hp]
      rfl
    have htarget : (CloudResource.securityGroup before).resourceType = p.targetResourceType ∧
        (CloudResource.securityGroup before).resourceId = p.targetResourceId := ⟨htype.symm, hid⟩
    rw [← Inventory.receiptStates_ingress before, ← hp]
    unfold Inventory.receiptOf
    rw [dif_pos htarget]
    by_cases hstates : ReceiptStates p.operationType (.securityGroup before)
        (some (.securityGroup { before with inboundRules := rules }))
    · rw [dif_pos hstates]
      exact iff_of_true ⟨_, rfl⟩ hstates
    · rw [dif_neg hstates]
      refine iff_of_false ?_ hstates
      rintro ⟨r, hr⟩
      cases hr
  · -- every branch but the receipt's raises another error
    unfold execute at herr
    split at herr
    · cases herr
    split at herr
    · cases herr
    dsimp only at herr
    split at herr
    · split at herr
      · cases herr
      · cases herr
    split at herr
    · cases herr
    rename_i current hcurrent
    split at herr
    · cases herr
    split at herr
    · rename_i e hafter
      obtain rfl : e = .valueError message := Except.error.inj herr
      obtain h | h := Inventory.afterOperation_error hafter
      · cases h
      · cases h
    · rename_i after hafter
      obtain ⟨g, approved, rfl, rfl, hsublist, hshorter⟩ := afterOperation_ingress hp hafter
      have hstates := (Inventory.receiptStates_ingress _).2 ⟨hsublist, hshorter⟩
      rw [← hp] at hstates
      unfold Inventory.receiptOf write at herr
      rw [dif_pos (target_of_get hcurrent), dif_pos hstates] at herr
      dsimp only at herr
      split at herr
      · cases herr
      · cases herr
      · cases herr

end LocalMockStateStore

end CloudOpsAgent
