/-
  Authority in the local workflow: one human decision a run, one mutation a decision.

  Durable truth of a local run is one versioned checkpoint; the mock inventory is another store.
  What ties them is that a later version of a checkpoint keeps the chain of the earlier one
  (`LocalKept`): evidence and proposal never change, a decision is never taken back and freezes the
  request it answers, and intent, receipt and verification, once there, stay.  A flow that holds an
  old version cannot break this, because a save names the version it replaces.

  `authority` is the discipline of the three entry points.  It asks a justification of three kinds of
  request: saving a checkpoint (the successor keeps the chain, and a new decision is that of a call
  that echoes the stored request), entering `EXECUTING` or `VERIFYING` (the chain is that far), and
  the mock execution (proposal, decision and intent are those of the stored checkpoint).
-/
import CloudOpsAgent.Flow.Local

namespace CloudOpsAgent

open ClientProg ClientProg.Prog

variable [Sha256] {ι : Type}

/-! ## What a later checkpoint keeps -/

/-- The chain of local records only grows, and a decision freezes its request. -/
structure LocalKept (c c' : CheckpointFields) : Prop where
  evidence : c'.resourceEvidence = c.resourceEvidence
  proposal : c'.remediationProposal = c.remediationProposal
  request : c.localApproval.isSome → c'.localApprovalRequest = c.localApprovalRequest
  approval : ∀ a, c.localApproval = some a → c'.localApproval = some a
  intent : ∀ n, c.localExecutionIntent = some n → c'.localExecutionIntent = some n
  receipt : ∀ r, c.localExecutionReceipt = some r → c'.localExecutionReceipt = some r
  verification : ∀ v, c.localVerification = some v → c'.localVerification = some v

omit [Sha256] in
theorem LocalKept.refl (c : CheckpointFields) : LocalKept c c :=
  ⟨rfl, rfl, fun _ => rfl, fun _ => id, fun _ => id, fun _ => id, fun _ => id⟩

omit [Sha256] in
theorem LocalKept.trans {c c' c'' : CheckpointFields} (h : LocalKept c c')
    (h' : LocalKept c' c'') : LocalKept c c'' where
  evidence := h'.evidence.trans h.evidence
  proposal := h'.proposal.trans h.proposal
  request hc := by
    obtain ⟨a, ha⟩ := Option.isSome_iff_exists.mp hc
    rw [h'.request (by rw [h.approval a ha]; rfl), h.request hc]
  approval a ha := h'.approval a (h.approval a ha)
  intent n hn := h'.intent n (h.intent n hn)
  receipt r hr := h'.receipt r (h.receipt r hr)
  verification v hv := h'.verification v (h.verification v hv)

/-- A later version of a checkpoint that keeps its chain. -/
def CheckpointKept (c c' : Checkpoint) : Prop :=
  CheckpointEvolves c c' ∧ LocalKept c.toCheckpointFields c'.toCheckpointFields

theorem CheckpointKept.refl (c : Checkpoint) : CheckpointKept c c := ⟨.refl c, .refl _⟩

theorem CheckpointKept.trans {c c' c'' : Checkpoint} (h : CheckpointKept c c')
    (h' : CheckpointKept c' c'') : CheckpointKept c c'' := ⟨h.1.trans h'.1, h.2.trans h'.2⟩

/-- The checkpoint was read from, or written to, an earlier store. -/
abbrev Store.KnowsCheckpoint (s : Store) (c : Checkpoint) : Prop :=
  s.checkpoints.Known CheckpointKept c

/-! ## The order -/

/-- What every step of the local workflow keeps. -/
structure LocalGrows (w w' : LocalWorld ι) : Prop where
  store : w.world.store.Evolves w'.world.store
  checkpoints : w.world.store.checkpoints.Evolves CheckpointKept w'.world.store.checkpoints
  receipts : w.inventory.receipts.Evolves Eq w'.inventory.receipts

theorem LocalGrows.refl (w : LocalWorld ι) : LocalGrows w w :=
  ⟨.refl _, .refl CheckpointKept.refl _, .refl (fun _ => rfl) _⟩

theorem LocalGrows.trans {w w' w'' : LocalWorld ι} (h : LocalGrows w w')
    (h' : LocalGrows w' w'') : LocalGrows w w'' :=
  ⟨h.store.trans h'.store, h.checkpoints.trans (fun _ _ _ h1 h2 => h1.trans h2) h'.checkpoints,
    h.receipts.trans_eq h'.receipts⟩

theorem LocalGrows.knows {w w' : LocalWorld ι} (h : LocalGrows w w') {c : Checkpoint}
    (hc : w.world.store.KnowsCheckpoint c) : w'.world.store.KnowsCheckpoint c :=
  hc.evolves (fun _ _ _ h1 h2 => h1.trans h2) h.checkpoints

theorem LocalGrows.get {w w' : LocalWorld ι} (h : LocalGrows w w') {r : UUID} {c : Checkpoint}
    (hc : w.world.store.checkpoints.get r = some c) :
    ∃ c', w'.world.store.checkpoints.get r = some c' ∧
      LocalKept c.toCheckpointFields c'.toCheckpointFields := by
  obtain ⟨c', hc', -, hkept⟩ := h.checkpoints r c hc
  exact ⟨c', hc', hkept⟩

/-! ## The invariant -/

section Invariant

variable (calls : ι → LocalCall) (origin : Store) (ready : Prop)

open LocalHitlExecutionFlow in
/-- A decision was there from the start, or is that of a call that echoes the request beside it. -/
def Decided (r : UUID) (request : Option LocalApprovalRequestRecord)
    (a : LocalApprovalDecisionRecord) : Prop :=
  (∃ c, origin.checkpoints.get r = some c ∧ c.localApproval = some a) ∨
    ∃ i cfg d principal req, calls i = .decide cfg d principal ∧ d.runId = r ∧
      request = some req ∧ decisionMatchesRequest d principal req ∧ a.decision = d.decision

/-- The repository held the proposal, its decision and its intent when the mutation was made. -/
def Mutation.Authorized (m : Mutation ι) : Prop :=
  ∃ c, m.store.checkpoints.get m.proposal.runId = some c ∧
    c.remediationProposal = some m.proposal ∧ c.localApproval = some m.approval ∧
    c.localExecutionIntent = some m.intent

open LocalHitlExecutionFlow in
/-- The chain of a run that is in a state of protected execution. -/
structure Chained (s : Store) (run : Run) (state : WorkflowState) : Prop where
  checkpoint : ∃ c e p, s.checkpoints.get run.runId = some c ∧ c.resourceEvidence = some e ∧
    c.remediationProposal = some p ∧ prerequisitesBound run e p ∧
    c.localExecutionIntent.isSome ∧ (state = .verifying → c.localExecutionReceipt.isSome)

/-- A state of protected execution. -/
def WorkflowState.protectedExecution (s : WorkflowState) : Prop := s = .executing ∨ s = .verifying

structure LocalInv (w : LocalWorld ι) : Prop where
  decided : ∀ r c a, w.world.store.checkpoints.get r = some c → c.localApproval = some a →
    Decided calls origin r c.localApprovalRequest a
  authorized : ∀ m ∈ w.mutations, m.Authorized
  bound : ∀ m ∈ w.mutations, executionBound m.proposal m.evidence m.approval m.intent ∧
    m.receipt.idempotencyKey = m.intent.idempotencyKey
  current : ∀ m ∈ w.mutations, ∃ c, w.world.store.checkpoints.get m.proposal.runId = some c ∧
    c.remediationProposal = some m.proposal ∧ c.localApproval = some m.approval
  receipted : ∀ m ∈ w.mutations,
    w.inventory.receipts.get m.receipt.idempotencyKey = some m.receipt
  distinct : w.mutations.Pairwise fun m m' => m.receipt.idempotencyKey ≠ m'.receipt.idempotencyKey
  receipts : ready → ∀ r c x, w.world.store.checkpoints.get r = some c →
    c.localExecutionReceipt = some x → w.inventory.receipts.get x.idempotencyKey = some x
  active : ready → ∀ r run, w.world.store.runs.get r = some run → run.state.protectedExecution →
    Chained w.world.store run run.state

/-- What the local workflow needs a justification for. -/
def localAllowed (w : LocalWorld ι) : Req → Prop
  | .store (.saveCheckpoint c expected) => ∃ v, expected = some v ∧
      ∀ d, w.world.store.checkpoints.get c.runId = some d → d.version = v →
        LocalKept d.toCheckpointFields c.toCheckpointFields ∧
        (d.localApproval = none → ∀ a, c.localApproval = some a →
          Decided calls origin c.runId c.localApprovalRequest a) ∧
        (ready → ∀ x, c.localExecutionReceipt = some x →
          w.inventory.receipts.get x.idempotencyKey = some x)
  | .store (.transitionRun r next ..) => next.protectedExecution →
      ∀ run, w.world.store.runs.get r = some run → Chained w.world.store run next
  | .mockExecute p _ a n => ∃ c, w.world.store.checkpoints.get p.runId = some c ∧
      c.remediationProposal = some p ∧ c.localApproval = some a ∧ c.localExecutionIntent = some n
  | _ => True

variable {calls origin ready} {w w' : LocalWorld ι}

/-- A chain is kept with the checkpoint it is in. -/
theorem Chained.grows {s s' : Store} (h : s.checkpoints.Evolves CheckpointKept s'.checkpoints)
    {run run' : Run} (hid : run'.runId = run.runId) (htr : run'.traceId = run.traceId)
    (hco : run'.correlationId = run.correlationId) {state : WorkflowState}
    (hc : Chained s run state) : Chained s' run' state := by
  obtain ⟨c, e, p, hget, he, hp, hbound, hintent, hreceipt⟩ := hc.checkpoint
  obtain ⟨c', hget', -, hkept⟩ := h _ _ hget
  refine ⟨c', e, p, by rw [hid, hget'], hkept.evidence.trans he, hkept.proposal.trans hp, ?_, ?_,
    fun hs => ?_⟩
  · simpa only [LocalHitlExecutionFlow.prerequisitesBound, hid, htr, hco] using hbound
  · obtain ⟨n, hn⟩ := Option.isSome_iff_exists.mp hintent
    rw [hkept.intent n hn]
    rfl
  · obtain ⟨x, hx⟩ := Option.isSome_iff_exists.mp (hreceipt hs)
    rw [hkept.receipt x hx]
    rfl

/-- A write of the local workflow keeps every chain. -/
theorem Write.keepsCheckpoints {op : Op} {s : Store} (hs : Write w.world.store op s)
    (ha : localAllowed calls origin ready w (.store op)) :
    w.world.store.checkpoints.Evolves CheckpointKept s.checkpoints := by
  rcases hs.checkpoints with h | ⟨c, expected, rfl, h, hcur⟩
  · rw [h]
    exact .refl CheckpointKept.refl _
  · rw [h]
    refine Table.evolves_put CheckpointKept.refl fun d hd => ?_
    obtain ⟨v, rfl, ha⟩ := ha
    rcases hcur with ⟨hn, -⟩ | ⟨d', hd', hv, hver⟩
    · rw [hn] at hd
      cases hd
    · rw [hd'] at hd
      cases hd
      cases hv
      exact ⟨⟨by omega, by omega⟩, (ha _ hd' rfl).1⟩

theorem LocalInv.applied (h : LocalInv calls origin ready w) {op : Op} {s : Store} {i : ι}
    (hs : Write w.world.store op s) (ha : localAllowed calls origin ready w (.store op)) :
    LocalInv calls origin ready (w.applied i op s) := by
  have hkept := hs.keepsCheckpoints ha
  refine { h with decided := ?_, current := fun m hm => ?_, receipts := ?_, active := ?_ }
  · intro r c a hc hca
    rcases hs.checkpoints with heq | ⟨d, expected, rfl, heq, hcur⟩
    · rw [LocalWorld.applied_store, heq] at hc
      exact h.decided r c a hc hca
    · rw [LocalWorld.applied_store, heq] at hc
      obtain ⟨rfl, rfl⟩ | ⟨-, hc⟩ := Table.get_put_cases hc
      · obtain ⟨v, rfl, ha⟩ := ha
        rcases hcur with ⟨-, hn, -⟩ | ⟨d', hd', hv, -⟩
        · cases hn
        · cases hv
          obtain ⟨hk, hnew, -⟩ := ha d' hd' rfl
          cases hda : d'.localApproval with
          | none => exact hnew hda a hca
          | some b =>
            have hb := hk.approval b hda
            rw [hca] at hb
            cases hb
            rw [hk.request (by rw [hda]; rfl)]
            exact h.decided _ d' a hd' hda
      · exact h.decided r c a hc hca
  · obtain ⟨c, hc, hp, hap⟩ := h.current m hm
    obtain ⟨c', hc', -, hk⟩ := hkept _ c hc
    exact ⟨c', hc', hk.proposal.trans hp, hk.approval _ hap⟩
  · intro hr r c x hc hcx
    rcases hs.checkpoints with heq | ⟨d, expected, rfl, heq, hcur⟩
    · rw [LocalWorld.applied_store, heq] at hc
      exact h.receipts hr r c x hc hcx
    · rw [LocalWorld.applied_store, heq] at hc
      obtain ⟨rfl, rfl⟩ | ⟨-, hc⟩ := Table.get_put_cases hc
      · obtain ⟨v, rfl, ha⟩ := ha
        rcases hcur with ⟨-, hn, -⟩ | ⟨d', hd', hv, -⟩
        · cases hn
        · cases hv
          exact (ha d' hd' rfl).2.2 hr x hcx
      · exact h.receipts hr r c x hc hcx
  · intro hr r run hrun hst
    have hid := Table.key_of_get hrun
    have moved {old : Run} (hold : w.world.store.runs.get r = some old) {state : WorkflowState}
        (hc : Chained w.world.store old state) : Chained s run state := by
      obtain ⟨run', hrun', hev⟩ := hs.evolves.runs r old hold
      rw [LocalWorld.applied_store] at hrun
      rw [hrun] at hrun'
      cases hrun'
      exact hc.grows hkept (hid.trans (Table.key_of_get hold).symm) hev.traceId hev.correlationId
    rcases hs.run hrun with ⟨old, hold, hsame⟩ | hrec | ⟨old, _, _, _, _, _, hold, -, rfl, -⟩
    · rw [hsame] at hst ⊢
      exact moved hold (h.active hr r old hold hst)
    · rw [hrec] at hst
      rcases hst with hst | hst <;> cases hst
    · exact moved hold (ha hst old hold)

/-- An execution of what the stored checkpoint approves. -/
theorem LocalInv.executed (h : LocalInv calls origin ready w) {parse : Json → Option SecurityGroupRule}
    {p : RemediationProposal} {e : ResourceEvidence} {a : LocalApprovalDecisionRecord}
    {n : LocalExecutionIntent} {t : Time} {r : LocalExecutionReceipt} {applied : Bool}
    {s : Inventory} {i : ι}
    (hx : w.inventory.execute parse p e a n t = .ok (r, applied, s))
    (ha : localAllowed calls origin ready w (.mockExecute p e a n)) :
    LocalInv calls origin ready (w.executed ⟨i, p, e, a, n, r, w.world.store⟩ applied s) := by
  obtain ⟨hev, hget⟩ := Inventory.execute_receipts hx
  obtain ⟨hbound, ⟨rfl, rfl, -⟩ | ⟨rfl, hnone, -, -, hr, rfl⟩⟩ := Inventory.execute_ok hx
  · exact h
  obtain ⟨c, hc, hp, hap, hin⟩ := ha
  -- the new mutation is the only one of its key, because there was no receipt
  have hnew : ∀ m ∈ w.mutations, m.receipt.idempotencyKey ≠ r.idempotencyKey := by
    intro m hm heq
    have hold := h.receipted m hm
    rw [heq, hr.key, hnone] at hold
    cases hold
  have hmem {m : Mutation ι} (hm : m ∈ (w.executed ⟨i, p, e, a, n, r, w.world.store⟩ true
      (w.inventory.mutated e.resource r.afterResource r)).mutations) :
      m ∈ w.mutations ∨ m = ⟨i, p, e, a, n, r, w.world.store⟩ := by
    simpa [LocalWorld.executed] using hm
  refine { h with
    authorized := fun m hm => ?_, bound := fun m hm => ?_, current := fun m hm => ?_,
    receipted := fun m hm => ?_, distinct := ?_, receipts := fun hready r' c' x hc' hx' => ?_ }
  · rcases hmem hm with hm | rfl
    · exact h.authorized m hm
    · exact ⟨c, hc, hp, hap, hin⟩
  · rcases hmem hm with hm | rfl
    · exact h.bound m hm
    · exact ⟨hbound, hr.key⟩
  · rcases hmem hm with hm | rfl
    · exact h.current m hm
    · exact ⟨c, hc, hp, hap⟩
  · rcases hmem hm with hm | rfl
    · exact hev.get_eq (h.receipted m hm)
    · exact hget
  · refine List.pairwise_append.mpr ⟨h.distinct, List.pairwise_singleton _ _, fun m hm m' hm' => ?_⟩
    rw [List.mem_singleton.mp hm']
    exact hnew m hm
  · exact hev.get_eq (h.receipts hready r' c' x hc' hx')

end Invariant

/-- The discipline of the local workflow. -/
def authority (parse : Json → Option SecurityGroupRule) (calls : ι → LocalCall) (origin : Store)
    (ready : Prop) : Discipline (localAnswers (ι := ι) parse) where
  inv := LocalInv calls origin ready
  evolve := LocalGrows
  rely _ := LocalGrows
  allowed _ := localAllowed calls origin ready
  evolve_trans h h' := h.trans h'
  rely_refl _ := .refl
  rely_trans _ _ _ _ h h' := h.trans h'
  evolve_of_rely h := h
  step {i w r x w'} hw ha hx := by
    suffices h : LocalInv calls origin ready w' ∧ LocalGrows w w' from ⟨h.1, h.2, fun _ _ => h.2⟩
    have executed {p : RemediationProposal} {e : ResourceEvidence}
        {a : LocalApprovalDecisionRecord} {n : LocalExecutionIntent} {t : Time}
        {receipt : LocalExecutionReceipt} {applied : Bool} {s : Inventory}
        (h : w.inventory.execute parse p e a n t = .ok (receipt, applied, s))
        (ha : localAllowed calls origin ready w (.mockExecute p e a n)) :
        LocalInv calls origin ready (w.executed ⟨i, p, e, a, n, receipt, w.world.store⟩ applied s) ∧
          LocalGrows w (w.executed ⟨i, p, e, a, n, receipt, w.world.store⟩ applied s) :=
      ⟨hw.executed h ha, .refl _, .refl CheckpointKept.refl _, (Inventory.execute_receipts h).1⟩
    cases r with
    | store op =>
      obtain ⟨v, hx, rfl⟩ := hx
      obtain rfl | ⟨s, hs, rfl⟩ := answers_store hx
      · exact ⟨hw, .refl _⟩
      · exact ⟨hw.applied hs ha, hs.evolves, hs.keepsCheckpoints ha, .refl (fun _ => rfl) _⟩
    | mockExecute p e a n =>
      change ExecuteAnswer parse i w p e a n x w' at hx
      cases hx with
      | done h => exact executed h ha
      | refused h => exact ⟨hw, .refl _⟩
      | failedBefore => exact ⟨hw, .refl _⟩
      | failedAfter h => exact executed h ha
    | mockGetReceipt key => obtain ⟨rfl, -⟩ := hx; exact ⟨hw, .refl _⟩
    | mockVerify receipt => obtain ⟨rfl, -⟩ := hx; exact ⟨hw, .refl _⟩
    | _ =>
      obtain ⟨v, hv, rfl⟩ := hx
      cases hv
      exact ⟨{ hw with }, .refl _, .refl CheckpointKept.refl _, .refl (fun _ => rfl) _⟩

end CloudOpsAgent
