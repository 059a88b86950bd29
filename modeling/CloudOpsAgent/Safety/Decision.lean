/-
  The entry points of the local workflow under the discipline of authority.

  A flow works on the records it loaded and on the checkpoints it saved since (`Owned`): they are
  stored, or earlier versions of what is stored.  `saveNext_authority` is the one step lemma: saving
  the next version of a checkpoint in hand is allowed if the update keeps the chain, and leaves the
  new version in hand.  From it each entry point is safe, with what a successful `decide` means.

  Results, over any interleaving with a failure or a crash at any operation of either store:

  * `one_decision` — a durable decision is bound to the request beside it, was made by a matching
    call, and never changes; a later call gets that same decision or is refused;

  * `local_authority` — a run changes the inventory at most once, and only while its checkpoint
    holds an approval; a denied run never does.
-/
import CloudOpsAgent.Flow.LocalSolo
import CloudOpsAgent.Safety.Authority

namespace CloudOpsAgent

open ClientProg ClientProg.Prog Flow

section Decision

variable [Sha256] {ι : Type} {parse : Json → Option SecurityGroupRule} {calls : ι → LocalCall}
  {origin : Store} {ready : Prop} {i : ι} {w : LocalWorld ι}

/-! ## Requests that need no justification -/

/-- What the discipline lets pass. -/
def Req.unguarded : Req → Prop
  | .store (.saveCheckpoint ..) | .mockExecute .. => False
  | .store (.transitionRun _ next ..) => ¬next.protectedExecution
  | _ => True

theorem localAllowed_unguarded (w : LocalWorld ι) {r : Req} (hr : r.unguarded) :
    localAllowed calls origin ready w r := by
  cases r with
  | store op =>
    cases op with
    | saveCheckpoint c v => exact hr.elim
    | transitionRun r next e v t a b => exact fun h => absurd h hr
    | _ => trivial
  | mockExecute p e a n => exact hr.elim
  | _ => trivial

theorem safe_unguarded {α : Type} {p : Flow α} (hp : p.Issues Req.unguarded) :
    Safe (authority parse calls origin ready) i p (fun _ _ => True) w :=
  .of_issues (fun w _ hr => localAllowed_unguarded w hr) hp w

namespace LocalHitlExecutionFlow

theorem appendEvent_unguarded (cfg : LocalHitlConfig) (run : Run) (type : AuditEventType)
    (h : Sha256Digest) (m : Dict String String) :
    (appendEvent cfg run type h m).Issues Req.unguarded := by
  refine issues_freshId_bind.mpr ⟨trivial, fun _ => issues_clock_bind.mpr ⟨trivial, fun _ => ?_⟩⟩
  dsimp only
  split
  · trivial
  · exact issues_op_bind.mpr ⟨trivial, fun _ => trivial⟩

theorem auditPolicyDenial_unguarded (cfg : LocalHitlConfig) (run : Run) (p : RemediationProposal)
    (code : String) : (auditPolicyDenial cfg run p code).Issues Req.unguarded :=
  issues_catching (appendEvent_unguarded ..) trivial fun _ => trivial

theorem persistExecutionFailure_unguarded {run : Run} {target : WorkflowState}
    (ht : ¬target.protectedExecution) (kind : FailureKind) (code message : String) :
    (persistExecutionFailure run target kind code message).Issues Req.unguarded := by
  refine issues_catching ?_ trivial fun _ => trivial
  split
  · simp [Req.unguarded, ht]
  · trivial

omit [Sha256] in
theorem not_protected {s : WorkflowState} (h : s ≠ .executing ∧ s ≠ .verifying) :
    ¬s.protectedExecution := fun hs => hs.elim h.1 h.2

/-! ## Records in hand -/

/-- Run and checkpoint of what was loaded, in their versions at this point. -/
structure Owned (s : Store) (l : Loaded) (r : Run) (c : Checkpoint) : Prop where
  run : s.KnowsRun r
  checkpoint : s.KnowsCheckpoint c
  same : c.runId = r.runId
  evidence : c.resourceEvidence = some l.evidence
  proposal : c.remediationProposal = some l.proposal
  bound : prerequisitesBound r l.evidence l.proposal

section Owned

variable {l : Loaded} {run : Run} {c : Checkpoint}

theorem Owned.grows {w w' : LocalWorld ι} (h : LocalGrows w w')
    (hl : Owned w.world.store l run c) : Owned w'.world.store l run c :=
  { hl with run := h.store.knowsRun hl.run, checkpoint := h.knows hl.checkpoint }

/-- A later version of the checkpoint. -/
theorem Owned.kept {s : Store} (hl : Owned s l run c) {c' : Checkpoint}
    (hc : s.KnowsCheckpoint c') (hid : c'.runId = c.runId)
    (hk : LocalKept c.toCheckpointFields c'.toCheckpointFields) : Owned s l run c' :=
  { hl with
    checkpoint := hc
    same := hid.trans hl.same
    evidence := hk.evidence.trans hl.evidence
    proposal := hk.proposal.trans hl.proposal }

/-- A later version of the run. -/
theorem Owned.moved {s : Store} (hl : Owned s l run c) {r : Run} (hr : s.KnowsRun r)
    (hid : r.runId = run.runId ∧ r.traceId = run.traceId ∧ r.correlationId = run.correlationId) :
    Owned s l r c := by
  obtain ⟨h1, h2, h3⟩ := hid
  refine { hl with run := hr, same := hl.same.trans h1.symm, bound := ?_ }
  have hbound := hl.bound
  simpa only [prerequisitesBound, h1, h2, h3] using hbound

/-- The stored version of the checkpoint in hand. -/
theorem Owned.stored {s : Store} (hl : Owned s l run c) : ∃ d, s.checkpoints.get run.runId = some d ∧
    CheckpointKept c d := by
  obtain ⟨d, hd, hk⟩ := hl.checkpoint
  exact ⟨d, hl.same ▸ hd, hk⟩

/-- The next version of a checkpoint in hand may be saved over it. -/
theorem Owned.save_allowed (hl : Owned w.world.store l run c) {next : Checkpoint}
    (hI : LocalInv calls origin ready w) (hid : next.runId = c.runId)
    (hk : LocalKept c.toCheckpointFields next.toCheckpointFields)
    (hdecision : c.localApproval = none → ∀ a, next.localApproval = some a →
      Decided calls origin c.runId next.localApprovalRequest a)
    (hreceipt : ∀ x, next.localExecutionReceipt = some x → c.localExecutionReceipt = some x ∨
      w.inventory.receipts.get x.idempotencyKey = some x) :
    localAllowed calls origin ready w (.store (.saveCheckpoint next (some c.version))) := by
  refine ⟨c.version, rfl, fun d hd hv => ?_⟩
  obtain ⟨d', hd', hev, -⟩ := hl.checkpoint
  rw [hid, hd'] at hd
  cases hd
  obtain rfl := hev.eq_of_version hv
  rw [hid]
  refine ⟨hk, hdecision, fun hready x hx => ?_⟩
  rcases hreceipt x hx with h | h
  · exact hI.receipts hready _ _ x hd' h
  · exact h

/-- The chain in hand is far enough for a state of protected execution. -/
theorem Owned.chained (hl : Owned w.world.store l run c) (hintent : c.localExecutionIntent.isSome)
    {state : WorkflowState} (hreceipt : state = .verifying → c.localExecutionReceipt.isSome)
    {stored : Run} (hs : w.world.store.runs.get run.runId = some stored) :
    Chained w.world.store stored state := by
  have hid := Table.key_of_get hs
  obtain ⟨r, hr, hev⟩ := hl.run
  rw [hs] at hr
  cases hr
  have hmoved := hl.moved (Store.knowsRun_of_get hs) ⟨hid, hev.traceId, hev.correlationId⟩
  obtain ⟨d, hd, -, hk⟩ := hmoved.stored
  obtain ⟨n, hn⟩ := Option.isSome_iff_exists.mp hintent
  refine ⟨d, l.evidence, l.proposal, hd, hk.evidence.trans hl.evidence,
    hk.proposal.trans hl.proposal, hmoved.bound, by rw [hk.intent n hn]; rfl, fun h => ?_⟩
  obtain ⟨x, hx⟩ := Option.isSome_iff_exists.mp (hreceipt h)
  rw [hk.receipt x hx]
  rfl

/-- **Saving the next version** of a checkpoint in hand leaves it in hand. -/
theorem saveNext_authority (hl : Owned w.world.store l run c) (safe : WorkflowState)
    (metadata : List (String × String)) {update : CheckpointFields → CheckpointFields}
    (hid : (update c.toCheckpointFields).runId = c.runId)
    (hk : LocalKept c.toCheckpointFields (update c.toCheckpointFields))
    (hdecision : c.localApproval = none → ∀ a, (update c.toCheckpointFields).localApproval = some a →
      Decided calls origin c.runId (update c.toCheckpointFields).localApprovalRequest a)
    (hreceipt : ∀ x, (update c.toCheckpointFields).localExecutionReceipt = some x →
      c.localExecutionReceipt = some x ∨ w.inventory.receipts.get x.idempotencyKey = some x) :
    Safe (authority parse calls origin ready) i (saveNext c safe metadata update)
      (fun o w' => ∀ c', o = .ok c' → Owned w'.world.store l run c' ∧
        LocalKept (update c.toCheckpointFields) c'.toCheckpointFields) w := by
  -- the fields a save sets besides are not of the chain
  refine .bind (R := fun o _ => ∀ n, o = .ok n → ∃ t m v, n.toCheckpointFields =
      { update c.toCheckpointFields with
        createdAt := t, lastSafeState := safe, resumeMetadata := m, version := v })
    ?_ (fun next w1 h1 _ hnext => ?_) fun _ _ _ _ _ _ h => by cases h
  · refine local_clock_bind (fun _ => trivial) fun createdAt => safe_ofExcept fun _ _ _ n hn => ?_
    exact ⟨_, _, _, Checkpoint.validate_ok hn⟩
  obtain ⟨t, m, v, hf⟩ := hnext next rfl
  have hsame : LocalKept (update c.toCheckpointFields) next.toCheckpointFields := by
    rw [hf]
    exact ⟨rfl, rfl, fun _ => rfl, fun _ => id, fun _ => id, fun _ => id, fun _ => id⟩
  have hnid : next.runId = c.runId := by
    rw [hf]
    exact hid
  have hl1 := hl.grows h1
  refine local_op (fun w' hw hI => ?_) (fun x s w2 w3 hw _ hx h3 _ c' h => ?_) fun _ _ _ _ _ h => by
    cases h
  · refine (hl1.grows hw).save_allowed hI hnid (hk.trans hsame) ?_ fun x hx => ?_
    · rw [hf]
      exact hdecision
    · rw [hf] at hx
      rcases hreceipt x hx with h | h
      · exact .inl h
      · exact .inr ((LocalGrows.trans h1 hw).receipts.get_eq h)
  · cases h
    obtain ⟨hxn, hs, -⟩ := Store.saveCheckpoint_ok hx
    obtain rfl : next = x := hxn.symm
    subst hs
    have hknown : w3.world.store.KnowsCheckpoint next :=
      h3.knows (.of_get CheckpointKept.refl (Table.get_put_self _ _))
    exact ⟨(hl1.grows hw).kept hknown hnid (hk.trans hsame), hsame⟩

/-- The same, where the update touches neither decision nor receipt. -/
theorem saveNext_chain (hl : Owned w.world.store l run c) (safe : WorkflowState)
    (metadata : List (String × String)) {update : CheckpointFields → CheckpointFields}
    (hid : (update c.toCheckpointFields).runId = c.runId)
    (hk : LocalKept c.toCheckpointFields (update c.toCheckpointFields))
    (ha : (update c.toCheckpointFields).localApproval = c.localApproval)
    (hr : (update c.toCheckpointFields).localExecutionReceipt = c.localExecutionReceipt) :
    Safe (authority parse calls origin ready) i (saveNext c safe metadata update)
      (fun o w' => ∀ c', o = .ok c' → Owned w'.world.store l run c' ∧
        LocalKept (update c.toCheckpointFields) c'.toCheckpointFields) w := by
  refine saveNext_authority hl safe metadata hid hk (fun hnone a h => ?_) fun x hx => ?_
  · rw [ha, hnone] at h
    cases h
  · exact .inl (hr ▸ hx)

/-- A transition leaves the records in hand. -/
theorem transition_authority (hl : Owned w.world.store l run c) {next expected : WorkflowState}
    {version : Nat} {t : Time} {a v : Option UUID}
    (hn : next.protectedExecution → c.localExecutionIntent.isSome ∧
      (next = .verifying → c.localExecutionReceipt.isSome)) :
    Safe (authority parse calls origin ready) i
      (Flow.op (.transitionRun run.runId next expected version t a v))
      (fun o w' => ∀ r, o = .ok r → Owned w'.world.store l r c ∧ r.runId = run.runId) w := by
  refine local_op (fun w' hw _ hp stored hs => ?_) (fun x s w2 w3 hw _ hx h3 _ r h => ?_)
    fun _ _ _ _ _ h => by cases h
  · exact (hl.grows hw).chained (hn hp).1 (hn hp).2 hs
  · cases h
    obtain ⟨-, hid, hget⟩ := Store.transitionRun_stored hx
    have hl3 := hl.grows hw
    have hr : w3.world.store.KnowsRun x := h3.store.knowsRun (Store.knowsRun_of_get hget)
    refine ⟨hl3.moved hr ⟨hid, ?_⟩, hid⟩
    obtain ⟨r1, hr1, hev1⟩ := hl3.run
    obtain ⟨r2, hr2, hev2⟩ := hr
    rw [hid, hr1] at hr2
    cases hr2
    exact ⟨hev2.traceId.symm.trans hev1.traceId, hev2.correlationId.symm.trans hev1.correlationId⟩

end Owned

/-! ## Loading -/

theorem load_authority (runId : UUID) (w : LocalWorld ι) :
    Safe (authority parse calls origin ready) i (load runId) (fun o w' => ∀ l,
      o = .ok (.succeeded l) → Owned w'.world.store l l.run l.checkpoint ∧ l.run.runId = runId) w := by
  refine safe_try (R := fun o w' => ∀ r c, o = .ok (r, c) →
      (∀ run, r = some run → w'.world.store.KnowsRun run ∧ run.runId = runId) ∧
      ∀ d, c = some d → w'.world.store.KnowsCheckpoint d ∧ d.runId = runId)
    ?_ (fun found w1 _ _ h => ?_) (fun e h _ _ _ _ he => ?_) fun _ _ _ _ _ h => by cases h
  · refine local_read_bind (o := .getRun runId) (·.runs.get runId) (fun _ => rfl) (fun _ => trivial)
      (fun w1 _ _ => ?_) fun _ _ _ _ _ _ h => by cases h
    refine local_read_bind (o := .getCheckpoint runId) (·.checkpoints.get runId) (fun _ => rfl)
      (fun _ => trivial) (fun w2 h2 _ => ?_) fun _ _ _ _ _ _ h => by cases h
    refine safe_ret fun w3 h3 _ r c h => ?_
    simp only [Except.ok.injEq, Prod.mk.injEq] at h
    obtain ⟨rfl, rfl⟩ := h
    refine ⟨fun run hrun => ⟨?_, Table.key_of_get hrun⟩, fun d hd => ?_⟩
    · exact h3.store.knowsRun (h2.store.knowsRun (Store.knowsRun_of_get hrun))
    · have hid := Table.key_of_get hd
      exact ⟨LocalGrows.knows h3 (.of_get CheckpointKept.refl hd), hid⟩
  · obtain ⟨run, c⟩ := found
    refine safe_ret fun w2 h2 _ l hl => ?_
    injection hl with hl
    obtain ⟨rfl, rfl, he, hp, hbound⟩ := loadedOf_succeeded hl
    obtain ⟨hr, hc⟩ := h _ _ rfl
    obtain ⟨hrun, hid⟩ := hr _ rfl
    obtain ⟨hknown, hcid⟩ := hc _ rfl
    exact ⟨Owned.grows h2 ⟨hrun, hknown, hcid.trans hid.symm, he, hp, hbound⟩, hid⟩
  · split at he <;> cases he <;> exact safe_ret fun _ _ _ _ h => by cases h

/-! ## Applying a decision -/

variable {l : Loaded} {run : Run} {c : Checkpoint}

omit [Sha256] in
theorem targetState_unprotected (d : ApprovalDecision) : ¬d.targetState.protectedExecution := by
  cases d <;> exact not_protected (by decide)

/-- Applying a decision leaves the records in hand, with the chain they had. -/
theorem applyDecisionState_authority (hl : Owned w.world.store l run c)
    (approval : LocalApprovalDecisionRecord) :
    Safe (authority parse calls origin ready) i (applyDecisionState run c approval)
      (fun o w' => ∀ r c', o = .ok (.succeeded (r, c')) → Owned w'.world.store l r c' ∧
        r.runId = run.runId ∧ LocalKept c.toCheckpointFields c'.toCheckpointFields) w := by
  refine safe_try (R := fun o w' => ∀ r c', o = .ok (r, c') → Owned w'.world.store l r c' ∧
      r.runId = run.runId ∧ LocalKept c.toCheckpointFields c'.toCheckpointFields) ?_
    (fun x w1 h1 _ h => ?_) (fun e h _ _ _ _ he => ?_) fun _ _ _ _ _ _ h => by cases h
  · refine .bind (R := fun o w' => ∀ r, o = .ok r → Owned w'.world.store l r c ∧ r.runId = run.runId)
      ?_ (fun r w1 h1 _ hm => ?_) fun _ _ _ _ _ _ _ h => by cases h
    · unfold moveRun
      split
      · split
        · exact safe_raise fun _ _ _ _ h => by cases h
        · exact local_clock_bind (fun _ => trivial) fun t =>
            transition_authority hl fun h => absurd h (targetState_unprotected _)
      · refine safe_ret fun w1 h1 _ r h => ?_
        cases h
        exact ⟨hl.grows h1, rfl⟩
    obtain ⟨hl1, hid⟩ := hm r rfl
    refine .bind (R := fun o w' => ∀ c', o = .ok c' → Owned w'.world.store l r c' ∧
      LocalKept c.toCheckpointFields c'.toCheckpointFields) ?_ (fun c' w2 h2 _ hc => ?_)
      fun _ _ _ _ _ _ _ h => by cases h
    · unfold saveDecisionState
      split
      · exact saveNext_chain hl1 _ _ rfl (.refl _) rfl rfl
      · refine safe_ret fun w2 h2 _ c' h => ?_
        cases h
        exact ⟨hl1.grows h2, .refl _⟩
    · obtain ⟨hl2, hk⟩ := hc c' rfl
      refine safe_ret fun w3 h3 _ r' c'' h => ?_
      cases h
      exact ⟨hl2.grows h3, hid, hk⟩
  · refine safe_ret fun w2 h2 _ r c' hx => ?_
    cases hx
    obtain ⟨h1, h3⟩ := h r c' rfl
    exact ⟨h1.grows h2, h3⟩
  · split at he <;> cases he <;> exact safe_ret fun _ _ _ _ _ h => by cases h

/-! ## `request_approval` -/

/-- A new request replaces an undecided one. -/
theorem kept_of_undecided {f : CheckpointFields} (h : c.localApproval = none)
    (hrun : f.resourceEvidence = c.resourceEvidence)
    (hp : f.remediationProposal = c.remediationProposal) : LocalKept c.toCheckpointFields f := by
  obtain ⟨h1, h2, h3, -⟩ := c.chain
  have hintent : c.localExecutionIntent = none := by simpa [h] using h3
  have hreceipt : c.localExecutionReceipt = none := by simpa [hintent] using h2
  have hverification : c.localVerification = none := by simpa [hreceipt] using h1
  refine ⟨hrun, hp, fun hs => ?_, fun a ha => ?_, fun n hn => ?_, fun r hr => ?_, fun v hv => ?_⟩
  · rw [h] at hs
    cases hs
  · rw [h] at ha
    cases ha
  · rw [hintent] at hn
    cases hn
  · rw [hreceipt] at hr
    cases hr
  · rw [hverification] at hv
    cases hv

theorem requestApproval_authority (cfg : LocalHitlConfig) (runId : UUID)
    (principal : LocalOperatorPrincipal) (w : LocalWorld ι) :
    Safe (authority parse calls origin ready) i (requestApproval cfg runId principal)
      (fun _ _ => True) w := by
  refine .bind (load_authority runId w) (fun found w1 _ _ h => ?_) fun _ _ _ _ _ => trivial
  cases found with
  | failed failure => exact safe_unguarded trivial
  | succeeded l =>
    obtain ⟨hl, -⟩ := h l rfl
    dsimp only [requestLoaded]
    split
    · exact safe_unguarded trivial
    split
    · exact safe_unguarded trivial
    rename_i hnone
    have hnone : l.checkpoint.localApproval = none := by simpa using hnone
    refine local_clock_bind (fun _ => trivial) fun now => ?_
    split
    · exact safe_unguarded trivial
    refine local_nonce_bind (fun _ => trivial) fun nonce => ?_
    split
    · exact safe_unguarded trivial
    refine safe_catching (R := fun _ _ => True) ?_ (fun _ _ _ _ _ => safe_unguarded trivial)
      (fun _ _ _ => safe_unguarded trivial) fun _ _ _ _ => trivial
    refine local_freshId_bind (fun _ => trivial) fun requestId => ?_
    refine .bind (R := fun _ _ => True) (safe_ofExcept fun _ _ _ => trivial)
      (fun request w2 h2 _ _ => ?_) fun _ _ _ _ _ => trivial
    refine .bind (saveNext_authority (hl.grows h2) _ _ rfl (kept_of_undecided hnone rfl rfl)
      (fun _ a h => by cases h) fun x hx => by cases hx) (fun _ _ _ _ _ => ?_) fun _ _ _ _ _ => trivial
    exact safe_unguarded ((appendEvent_unguarded ..).bind fun _ => trivial)

/-! ## `decide` -/

/-- A decision is durable, beside the request it answers. -/
def Standing (s : Store) (r : UUID) (req : LocalApprovalRequestRecord)
    (a : LocalApprovalDecisionRecord) : Prop :=
  ∃ c, s.checkpoints.get r = some c ∧ c.localApprovalRequest = some req ∧ c.localApproval = some a

theorem Standing.grows {w w' : LocalWorld ι} (h : LocalGrows w w') {r : UUID}
    {req : LocalApprovalRequestRecord} {a : LocalApprovalDecisionRecord}
    (hs : Standing w.world.store r req a) : Standing w'.world.store r req a := by
  obtain ⟨c, hc, hreq, ha⟩ := hs
  obtain ⟨c', hc', hk⟩ := h.get hc
  exact ⟨c', hc', (hk.request (by rw [ha]; rfl)).trans hreq, hk.approval a ha⟩

theorem Owned.standing {s : Store} (hl : Owned s l run c) {req : LocalApprovalRequestRecord}
    {a : LocalApprovalDecisionRecord} (hreq : c.localApprovalRequest = some req)
    (ha : c.localApproval = some a) : Standing s run.runId req a := by
  obtain ⟨d, hd, -, hk⟩ := hl.stored
  exact ⟨d, hd, (hk.request (by rw [ha]; rfl)).trans hreq, hk.approval a ha⟩

/-- What a successful `decide` means: the decision it echoes is durable, and is what it returns. -/
def DecidePost (d : LocalDecisionRequest) (principal : LocalOperatorPrincipal)
    (o : Except PyExc (ControlResult LocalApprovalResolution)) (w : LocalWorld ι) : Prop :=
  ∀ res, o = .ok (.succeeded res) → ∃ req a r reconciled, Standing w.world.store d.runId req a ∧
    decisionMatchesRequest d principal req ∧ a.decision = d.decision ∧ r.runId = d.runId ∧
    res = resolution r a reconciled

theorem decidePost_error {d : LocalDecisionRequest} {principal : LocalOperatorPrincipal} {e : PyExc}
    {w : LocalWorld ι} : DecidePost d principal (.error e) w := fun _ h => by cases h

theorem decide_failed {p : Flow (ControlResult LocalApprovalResolution)}
    {d : LocalDecisionRequest} {principal : LocalOperatorPrincipal}
    (hp : p.Issues Req.unguarded) (hr : p.Returns fun x => ∃ f, x = .failed f) :
    Safe (authority parse calls origin ready) i p (DecidePost d principal) w := by
  refine (Safe.returns hr (safe_unguarded hp)).mono fun o w' _ h res hres => ?_
  obtain ⟨f, hf⟩ := h.1 _ hres
  cases hf

/-- The end of `decide`, once the decision is durable. -/
theorem resolved_authority {d : LocalDecisionRequest} {principal : LocalOperatorPrincipal}
    {req : LocalApprovalRequestRecord} {a : LocalApprovalDecisionRecord}
    (hs : Standing w.world.store d.runId req a) (hm : decisionMatchesRequest d principal req)
    (hd : a.decision = d.decision) {r : Run} (hid : r.runId = d.runId) (reconciled : Bool) :
    Safe (authority parse calls origin ready) i
      (.ret (.succeeded (resolution r a reconciled)) : Flow (ControlResult LocalApprovalResolution))
      (DecidePost d principal) w := by
  refine safe_ret fun w1 h1 _ res hres => ?_
  cases hres
  exact ⟨req, a, r, reconciled, hs.grows h1, hm, hd, hid, rfl⟩

theorem replayDecision_authority {d : LocalDecisionRequest} {principal : LocalOperatorPrincipal}
    (hl : Owned w.world.store l l.run l.checkpoint) (hid : l.run.runId = d.runId)
    {req : LocalApprovalRequestRecord} (hreq : l.checkpoint.localApprovalRequest = some req)
    (hm : decisionMatchesRequest d principal req) {existing : LocalApprovalDecisionRecord}
    (hex : l.checkpoint.localApproval = some existing) :
    Safe (authority parse calls origin ready) i (replayDecision l d existing)
      (DecidePost d principal) w := by
  have hs := hl.standing hreq hex
  rw [hid] at hs
  unfold replayDecision
  split
  · exact decide_failed trivial ⟨_, rfl⟩
  rename_i hsame
  simp only [not_or, not_not] at hsame
  refine .bind (applyDecisionState_authority hl existing) (fun x w1 h1 _ hx => ?_)
    fun _ _ _ _ _ => decidePost_error
  cases x with
  | failed failure => exact decide_failed trivial ⟨_, rfl⟩
  | succeeded x =>
    obtain ⟨r, c'⟩ := x
    obtain ⟨-, hr, -⟩ := hx r c' rfl
    exact resolved_authority (hs.grows h1) hm hsame.2.2.1 (hr.trans hid) true

theorem recordDecision_authority {cfg : LocalHitlConfig} {d : LocalDecisionRequest}
    {principal : LocalOperatorPrincipal} (hi : calls i = .decide cfg d principal)
    (hl : Owned w.world.store l l.run l.checkpoint) (hid : l.run.runId = d.runId)
    {req : LocalApprovalRequestRecord} (hreq : l.checkpoint.localApprovalRequest = some req)
    (hm : decisionMatchesRequest d principal req) (hnone : l.checkpoint.localApproval = none)
    (now : Time) :
    Safe (authority parse calls origin ready) i
      (recordDecision cfg l principal req (.create req d.decision now)) (DecidePost d principal) w := by
  have hkept : LocalKept l.checkpoint.toCheckpointFields { l.checkpoint.toCheckpointFields with
      localApproval := some (.create req d.decision now) } := by
    refine ⟨rfl, rfl, fun _ => rfl, fun a ha => ?_, fun _ => id, fun _ => id, fun _ => id⟩
    rw [hnone] at ha
    cases ha
  refine safe_catching (saveNext_authority hl _ _ rfl hkept (fun _ a ha => ?_) fun x hx => .inl hx)
    (fun c w1 _ _ hc => ?_) (fun _ _ _ => decide_failed trivial ⟨_, rfl⟩)
    fun _ _ _ _ => decidePost_error
  · cases ha
    exact .inr ⟨i, cfg, d, principal, req, hi, (hl.same.trans hid).symm, hreq, hm, rfl⟩
  obtain ⟨hl1, hk1⟩ := hc c rfl
  have ha : c.localApproval = some (.create req d.decision now) := hk1.approval _ rfl
  have hs := hl1.standing ((hk1.request rfl).trans hreq) ha
  rw [hid] at hs
  refine .bind (applyDecisionState_authority hl1 _) (fun x w2 h2 _ hx => ?_)
    fun _ _ _ _ _ => decidePost_error
  cases x with
  | failed failure => exact decide_failed trivial ⟨_, rfl⟩
  | succeeded x =>
    obtain ⟨r, c'⟩ := x
    obtain ⟨-, hr, hk2⟩ := hx r c' rfl
    refine safe_catching (R := fun _ _ => True) (safe_unguarded (appendEvent_unguarded ..))
      (fun _ w3 h3 _ _ => ?_) (fun _ _ _ => decide_failed trivial ⟨_, rfl⟩)
      fun _ _ _ _ => decidePost_error
    rw [hk2.approval _ ha]
    exact resolved_authority ((hs.grows h2).grows h3) hm rfl (hr.trans hid) false

theorem decide_authority {cfg : LocalHitlConfig} {d : LocalDecisionRequest}
    {principal : LocalOperatorPrincipal} (hi : calls i = .decide cfg d principal)
    (w : LocalWorld ι) :
    Safe (authority parse calls origin ready) i (decide cfg d principal) (DecidePost d principal)
      w := by
  refine .bind (load_authority d.runId w) (fun found w1 _ _ h => ?_)
    fun _ _ _ _ _ => decidePost_error
  cases found with
  | failed failure => exact decide_failed trivial ⟨_, rfl⟩
  | succeeded l =>
    obtain ⟨hl, hid⟩ := h l rfl
    dsimp only [decideLoaded]
    split
    · exact decide_failed trivial ⟨_, rfl⟩
    rename_i req hreq
    split
    · exact decide_failed ((auditPolicyDenial_unguarded ..).bind fun _ => trivial)
        (returns_bind _ fun _ => ⟨_, rfl⟩)
    rename_i hm
    have hm : decisionMatchesRequest d principal req = true := by simpa using hm
    split
    · rename_i existing hex
      exact replayDecision_authority hl hid hreq hm hex
    rename_i hnone
    refine local_clock_bind (fun _ => trivial) fun now => ?_
    split
    · exact decide_failed ((auditPolicyDenial_unguarded ..).bind fun _ => trivial)
        (returns_bind _ fun _ => ⟨_, rfl⟩)
    exact recordDecision_authority hi hl hid hreq hm hnone now

/-! ## `resume` -/

/-- Records in hand whose checkpoint holds a given decision. -/
structure Approved (s : Store) (l : Loaded) (a : LocalApprovalDecisionRecord) (r : Run)
    (c : Checkpoint) : Prop extends Owned s l r c where
  approval : c.localApproval = some a

variable {a : LocalApprovalDecisionRecord}

theorem Approved.grows {w w' : LocalWorld ι} (h : LocalGrows w w')
    (hl : Approved w.world.store l a run c) : Approved w'.world.store l a run c :=
  ⟨hl.toOwned.grows h, hl.approval⟩

/-- What a step of a stage body hands on. -/
def HandsOn {α : Type} (l : Loaded) (a : LocalApprovalDecisionRecord)
    (get : α → Run × Checkpoint) (P : α → Prop) (o : Except PyExc α) (w : LocalWorld ι) : Prop :=
  ∀ x, o = .ok x → Approved w.world.store l a (get x).1 (get x).2 ∧ P x

theorem handsOn_error {α : Type} {get : α → Run × Checkpoint} {P : α → Prop} {e : PyExc}
    {w : LocalWorld ι} : HandsOn l a get P (.error e) w := fun _ h => by cases h

theorem handsOn_ret {α : Type} {get : α → Run × Checkpoint} {P : α → Prop} {x : α}
    (hl : Approved w.world.store l a (get x).1 (get x).2) (hx : P x) :
    Safe (authority parse calls origin ready) i (.ret x : Flow α) (HandsOn l a get P) w := by
  refine safe_ret fun w1 h1 _ y hy => ?_
  cases hy
  exact ⟨hl.grows h1, hx⟩

/-- A stage ends the call, or hands records with the same decision on. -/
def StageHands (l : Loaded) (a : LocalApprovalDecisionRecord) (o : Except PyExc Stage)
    (w : LocalWorld ι) : Prop :=
  ∀ r c, o = .ok (.inr (r, c)) → Approved w.world.store l a r c

theorem stage_ended {p : Flow (ControlResult LocalExecutionCompletion)}
    (hp : p.Issues Req.unguarded) : Safe (authority parse calls origin ready) i (finish p)
      (StageHands l a) w := by
  refine .bind (safe_unguarded hp) (fun x w1 _ _ _ => ?_) fun _ _ _ _ _ _ _ h => by cases h
  exact safe_ret fun _ _ _ _ _ h => by cases h

theorem stage_handed (hl : Approved w.world.store l a run c) :
    Safe (authority parse calls origin ready) i (.ret (.inr (run, c)) : Flow Stage)
      (StageHands l a) w := by
  refine safe_ret fun w1 h1 _ r c' h => ?_
  cases h
  exact hl.grows h1

/-- The tail of every stage body: move the run, audit it, hand run and checkpoint on. -/
theorem advance_authority (hl : Approved w.world.store l a run c) {next expected : WorkflowState}
    {version : Nat} {v : Option UUID}
    (hn : next.protectedExecution → c.localExecutionIntent.isSome ∧
      (next = .verifying → c.localExecutionReceipt.isSome))
    {rest : Run → Flow (Run × Checkpoint)}
    (hrest : ∀ r w', Approved w'.world.store l a r c → Safe (authority parse calls origin ready) i
      (rest r) (HandsOn l a id fun _ => True) w') :
    Safe (authority parse calls origin ready) i (Flow.clock >>= fun t =>
        Flow.op (.transitionRun run.runId next expected version t none v) >>= rest)
      (HandsOn l a id fun _ => True) w := by
  refine local_clock_bind (fun _ => trivial) fun t => .bind (transition_authority hl.toOwned hn)
    (fun r w1 h1 _ hm => ?_) fun _ _ _ _ _ => handsOn_error
  exact hrest r w1 ⟨(hm r rfl).1, hl.approval⟩

theorem audited_authority (hl : Approved w.world.store l a run c) (cfg : LocalHitlConfig)
    (type : AuditEventType) (h : Sha256Digest) (m : Dict String String) :
    Safe (authority parse calls origin ready) i
      (appendEvent cfg run type h m >>= fun _ => (pure (run, c) : Flow (Run × Checkpoint)))
      (HandsOn l a id fun _ => True) w :=
  .bind (safe_unguarded (appendEvent_unguarded ..))
    (fun _ _ h1 _ _ => handsOn_ret (hl.grows h1) trivial) fun _ _ _ _ _ => handsOn_error

/-- A save that leaves the decision and the receipt alone. -/
theorem saveNext_approved (hl : Approved w.world.store l a run c) (safe : WorkflowState)
    (metadata : List (String × String)) {update : CheckpointFields → CheckpointFields}
    (hid : (update c.toCheckpointFields).runId = c.runId)
    (hk : LocalKept c.toCheckpointFields (update c.toCheckpointFields))
    (ha : (update c.toCheckpointFields).localApproval = c.localApproval)
    (hr : (update c.toCheckpointFields).localExecutionReceipt = c.localExecutionReceipt) :
    Safe (authority parse calls origin ready) i (saveNext c safe metadata update)
      (HandsOn l a (fun c' => (run, c')) fun c' =>
        LocalKept (update c.toCheckpointFields) c'.toCheckpointFields) w := by
  refine (saveNext_chain hl.toOwned safe metadata hid hk ha hr).mono fun o w' _ h c' hc => ?_
  obtain ⟨hl', hk'⟩ := h c' hc
  exact ⟨⟨hl', hk'.approval a (ha.trans hl.approval)⟩, hk'⟩

theorem registerIntent_authority (cfg : LocalHitlConfig) (hl : Approved w.world.store l a run c) :
    Safe (authority parse calls origin ready) i (registerIntent cfg l a run c)
      (HandsOn l a (fun x => (run, x.2)) fun x => x.2.localExecutionIntent = some x.1) w := by
  unfold registerIntent
  split
  · rename_i intent hintent
    exact handsOn_ret hl hintent
  rename_i hnone
  refine local_clock_bind (fun _ => trivial) fun registeredAt => ?_
  refine .bind (R := fun _ _ => True) (safe_ofExcept fun _ _ _ => trivial)
    (fun intent w1 h1 _ _ => ?_) fun _ _ _ _ _ => handsOn_error
  have hkept : LocalKept c.toCheckpointFields
      { c.toCheckpointFields with localExecutionIntent := some intent } := by
    refine ⟨rfl, rfl, fun _ => rfl, fun _ => id, fun n hn => ?_, fun _ => id, fun _ => id⟩
    rw [hnone] at hn
    cases hn
  refine .bind (saveNext_approved (hl.grows h1) _ _ rfl hkept rfl rfl) (fun c' w2 h2 _ hc => ?_)
    fun _ _ _ _ _ => handsOn_error
  obtain ⟨hl2, hk⟩ := hc c' rfl
  refine .bind (safe_unguarded (appendEvent_unguarded ..)) (fun _ w3 h3 _ _ => ?_)
    fun _ _ _ _ _ => handsOn_error
  exact handsOn_ret (hl2.grows h3) (hk.intent intent rfl)

theorem establishOwnership_authority (cfg : LocalHitlConfig)
    (hl : Approved w.world.store l a run c) :
    Safe (authority parse calls origin ready) i (establishOwnership cfg l a run c)
      (StageHands l a) w := by
  unfold establishOwnership
  split
  · exact stage_handed hl
  refine safe_catching (R := HandsOn l a id fun _ => True) ?_
    (fun x w1 _ _ h => stage_handed (h x rfl).1) (fun _ _ _ => ?_) fun _ _ _ _ _ _ h => by cases h
  · refine .bind (registerIntent_authority cfg hl) (fun x w1 _ _ hx => ?_)
      fun _ _ _ _ _ => handsOn_error
    obtain ⟨hl1, hintent⟩ := hx x rfl
    obtain ⟨intent, c'⟩ := x
    refine advance_authority hl1 (fun _ => ⟨by rw [hintent]; rfl, fun h => by cases h⟩)
      fun r w2 hr => audited_authority hr _ _ _ _
  · exact safe_ret fun _ _ _ _ _ h => by cases h

/-- The receipt a flow goes on with is the one the inventory holds for its key. -/
theorem obtainReceipt_authority (hl : Approved w.world.store l a run c)
    {intent : LocalExecutionIntent} (hintent : c.localExecutionIntent = some intent) :
    Safe (authority parse calls origin ready) i (obtainReceipt l a intent c)
      (fun o w' => ∀ x, o = .ok x → c.localExecutionReceipt = some x ∨
        w'.inventory.receipts.get x.idempotencyKey = some x) w := by
  unfold obtainReceipt
  split
  · rename_i receipt hreceipt
    refine safe_ret fun _ _ _ x hx => ?_
    cases hx
    exact .inl hreceipt
  refine local_getReceipt_bind (fun _ => trivial) (fun w1 h1 _ => ?_) fun _ _ _ _ _ h => by cases h
  split
  · rename_i receipt hget
    refine safe_ret fun w2 h2 _ x hx => ?_
    cases hx
    have hkey := Table.key_of_get hget
    exact .inr (h2.receipts.get_eq (by rw [hkey, hget]))
  · refine local_execute (fun w2 h2 _ => ?_) (fun r w2 w3 _ h3 _ hget x hx => ?_)
      fun _ _ _ _ _ h => by cases h
    · -- what is executed is what the stored checkpoint approves
      obtain ⟨d, hd, -, hk⟩ := ((hl.grows h1).grows h2).stored
      have hrun : l.proposal.runId = run.runId := by
        have hbound := hl.bound
        simp only [prerequisitesBound, Bool.and_eq_true, beq_iff_eq] at hbound
        exact hbound.1.1.2
      exact ⟨d, hrun ▸ hd, hk.proposal.trans hl.proposal, hk.approval a hl.approval,
        hk.intent intent hintent⟩
    · cases hx
      exact .inr (h3.receipts.get_eq hget)

theorem recordReceipt_authority (hl : Approved w.world.store l a run c)
    {receipt : LocalExecutionReceipt}
    (hreceipt : w.inventory.receipts.get receipt.idempotencyKey = some receipt ∨
      c.localExecutionReceipt = some receipt) :
    Safe (authority parse calls origin ready) i (recordReceipt c receipt)
      (HandsOn l a (fun c' => (run, c')) fun c' => c'.localExecutionReceipt.isSome ∧
        LocalKept c.toCheckpointFields c'.toCheckpointFields) w := by
  unfold recordReceipt
  split
  · rename_i hnone
    have hnone := Option.isNone_iff_eq_none.mp hnone
    have hkept : LocalKept c.toCheckpointFields
        { c.toCheckpointFields with localExecutionReceipt := some receipt } := by
      refine ⟨rfl, rfl, fun _ => rfl, fun _ => id, fun _ => id, fun r hr => ?_, fun _ => id⟩
      rw [hnone] at hr
      cases hr
    refine (saveNext_authority hl.toOwned _ _ rfl hkept (fun h b hb => ?_) fun x hx => ?_).mono
      fun o w' _ h c' hc => ?_
    · have hb : c.localApproval = some b := hb
      rw [h] at hb
      cases hb
    · cases hx
      exact hreceipt.symm
    · obtain ⟨hl', hk'⟩ := h c' hc
      refine ⟨⟨hl', hk'.approval a hl.approval⟩, ?_, hkept.trans hk'⟩
      rw [hk'.receipt receipt rfl]
      rfl
  · rename_i hsome
    exact handsOn_ret hl ⟨by simpa [Option.isSome_iff_ne_none] using hsome, .refl _⟩

theorem executeIntent_authority (cfg : LocalHitlConfig) (hl : Approved w.world.store l a run c) :
    Safe (authority parse calls origin ready) i (executeIntent cfg l a run c) (StageHands l a) w := by
  unfold executeIntent
  split
  · exact stage_handed hl
  split
  · exact stage_ended (persistExecutionFailure_unguarded (not_protected (by decide)) ..)
  rename_i intent hintent
  refine safe_try (R := HandsOn l a id fun _ => True) ?_ (fun x w1 _ _ h => stage_handed (h x rfl).1)
    (fun e h w1 _ _ _ he => ?_) fun _ _ _ _ _ _ h => by cases h
  · refine .bind (obtainReceipt_authority hl hintent) (fun receipt w1 h1 _ hx => ?_)
      fun _ _ _ _ _ => handsOn_error
    refine .bind (recordReceipt_authority (hl.grows h1) (hx receipt rfl).symm)
      (fun c' w2 h2 _ hc => ?_) fun _ _ _ _ _ => handsOn_error
    obtain ⟨hl2, hreceipt, hk⟩ := hc c' rfl
    refine advance_authority hl2 (fun _ => ⟨?_, fun _ => hreceipt⟩)
      fun r w3 hr => audited_authority hr _ _ _ _
    rw [hk.intent intent hintent]
    rfl
  · unfold executionHandler at he
    split at he
    · cases he
      exact stage_ended (persistExecutionFailure_unguarded (not_protected (by decide)) ..)
    · cases he
      exact stage_ended (persistExecutionFailure_unguarded (not_protected (by decide)) ..)
    · cases he
      exact stage_ended (persistExecutionFailure_unguarded (not_protected (by decide)) ..)
    · cases he
      exact stage_ended (persistExecutionFailure_unguarded (not_protected (by decide)) ..)
    · split at he <;> cases he
      exact safe_ret fun _ _ _ _ _ h => by cases h

theorem obtainVerification_authority (receipt : LocalExecutionReceipt)
    (hl : Approved w.world.store l a run c) :
    Safe (authority parse calls origin ready) i (obtainVerification receipt c)
      (HandsOn l a (fun x => (run, x.2)) fun _ => True) w := by
  unfold obtainVerification
  split
  · exact handsOn_ret hl trivial
  rename_i hnone
  refine .bind (safe_unguarded (issues_mockVerify.mpr trivial)) (fun v w1 h1 _ _ => ?_)
    fun _ _ _ _ _ => handsOn_error
  have hkept : LocalKept c.toCheckpointFields
      { c.toCheckpointFields with localVerification := some v } := by
    refine ⟨rfl, rfl, fun _ => rfl, fun _ => id, fun _ => id, fun _ => id, fun x hx => ?_⟩
    rw [hnone] at hx
    cases hx
  refine .bind (saveNext_approved (hl.grows h1) _ _ rfl hkept rfl rfl) (fun c' w2 _ _ hc => ?_)
    fun _ _ _ _ _ => handsOn_error
  exact handsOn_ret (hc c' rfl).1 trivial

theorem verifyReceipt_authority (cfg : LocalHitlConfig) (hl : Approved w.world.store l a run c) :
    Safe (authority parse calls origin ready) i (verifyReceipt cfg l run c) (StageHands l a) w := by
  unfold verifyReceipt
  split
  · exact stage_handed hl
  split
  · exact stage_ended (persistExecutionFailure_unguarded (not_protected (by decide)) ..)
  rename_i receipt _
  refine safe_try (R := HandsOn l a id fun _ => True) ?_ (fun x w1 _ _ h => stage_handed (h x rfl).1)
    (fun e h w1 _ _ _ he => ?_) fun _ _ _ _ _ _ h => by cases h
  · refine .bind (obtainVerification_authority receipt hl) (fun x w1 _ _ hx => ?_)
      fun _ _ _ _ _ => handsOn_error
    obtain ⟨hl1, -⟩ := hx x rfl
    obtain ⟨verification, c'⟩ := x
    have rest_safe (r : Run) (w2 : LocalWorld ι) (hr : Approved w2.world.store l a r c') :
        Safe (authority parse calls origin ready) i (do
          let d ← saveNext c' .successWithEvidence [("phase", "LOCAL_2"), ("local_outcome", "verified")]
          appendEvent cfg r .verificationRecorded verification.verificationHash
            (Dict.ofPairs [("proposal_id", l.proposal.proposalId.str)])
          return (r, d)) (HandsOn l a id fun _ => True) w2 := by
      refine .bind (saveNext_approved hr _ _ rfl (.refl _) rfl rfl) (fun d w3 _ _ hd => ?_)
        fun _ _ _ _ _ => handsOn_error
      exact audited_authority (hd d rfl).1 _ _ _ _
    exact advance_authority hl1
      (fun h => absurd h (not_protected (s := .successWithEvidence) (by decide))) rest_safe
  · unfold verificationHandler at he
    split at he
    · cases he
      exact stage_ended (persistExecutionFailure_unguarded (not_protected (by decide)) ..)
    · cases he
      exact stage_ended (persistExecutionFailure_unguarded (not_protected (by decide)) ..)
    · cases he
      exact stage_ended (persistExecutionFailure_unguarded (not_protected (by decide)) ..)
    · cases he
      exact stage_ended (persistExecutionFailure_unguarded (not_protected (by decide)) ..)
    · split at he <;> cases he
      exact safe_ret fun _ _ _ _ _ h => by cases h

theorem drive_authority (cfg : LocalHitlConfig) (hl : Approved w.world.store l a run c) :
    Safe (authority parse calls origin ready) i (drive cfg l a run c) (fun _ _ => True) w := by
  refine .bind (establishOwnership_authority cfg hl) (fun x w1 _ _ h1 => ?_) fun _ _ _ _ _ => trivial
  rcases x with r | ⟨run, c⟩
  · exact safe_unguarded trivial
  refine .bind (executeIntent_authority cfg (h1 _ _ rfl)) (fun x w2 _ _ h2 => ?_)
    fun _ _ _ _ _ => trivial
  rcases x with r | ⟨run, c⟩
  · exact safe_unguarded trivial
  refine .bind (verifyReceipt_authority cfg (h2 _ _ rfl)) (fun x w3 _ _ h3 => ?_)
    fun _ _ _ _ _ => trivial
  rcases x with r | ⟨run, c⟩
  · exact safe_unguarded trivial
  · exact safe_unguarded (issues_ofExcept _)

/-- **`resume` keeps the discipline.** -/
theorem resume_authority (cfg : LocalHitlConfig) (runId : UUID) (principal : LocalOperatorPrincipal)
    (w : LocalWorld ι) :
    Safe (authority parse calls origin ready) i (resume cfg runId principal) (fun _ _ => True) w := by
  refine .bind (load_authority runId w) (fun found w1 _ _ h => ?_) fun _ _ _ _ _ => trivial
  cases found with
  | failed failure => exact safe_unguarded trivial
  | succeeded l =>
    obtain ⟨hl, -⟩ := h l rfl
    dsimp only [resumeLoaded]
    split
    · exact safe_unguarded trivial
    rename_i approval happroval
    split
    · exact safe_unguarded ((auditPolicyDenial_unguarded ..).bind fun _ => trivial)
    split
    · refine .bind (applyDecisionState_authority hl approval) (fun x w2 _ _ _ => ?_)
        fun _ _ _ _ _ => trivial
      cases x with
      | failed failure => exact safe_unguarded trivial
      | succeeded x => exact safe_unguarded (issues_ofExcept_bind fun _ => trivial)
    split
    · unfold resumeSucceeded
      split
      · exact safe_catching (saveNext_chain hl _ _ rfl (.refl _) rfl rfl)
          (fun c w2 _ _ _ => safe_unguarded (issues_ofExcept _))
          (fun _ _ _ => safe_unguarded trivial) fun _ _ _ _ => trivial
      · exact safe_unguarded (issues_ofExcept _)
    · refine .bind (R := fun o w' => ∀ r c', o = .ok (.succeeded (r, c')) →
        Approved w'.world.store l approval r c') ?_ (fun x w2 _ _ hx => ?_) fun _ _ _ _ _ => trivial
      · unfold applyIfAwaiting
        split
        · refine (applyDecisionState_authority hl approval).mono fun o w' _ h r c' ho => ?_
          obtain ⟨hl', -, hk⟩ := h r c' ho
          exact ⟨hl', hk.approval approval happroval⟩
        · refine safe_ret fun w2 h2 _ r c' h => ?_
          cases h
          exact ⟨hl.grows h2, happroval⟩
      cases x with
      | failed failure => exact safe_unguarded trivial
      | succeeded x =>
        obtain ⟨r, c'⟩ := x
        refine local_clock_bind (fun _ => trivial) fun now => ?_
        split
        · exact safe_unguarded (persistExecutionFailure_unguarded (not_protected (by decide)) ..)
        · exact drive_authority cfg (hx r c' rfl)

end LocalHitlExecutionFlow

/-! ## The system -/

open LocalHitlExecutionFlow

/-- What a call of the local workflow that succeeded at deciding means. -/
def LocalPost (calls : ι → LocalCall) (i : ι) (o : Except PyExc Reply) (w : LocalWorld ι) : Prop :=
  ∀ cfg d principal res, calls i = .decide cfg d principal →
    o = .ok (.localDecided (.succeeded res)) → DecidePost d principal (.ok (.succeeded res)) w

theorem call_authority (i : ι) (w : LocalWorld ι) :
    Safe (authority parse calls origin ready) i (calls i).flow (LocalPost calls i) w := by
  cases h : calls i with
  | request cfg runId principal =>
    refine .map ((requestApproval_authority cfg runId principal w).mono fun o w' _ _ => ?_)
    intro cfg' d' principal' res hcall
    rw [h] at hcall
    cases hcall
  | decide cfg d principal =>
    refine .map ((decide_authority h w).mono fun o w' _ hpost => ?_)
    intro cfg' d' principal' res hcall ho
    rw [h] at hcall
    cases hcall
    cases o with
    | error e => cases ho
    | ok x =>
      cases ho
      exact hpost
  | resume cfg runId principal =>
    refine .map ((resume_authority cfg runId principal w).mono fun o w' _ _ => ?_)
    intro cfg' d' principal' res hcall
    rw [h] at hcall
    cases hcall

/-- Where no mutation has been made yet, the invariant holds of any durable truth. -/
theorem LocalInv.start (w : World ι) (s : Inventory)
    (hreceipts : ready → ∀ r c x, w.store.checkpoints.get r = some c →
      c.localExecutionReceipt = some x → s.receipts.get x.idempotencyKey = some x)
    (hactive : ready → ∀ r run, w.store.runs.get r = some run → run.state.protectedExecution →
      Chained w.store run run.state) : LocalInv calls w.store ready ⟨w, s, []⟩ where
  decided r c a hc ha := .inl ⟨c, hc, ha⟩
  authorized _ h := by cases h
  bound _ h := by cases h
  current _ h := by cases h
  receipted _ h := by cases h
  distinct := .nil
  receipts := hreceipts
  active := hactive

variable [DecidableEq ι] {s : Inventory} {v : World ι}
  {c c' : Config ι (LocalWorld ι) Req Req.Ans PyExc Reply}

/-- Every reachable configuration keeps the invariant and every call's safety. -/
theorem LocalReachable.safe (hinv : LocalInv calls v.store ready ⟨v, s, []⟩)
    (hc : LocalReachable parse calls v s c) : LocalInv calls v.store ready c.world ∧ ∀ j,
      Safe (authority parse calls v.store ready) j (c.threads j) (LocalPost calls j) c.world :=
  reachable_safe (D := authority parse calls v.store ready) (c := startLocal calls v s) hinv (fun j => call_authority j _) hc

omit [DecidableEq ι] in
/-- Nothing need be known of the beginning for what concerns decisions and mutations alone. -/
theorem LocalInv.any (v : World ι) (s : Inventory) : LocalInv calls v.store False ⟨v, s, []⟩ :=
  .start v s (fun h => h.elim) fun h => h.elim

theorem LocalReachable.inv (hc : LocalReachable parse calls v s c) :
    LocalInv calls v.store False c.world := (hc.safe (.any v s)).1

theorem LocalReachable.grows (hc : LocalReachable parse calls v s c)
    (hs : Steps (localAnswers parse) c c') : LocalGrows c.world c'.world :=
  reachable_evolves (D := authority parse calls v.store False) LocalGrows.refl hc.inv
    (hc.safe (.any v s)).2 hs

/-! ## One human decision a run -/

/-- The decision answers the request: every binding is echoed, and it came in time. -/
structure LocalApprovalDecisionRecord.Answers (a : LocalApprovalDecisionRecord)
    (req : LocalApprovalRequestRecord) : Prop where
  requestId : a.requestId = req.requestId
  requestHash : a.requestHash = req.requestHash
  proposalId : a.proposalId = req.proposalId
  proposalHash : a.proposalHash = req.proposalHash
  evidenceHash : a.evidenceHash = req.evidenceHash
  proposalVersion : a.proposalVersion = req.proposalVersion
  session : a.actorSessionId = req.actorSessionId
  nonceHash : a.decisionNonceHash = req.decisionNonceHash
  inTime : req.requestedAt ≤ a.decidedAt ∧ a.decidedAt ≤ req.expiresAt

/-- A decision in a checkpoint answers the request beside it. -/
theorem Checkpoint.answers (d : Checkpoint) {a : LocalApprovalDecisionRecord}
    (ha : d.localApproval = some a) :
    ∃ req, d.localApprovalRequest = some req ∧ a.runId = d.runId ∧ a.Answers req := by
  obtain ⟨-, -, -, -, -, happ, -⟩ := CheckpointFields.violation_eq_none _ |>.mp d.valid
  simp only [ha, Option.all_some, CheckpointFields.approvalBound] at happ
  split at happ
  · cases happ
  · rename_i req hreq
    simp only [Bool.and_eq_true, beq_iff_eq, decide_eq_true_eq] at happ
    obtain ⟨⟨⟨⟨⟨⟨⟨⟨⟨⟨h1, h2⟩, h3⟩, h4⟩, h5⟩, h6⟩, h7⟩, h8⟩, h9⟩, h10⟩, h11⟩ := happ
    exact ⟨req, hreq, h1, h2, h3, h4, h5, h6, h7, h8, h9, h10, h11⟩

/-- **One human decision a run.**  Once a decision is durable, it and the request it answers are the
    only ones the checkpoint ever holds; every durable decision answers the request beside it and is
    that of a call that echoes the request; and a `decide` that succeeds, the first time or again,
    returns the durable decision, which is the one it echoes. -/
structure OneDecision (calls : ι → LocalCall) (origin : Store) (s s' : Store)
    (threads : ι → Flow Reply) : Prop where
  once : ∀ r req a, Standing s r req a → ∀ req' a', Standing s' r req' a' ↔ req' = req ∧ a' = a
  bound : ∀ r d a, s'.checkpoints.get r = some d → d.localApproval = some a →
    ∃ req, d.localApprovalRequest = some req ∧ a.runId = r ∧ a.Answers req ∧
      Decided calls origin r (some req) a
  returned : ∀ i cfg d principal res, calls i = .decide cfg d principal →
    threads i = .ret (.localDecided (.succeeded res)) →
      ∃ req a r reconciled, Standing s' d.runId req a ∧ decisionMatchesRequest d principal req ∧
        a.decision = d.decision ∧ r.runId = d.runId ∧ res = resolution r a reconciled

theorem one_decision (hc : LocalReachable parse calls v s c)
    (hs : Steps (localAnswers parse) c c') :
    OneDecision calls v.store c.world.world.store c'.world.world.store c'.threads := by
  have hc' : LocalReachable parse calls v s c' := hc.trans hs
  have hinv := hc'.inv
  refine ⟨fun r req a hst req' a' => ?_, fun r d a hd ha => ?_,
    fun i cfg d principal res hi hret => ?_⟩
  · have hst' := hst.grows (hc.grows hs)
    constructor
    · intro hother
      obtain ⟨d, hd, hreq, ha⟩ := hst'
      obtain ⟨d', hd', hreq', ha'⟩ := hother
      rw [hd] at hd'
      cases hd'
      rw [hreq] at hreq'
      rw [ha] at ha'
      exact ⟨(Option.some.inj hreq').symm, (Option.some.inj ha').symm⟩
    · rintro ⟨rfl, rfl⟩
      exact hst'
  · have hid := Table.key_of_get hd
    obtain ⟨req, hreq, hrun, hanswers⟩ := d.answers ha
    have hdecided := hinv.decided r d a hd ha
    rw [hreq] at hdecided
    exact ⟨req, hreq, hrun.trans hid, hanswers, hdecided⟩
  · have hpost := reachable_ret (D := authority parse calls v.store False)
      (c := startLocal calls v s) (.any v s) (fun j => call_authority j _) hc' hret
    exact hpost cfg d principal res hi rfl res rfl

/-! ## One mutation a decision -/

/-- **At most one mutation a run**, made while its checkpoint held an approval that answers its
    request; and none of a run with a denial. -/
structure LocalAuthority (calls : ι → LocalCall) (origin : Store) (w : LocalWorld ι) : Prop where
  once : ∀ r, (w.mutations.filter (·.proposal.runId = r)).length ≤ 1
  approved : ∀ m ∈ w.mutations, ∃ d req, m.store.checkpoints.get m.proposal.runId = some d ∧
    d.remediationProposal = some m.proposal ∧ d.localExecutionIntent = some m.intent ∧
    d.localApproval = some m.approval ∧ m.approval.decision = .approved ∧
    d.localApprovalRequest = some req ∧ m.approval.Answers req
  decided : ∀ m ∈ w.mutations, ∃ req, Standing w.world.store m.proposal.runId req m.approval ∧
    Decided calls origin m.proposal.runId (some req) m.approval
  denied : ∀ r d a, w.world.store.checkpoints.get r = some d → d.localApproval = some a →
    a.decision = .denied → ∀ m ∈ w.mutations, m.proposal.runId ≠ r

omit [DecidableEq ι] in
theorem executionBound_approved {p : RemediationProposal} {e : ResourceEvidence}
    {a : LocalApprovalDecisionRecord} {n : LocalExecutionIntent} (h : executionBound p e a n) :
    a.decision = .approved ∧ n.idempotencyKey = "local-exec:" ++ p.proposalHash.hex := by
  simp only [executionBound, Bool.and_eq_true, beq_iff_eq] at h
  exact ⟨h.1.1.1.1.1.1.1.1.1.1.1.1.1.1.1.1.1.1.2, h.2⟩

omit [DecidableEq ι] in
theorem LocalInv.authority {w : LocalWorld ι} (h : LocalInv calls origin ready w) :
    LocalAuthority calls origin w where
  once r := by
    by_contra hmany
    obtain ⟨m, m', rest, hfilter⟩ : ∃ m m' rest,
        w.mutations.filter (·.proposal.runId = r) = m :: m' :: rest := by
      rcases hf : w.mutations.filter (·.proposal.runId = r) with _ | ⟨m, _ | ⟨m', rest⟩⟩
      · simp [hf] at hmany
      · simp [hf] at hmany
      · exact ⟨m, m', rest, hf⟩
    have hmem {x : Mutation ι} (hx : x ∈ m :: m' :: rest) :
        x ∈ w.mutations ∧ x.proposal.runId = r := by
      rw [← hfilter] at hx
      simpa using hx
    obtain ⟨hm, hr⟩ := hmem (List.mem_cons_self ..)
    obtain ⟨hm', hr'⟩ := hmem (List.mem_cons_of_mem _ (List.mem_cons_self ..))
    -- two mutations of one run are of one proposal, so of one key
    have hkey : m.receipt.idempotencyKey = m'.receipt.idempotencyKey := by
      obtain ⟨d, hd, hp, -⟩ := h.current m hm
      obtain ⟨d', hd', hp', -⟩ := h.current m' hm'
      rw [hr] at hd
      rw [hr', hd] at hd'
      cases hd'
      rw [hp] at hp'
      rw [(h.bound m hm).2, (h.bound m' hm').2, (executionBound_approved (h.bound m hm).1).2,
        (executionBound_approved (h.bound m' hm').1).2, Option.some.inj hp']
    have hpair := h.distinct.filter (fun x => decide (x.proposal.runId = r))
    rw [hfilter, List.pairwise_cons] at hpair
    exact hpair.1 m' (List.mem_cons_self ..) hkey
  approved m hm := by
    obtain ⟨d, hd, hp, ha, hn⟩ := h.authorized m hm
    obtain ⟨req, hreq, -, hanswers⟩ := d.answers ha
    exact ⟨d, req, hd, hp, hn, ha, (executionBound_approved (h.bound m hm).1).1, hreq, hanswers⟩
  decided m hm := by
    obtain ⟨d, hd, -, ha⟩ := h.current m hm
    obtain ⟨req, hreq, -⟩ := d.answers ha
    have hdecided := h.decided _ d _ hd ha
    rw [hreq] at hdecided
    exact ⟨req, ⟨d, hd, hreq, ha⟩, hdecided⟩
  denied r d a hd ha hdenied m hm hr := by
    obtain ⟨d', hd', -, ha'⟩ := h.current m hm
    rw [hr, hd] at hd'
    cases hd'
    rw [ha] at ha'
    cases ha'
    rw [(executionBound_approved (h.bound m hm).1).1] at hdenied
    cases hdenied

omit [DecidableEq ι] in
/-- What changes the inventory is a mutation. -/
theorem mutation_of_answers {i : ι} {w w' : LocalWorld ι} {r : Req} {x : r.Ans}
    (h : localAnswers parse i w r x w') : w'.inventory = w.inventory ∧ w'.mutations = w.mutations ∨
      ∃ m, w'.mutations = w.mutations ++ [m] ∧ m.who = i ∧ m.store = w.world.store := by
  have executed {p : RemediationProposal} {e : ResourceEvidence} {a : LocalApprovalDecisionRecord}
      {n : LocalExecutionIntent} {t : Time} {y : LocalExecutionReceipt} {applied : Bool}
      {s : Inventory} (hx : w.inventory.execute parse p e a n t = .ok (y, applied, s)) :
      (w.executed ⟨i, p, e, a, n, y, w.world.store⟩ applied s).inventory = w.inventory ∧
        (w.executed ⟨i, p, e, a, n, y, w.world.store⟩ applied s).mutations = w.mutations ∨
      ∃ m, (w.executed ⟨i, p, e, a, n, y, w.world.store⟩ applied s).mutations =
        w.mutations ++ [m] ∧ m.who = i ∧ m.store = w.world.store := by
    obtain ⟨-, ⟨rfl, rfl, -⟩ | ⟨rfl, -⟩⟩ := Inventory.execute_ok hx
    · exact .inl ⟨rfl, rfl⟩
    · exact .inr ⟨_, rfl, rfl, rfl⟩
  cases r with
  | mockExecute p e a n =>
    change ExecuteAnswer parse i w p e a n x w' at h
    cases h with
    | done h => exact executed h
    | refused h => exact .inl ⟨rfl, rfl⟩
    | failedBefore => exact .inl ⟨rfl, rfl⟩
    | failedAfter h => exact executed h
  | mockGetReceipt key => obtain ⟨rfl, -⟩ := h; exact .inl ⟨rfl, rfl⟩
  | mockVerify receipt => obtain ⟨rfl, -⟩ := h; exact .inl ⟨rfl, rfl⟩
  | _ => obtain ⟨v, -, rfl⟩ := h; exact .inl ⟨rfl, rfl⟩

/-- **Authority and at-most-once mutation**, in every configuration the workflow can reach and for
    every step out of it. -/
theorem local_authority (hc : LocalReachable parse calls v s c) :
    LocalAuthority calls v.store c.world ∧ ∀ c', Step (localAnswers parse) c c' →
      c'.world.inventory = c.world.inventory ∧ c'.world.mutations = c.world.mutations ∨
      ∃ m, c'.world.mutations = c.world.mutations ++ [m] ∧ m.store = c.world.world.store := by
  refine ⟨hc.inv.authority, fun c' hstep => ?_⟩
  cases hstep with
  | call i hthread hx =>
    rcases mutation_of_answers hx with h | ⟨m, h1, -, h2⟩
    · exact .inl h
    · exact .inr ⟨m, h1, h2⟩

end Decision

namespace Sample

attribute [local instance] digest in
/-- In the sample run, resumed, the operator's decision stands, as in any run after it. -/
theorem one_decision_sample :
    LocalHitlExecutionFlow.Standing resumed.world.world.store (uid 1) request localDecision := by
  have hone := one_decision (c := startLocal localCalls _ localInventory) .refl reachable_resumed
  exact (hone.once (uid 1) request localDecision ⟨approvedCheckpoint, Table.get_put_self .., rfl, rfl⟩
    request localDecision).mpr ⟨rfl, rfl⟩

attribute [local instance] digest in
set_option maxRecDepth 100000 in
/-- The one mutation of the sample run is the approved one. -/
theorem local_authority_sample : resumed.world.mutations.length = 1 ∧
    LocalAuthority localCalls (localStore .approved approvedCheckpoint) resumed.world :=
  ⟨by decide +kernel, (local_authority reachable_resumed).1⟩

end Sample

end CloudOpsAgent
