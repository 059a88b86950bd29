/-
  `DurableApprovalFlow.resume` under one storage failure.

  A decision is three writes, one after the other: the approval, the transition of the run, and the
  checkpoint that calls the new state safe.  `DecisionAfter k` is the repository after `k` of the
  operations of `resume` have taken effect.  A retry completes what the failure left, with one
  exception: once the run has moved, `resume` takes the decision to be applied and reports success,
  whether or not the checkpoint was saved (`approval_complete_iff`).
-/
import CloudOpsAgent.Nz.Sha256
import CloudOpsAgent.Recovery.Symbolic

namespace CloudOpsAgent

open ClientProg ClientProg.Prog Environment

section Approvals

open DurableApprovalFlow

variable [Sha256] {ι : Type}

/-! ## The records of a decision -/

/-- What `resume` looks at: the records its response names. -/
structure ApprovalRecords (s : Store) (response : ApprovalResumeRequest) (p : ActionProposal)
    (run : Run) (c : Checkpoint) (a : Option Approval) : Prop where
  proposal : s.proposals.get response.proposalId = some p
  run : s.runs.get response.runId = some run
  checkpoint : s.checkpoints.get response.runId = some c
  approval : s.approvals.get response.proposalId = a

/-- A run that awaits the decision on its proposal. -/
structure AwaitsDecision (p : ActionProposal) (run : Run) : Prop where
  proposal : p.state = .awaitingApproval
  run : run.state = .awaitingApproval

/-- No other decision than the one of the response is recorded. -/
def Agrees (response : ApprovalResumeRequest) (p : ActionProposal) (a : Option Approval) : Prop :=
  ∀ x, a = some x → x = approvalOf response p x.decidedAt

/-- The response echoes the proposal and the interrupt, no other decision is recorded, and the clock
    has not been turned back at `t`. -/
structure Applicable (response : ApprovalResumeRequest) (p : ActionProposal) (run : Run)
    (c : Checkpoint) (a : Option Approval) (t : Time) : Prop where
  bound : responseBound response p c
  agrees : Agrees response p a
  updated : run.updatedAt ≤ t

/-- A checkpoint that calls the target of the decision safe and retains the hashes of the one before. -/
structure Saved (response : ApprovalResumeRequest) (c c' : Checkpoint) : Prop where
  safe : c'.lastSafeState = response.decision.targetState
  retained : c'.toolResultHashes = c.toolResultHashes

/-- Whether the approval is still to be written. -/
def unrecorded (a : Option Approval) : Nat := if a.isNone then 1 else 0

omit [Sha256] in
@[simp] theorem unrecorded_none : unrecorded none = 1 := rfl

omit [Sha256] in
@[simp] theorem unrecorded_some (a : Approval) : unrecorded (some a) = 0 := rfl

omit [Sha256] in
theorem unrecorded_le (a : Option Approval) : unrecorded a ≤ 1 := by
  unfold unrecorded
  split <;> omega

/-- The requests that leave the records of a decision alone. -/
def Req.bystander : Req → Prop
  | .store (.appendAuditEvent _) => True
  | .store _ => False
  | _ => True

namespace ApprovalRecords

variable {s s' : Store} {w w' : World ι} {response : ApprovalResumeRequest} {p : ActionProposal}
  {run : Run} {c : Checkpoint} {a : Option Approval} {who : ι}

theorem frame {r : Req} {x : r.Ans} (hr : r.bystander) (hx : answers who w r x w')
    (h : ApprovalRecords w.store response p run c a) :
    ApprovalRecords w'.store response p run c a := by
  cases r with
  | store op =>
    obtain rfl | ⟨s, hs, rfl⟩ := answers_store hx
    · exact h
    · cases hs with
      | appendAuditEvent hn => exact ⟨h.proposal, h.run, h.checkpoint, h.approval⟩
      | unchanged hop => exact h
      | _ => cases hr
  | inspect id identity => cases hx; exact h
  | stop command => cases hx; exact h
  | _ => cases hx; exact h

theorem key (h : ApprovalRecords s response p run c a) : p.proposalId = response.proposalId :=
  Table.key_of_get h.proposal

theorem runId (h : ApprovalRecords s response p run c a) : run.runId = response.runId :=
  Table.key_of_get h.run

theorem getApproval (h : ApprovalRecords s response p run c a) :
    (Op.getApproval p.proposalId).run s = .ok (a, s) := by
  rw [h.key, ← h.approval]
  rfl

/-- A first decision is recorded. -/
theorem record (h : ApprovalRecords s response p run c none) (hp : p.state = .awaitingApproval)
    (t : Time) : ∃ s', (Op.createApproval (approvalOf response p t)).run s =
        .ok (approvalOf response p t, s') ∧
      ApprovalRecords s' response p run c (some (approvalOf response p t)) := by
  have hid : (approvalOf response p t).proposalId = p.proposalId := rfl
  have hb : (approvalOf response p t).Binds p := ⟨rfl, rfl, rfl, rfl, rfl⟩
  have hnone : s.approvals.get p.proposalId = none := by rw [h.key, h.approval]
  have hproposal : s.proposals.get p.proposalId = some p := by rw [h.key, h.proposal]
  refine ⟨{ s with approvals := s.approvals.put (approvalOf response p t) }, ?_, h.proposal, h.run,
    h.checkpoint, ?_⟩
  · simp only [Op.run, Store.createApproval, hid, hproposal, hp, hnone, validateApprovalBinding,
      if_pos hb, ne_eq, not_true, if_false, bind, Except.bind]
    rfl
  · rw [← h.key]
    exact Table.get_put_self ..

/-- A recorded decision moves its run. -/
theorem move {u t : Time} (h : ApprovalRecords s response p run c (some (approvalOf response p u)))
    (hawaits : AwaitsDecision p run) (hrun : response.runId = p.runId)
    (ht : run.updatedAt ≤ t) :
    ∃ run' s', (Op.transitionRun run.runId response.decision.targetState .awaitingApproval
        run.version t (some p.proposalId) none).run s = .ok (run', s') ∧
      run'.state = response.decision.targetState ∧
      ApprovalRecords s' response p run' c (some (approvalOf response p u)) := by
  have hallowed : response.decision.targetState ∈ ALLOWED_WORKFLOW_TRANSITIONS run.state := by
    rw [hawaits.run]
    cases response.decision <;> decide
  obtain ⟨run', hrun'⟩ : ∃ run', transitionRun run response.decision.targetState t = .ok run' := by
    simp [transitionRun, validateWorkflowTransition, hallowed, ht]
  obtain ⟨-, -, hs', -, -, hid', -, -, -⟩ := transitionRun_ok hrun'
  have hdecision : s.decisionCheck response.runId response.decision.targetState
      (some p.proposalId) = .ok () := by
    have hvalid : s.legacyDecisionValid response.runId p.proposalId response.decision := by
      simp [Store.legacyDecisionValid, h.key, h.proposal, h.approval, hrun, hawaits.proposal,
        approvalOf]
    unfold Store.decisionCheck
    cases hd : response.decision <;> rw [hd] at hvalid <;>
      simp [ApprovalDecision.targetState, hvalid]
  have hsuccess : s.successCheck response.runId response.decision.targetState none = .ok () := by
    unfold Store.successCheck
    cases response.decision <;> rfl
  refine ⟨run', { s with runs := s.runs.put run' }, ?_, hs', h.proposal, ?_, h.checkpoint,
    h.approval⟩
  · simp only [Op.run, Store.transitionRun, h.runId, h.run, Option.elim_some, bind, Except.bind,
      hawaits.run, ne_eq, not_true, or_self, if_false, hdecision, hsuccess, hrun']
    rfl
  · rw [← h.runId, ← hid']
    exact Table.get_put_self ..

/-- The next version of the checkpoint may be saved over it. -/
theorem saveNext (h : ApprovalRecords s response p run c a) (f : CheckpointFields)
    (hid : f.runId = response.runId) (hversion : f.version = c.version + 1)
    (hsafe : ¬(f.lastSafeState = .executing ∨ f.lastSafeState = .verifying))
    (hproposal : f.remediationProposal = none) (hrequest : f.localApprovalRequest = none)
    (hdecision : f.localApproval = none) (hintent : f.localExecutionIntent = none)
    (hreceipt : f.localExecutionReceipt = none) (hverification : f.localVerification = none) :
    ∃ next s', Checkpoint.validate f = .ok next ∧ next.toCheckpointFields = f ∧
      (Op.saveCheckpoint next (some c.version)).run s = .ok (next, s') ∧
      ApprovalRecords s' response p run next a := by
  have hfields : f.violation = none := by
    refine CheckpointFields.violation_eq_none _ |>.mpr ⟨?_, hsafe, ?_, ?_, ?_, ?_, ?_, ?_, ?_⟩
    · omega
    · simp [hproposal]
    · rw [hproposal]; rfl
    · rw [hrequest]; rfl
    · rw [hdecision]; rfl
    · rw [hintent]; rfl
    · rw [hreceipt]; rfl
    · rw [hverification]; rfl
  have hget : s.checkpoints.get f.runId = some c := by rw [hid, h.checkpoint]
  refine ⟨⟨f, hfields⟩, { s with checkpoints := s.checkpoints.put ⟨f, hfields⟩ },
    Checkpoint.validate_of_violation hfields, rfl, ?_, h.proposal, h.run, ?_, h.approval⟩
  · simp only [Op.run, Store.saveCheckpoint, hget, hversion, ne_eq, not_true, or_self, if_false]
    rfl
  · rw [← hid]
    exact Table.get_put_self s.checkpoints _

/-- The next checkpoint calls the target of the decision safe. -/
theorem save (h : ApprovalRecords s response p run c a) (u : Time) :
    ∃ next s', Checkpoint.validate {
        runId := run.runId
        lastSafeState := response.decision.targetState
        resumeMetadata := c.resumeMetadata.insert "approval_decision" (.str response.decision.value)
        toolResultHashes := c.toolResultHashes
        createdAt := u
        version := c.version + 1 } = .ok next ∧
      (Op.saveCheckpoint next (some c.version)).run s = .ok (next, s') ∧ Saved response c next ∧
      ApprovalRecords s' response p run next a := by
  have hsafe : ¬(response.decision.targetState = .executing ∨
      response.decision.targetState = .verifying) := by
    cases response.decision <;> simp [ApprovalDecision.targetState]
  obtain ⟨next, s', hvalid, hnext, hsave, hrecords⟩ := h.saveNext
    { runId := run.runId
      lastSafeState := response.decision.targetState
      resumeMetadata := c.resumeMetadata.insert "approval_decision" (.str response.decision.value)
      toolResultHashes := c.toolResultHashes
      createdAt := u
      version := c.version + 1 } h.runId rfl hsafe rfl rfl rfl rfl rfl rfl
  refine ⟨next, s', hvalid, hsave, ⟨?_, ?_⟩, hrecords⟩
  · rw [hnext]
  · rw [hnext]

end ApprovalRecords

/-- The repository after `k` operations of a `resume` that may be applied: three reads and the look
    for an earlier decision, the approval if there is none, the transition, the checkpoint. -/
def DecisionAfter (response : ApprovalResumeRequest) (p : ActionProposal) (run : Run) (c : Checkpoint)
    (a : Option Approval) (k : Nat) (s : Store) : Prop :=
  ∃ run' c' a', ApprovalRecords s response p run' c' a' ∧
    (k < 4 + unrecorded a → a' = a) ∧
    (4 + unrecorded a ≤ k → ∃ t, a' = some (approvalOf response p t)) ∧
    (k < 5 + unrecorded a → run' = run) ∧
    (5 + unrecorded a ≤ k → run'.state = response.decision.targetState) ∧
    (k < 6 + unrecorded a → c' = c) ∧ (6 + unrecorded a ≤ k → Saved response c c')

/-- The call returned a success. -/
def FaultRun.Succeeded {α : Type} (x : FaultRun ι (ControlResult α)) : Prop :=
  ∃ res, x.outcome = some (.ok (.succeeded res))

namespace DurableApprovalFlow

variable {e : Environment} {who : ι} {fault : Fault} {n : Nat} {st : Solo ι}
  {response : ApprovalResumeRequest} {p : ActionProposal} {run : Run} {c : Checkpoint}
  {a : Option Approval}

theorem appendEvent_bystander (run : Run) (type : AuditEventType) (hash : Sha256Digest)
    (metadata : Dict String String) :
    (appendEvent run type hash metadata).Issues Req.bystander :=
  ⟨trivial, fun _ => ⟨trivial, fun _ => Flow.issues_op_bind.mpr ⟨trivial, fun _ => trivial⟩⟩⟩

/-- An audit event, appended or not, in at most one operation. -/
theorem fwp_appendEvent (h : ApprovalRecords st.world.store response p run c a) (run' : Run)
    (type : AuditEventType) (hash : Sha256Digest) (metadata : Dict String String) :
    e.FWp who fault (appendEvent run' type hash metadata) (some n) (fun x =>
      ApprovalRecords x.final.world.store response p run c a ∧ (1 ≤ n → x.left.isSome)) st := by
  constructor
  · exact fwp_frame (F := fun w => ApprovalRecords w.store response p run c a)
      (fun _ _ _ _ hr hx h => h.frame hr hx) (appendEvent_bystander ..) h
  · change e.FWp who fault (appendEvent run' type hash metadata) (some n)
      (fun x => 1 ≤ n → x.left.isSome) st
    refine fwp_freshId_bind (fwp_clock_bind (fwp_any_bind (fun hn st' _ h => ?_) fun m hm => ?_))
    · omega
    · generalize (e.respond who _ _).1 = y
      cases y <;> exact fun _ => rfl

/-- Recording the decision: a look for an earlier one, and the write if there is none. -/
theorem fwp_recordDecision (h : ApprovalRecords st.world.store response p run c a)
    (hp : p.state = .awaitingApproval)
    (hagrees : Agrees response p a) (t : Time) :
    e.FWp who fault (recordDecision p (approvalOf response p t)) (some n) (fun x =>
      Struck fault (1 + unrecorded a) n x ∧ ∃ a',
        ApprovalRecords x.final.world.store response p run c a' ∧
        (fault.effective n < 1 + unrecorded a → a' = a) ∧
        (1 + unrecorded a ≤ fault.effective n → ∃ t', a' = some (approvalOf response p t')) ∧
        (x.left.isSome → x.final.tick = st.tick + 1 + unrecorded a)) st := by
  unfold recordDecision
  cases a with
  | some x =>
    have hsame : x = { approvalOf response p t with decidedAt := x.decidedAt } := hagrees x rfl
    refine fwp_op_bind h.getApproval (fun hn => ?_) fun m hm => ?_
    · refine ⟨⟨fun _ => ⟨rfl, rfl⟩, fun k hk => ?_⟩, some x, ?_, fun _ => rfl,
        fun _ => ⟨x.decidedAt, congrArg some hsame⟩, fun hl => by cases hl⟩
      · rw [unrecorded_some] at hk
        omega
      · rw [fault.struck_store, ite_self]
        exact h
    · simp only [ne_eq, ← hsame, not_true, if_false]
      refine ⟨⟨fun hlt => ?_, fun k hk => ⟨?_, _, rfl⟩⟩, some x, h, fun _ => rfl,
        fun _ => ⟨x.decidedAt, congrArg some hsame⟩, fun _ => rfl⟩
      · rw [unrecorded_some] at hlt
        omega
      · rw [unrecorded_some] at hk
        exact congrArg some (by omega)
  | none =>
    refine fwp_op_bind h.getApproval (fun hn => ?_) fun m hm => ?_
    · refine ⟨⟨fun _ => ⟨rfl, rfl⟩, fun k hk => ?_⟩, none, ?_, fun _ => rfl, fun hle => ?_,
        fun hl => by cases hl⟩
      · rw [unrecorded_none] at hk
        omega
      · rw [fault.struck_store, ite_self]
        exact h
      · subst hn
        unfold Fault.effective at hle
        rw [unrecorded_none] at hle
        split at hle <;> omega
    · obtain ⟨s', hcreate, hrecorded⟩ := h.record hp t
      refine fwp_op_bind hcreate (fun hn => ?_) fun k hk => ?_
      · subst hn hm
        refine ⟨⟨fun _ => ⟨rfl, rfl⟩, fun k hk => ?_⟩, ?_⟩
        · simp at hk
        cases ht : fault.mode.takesEffect
        · refine ⟨none, ?_, fun _ => rfl, fun hle => ?_, fun hl => by cases hl⟩
          · rw [fault.struck_store, ht]
            exact h
          · rw [Fault.effective_of_false ht] at hle
            simp at hle
        · refine ⟨some (approvalOf response p t), ?_, fun hlt => ?_, fun _ => ⟨t, rfl⟩,
            fun hl => by cases hl⟩
          · rw [fault.struck_store, ht]
            exact hrecorded
          · rw [Fault.effective_of_true ht] at hlt
            simp at hlt
      · subst hm hk
        refine ⟨⟨fun hlt => ?_, fun j hj => ⟨?_, _, rfl⟩⟩, some (approvalOf response p t),
          hrecorded, fun hlt => ?_, fun _ => ⟨t, rfl⟩, fun _ => rfl⟩
        · rw [unrecorded_none] at hlt
          omega
        · rw [unrecorded_none] at hj
          exact congrArg some (by omega)
        · have hle := fault.le_effective (n := k + 1 + 1)
          rw [unrecorded_none] at hlt
          omega

/-- The transition and the checkpoint of a recorded decision, then its audit event. -/
theorem fwp_moveRun {u : Time} (h : ApprovalRecords st.world.store response p run c
      (some (approvalOf response p u)))
    (hawaits : AwaitsDecision p run) (hrun : response.runId = p.runId)
    (hupdated : run.updatedAt ≤ e.now st.tick) :
    e.FWp who fault (moveRun response p run c) (some n) (fun x => ∃ run' c',
      ApprovalRecords x.final.world.store response p run' c' (some (approvalOf response p u)) ∧
      (fault.effective n < 1 → run' = run) ∧
      (1 ≤ fault.effective n → run'.state = response.decision.targetState) ∧
      (fault.effective n < 2 → c' = c) ∧ (2 ≤ fault.effective n → Saved response c c') ∧
      (∀ y, x.outcome = some (.ok y) → 2 ≤ fault.effective n ∧ ∃ run'', y = .inr run'') ∧
      (3 ≤ n → x.left.isSome)) st := by
  have hne : run.state ≠ response.decision.targetState := by
    rw [hawaits.run]
    cases response.decision <;> decide
  obtain ⟨run', s1, hmove, hs', h1⟩ := h.move hawaits hrun hupdated
  unfold moveRun
  dsimp only
  rw [if_neg hne, if_neg (not_not.mpr hawaits.run)]
  refine fwp_clock_bind (fwp_op_bind hmove (fun hn => ?_) fun m hm => ?_)
  · subst hn
    cases ht : fault.mode.takesEffect
    · refine ⟨run, c, ?_, fun _ => rfl, ?_, fun _ => rfl, ?_, fun y hy => ?_, fun h => by omega⟩
      · rw [fault.struck_store, ht]
        exact h
      · rw [Fault.effective_of_false ht]
        omega
      · rw [Fault.effective_of_false ht]
        omega
      · exact absurd hy (fault.outcome_ne_ok y)
    · refine ⟨run', c, ?_, ?_, fun _ => hs', fun _ => rfl, ?_, fun y hy => ?_, fun h => by omega⟩
      · rw [fault.struck_store, ht]
        exact h1
      · rw [Fault.effective_of_true ht]
        omega
      · rw [Fault.effective_of_true ht]
        omega
      · exact absurd hy (fault.outcome_ne_ok y)
  -- the run has moved
  obtain ⟨next, s2, hnext, hsave, hsaved, h2⟩ := h1.save (e.now (st.tick + 1 + 1))
  refine fwp_clock_bind ?_
  simp only [Solo.applied_tick, Solo.next_tick, hnext, ofExcept_ok, ret_bind]
  refine fwp_op_bind hsave (fun hn => ?_) fun k hk => ?_
  · subst hn hm
    cases ht : fault.mode.takesEffect
    · refine ⟨run', c, ?_, ?_, fun _ => hs', fun _ => rfl, ?_, fun y hy => ?_, fun h => by omega⟩
      · rw [fault.struck_store, ht]
        exact h1
      · rw [Fault.effective_of_false ht]
        omega
      · rw [Fault.effective_of_false ht]
        omega
      · exact absurd hy (fault.outcome_ne_ok y)
    · refine ⟨run', next, ?_, ?_, fun _ => hs', ?_, fun _ => hsaved, fun y hy => ?_,
        fun h => by omega⟩
      · rw [fault.struck_store, ht]
        exact h2
      · rw [Fault.effective_of_true ht]
        omega
      · rw [Fault.effective_of_true ht]
        omega
      · exact absurd hy (fault.outcome_ne_ok y)
  -- and its checkpoint is saved; the audit event changes nothing here
  subst hm hk
  have heffective : 2 ≤ fault.effective (k + 1 + 1) := (by omega : 2 ≤ k + 1 + 1).trans
    fault.le_effective
  have hdone {x : FaultRun ι (Run ⊕ Run)}
      (hx : ApprovalRecords x.final.world.store response p run' next
        (some (approvalOf response p u)) ∧ (1 ≤ k → x.left.isSome))
      (hy : ∀ y, x.outcome = some (.ok y) → ∃ run'', y = .inr run'') :
      ∃ run' c', ApprovalRecords x.final.world.store response p run' c'
          (some (approvalOf response p u)) ∧
        (fault.effective (k + 1 + 1) < 1 → run' = run) ∧
        (1 ≤ fault.effective (k + 1 + 1) → run'.state = response.decision.targetState) ∧
        (fault.effective (k + 1 + 1) < 2 → c' = c) ∧
        (2 ≤ fault.effective (k + 1 + 1) → Saved response c c') ∧
        (∀ y, x.outcome = some (.ok y) → 2 ≤ fault.effective (k + 1 + 1) ∧
          ∃ run'', y = .inr run'') ∧
        (3 ≤ k + 1 + 1 → x.left.isSome) :=
    ⟨run', next, hx.1, fun _ => by omega, fun _ => hs', fun _ => by omega, fun _ => hsaved,
      fun y h => ⟨heffective, hy y h⟩, fun _ => hx.2 (by omega)⟩
  refine fwp_bind (fwp_appendEvent h2 ..) (fun _ l st3 h3 => ?_) (fun y l st3 h3 => ?_)
    fun l st3 h3 => ?_
  · refine hdone h3 fun y hy => ?_
    cases hy
    exact ⟨run', rfl⟩
  · refine hdone h3 fun y hy => ?_
    cases hy
  · refine hdone h3 fun y hy => ?_
    cases hy

/-- What the agent makes of the decision changes nothing. -/
theorem fwp_resumeAgent (runtime : PrimaryAgentRuntime) (run' : Run) (hash : Sha256Digest)
    (left : Option Nat) : e.FWp who fault (resumeAgent runtime response run' hash) left
      (fun x => x.final.world = st.world ∧ x.left = left) st := by
  refine fwp_try (R := fun x => x.final.world = st.world ∧ x.left = left) (fwp_agent ⟨rfl, rfl⟩)
    (fun y l st' h => ?_) (fun y l st' h => fwp_ret h) fun l st' h => h
  obtain ⟨hw, rfl⟩ := h
  split
  · exact fwp_ret ⟨hw, rfl⟩
  · refine fwp_bind (R := fun x => x.final.world = st.world ∧ x.left = l) (fwp_ofExcept ⟨hw, rfl⟩)
      (fun a l' st' h => fwp_ret h) (fun _ _ _ h => h) fun _ _ h => h

/-- The three reads of `resume`. -/
theorem fwp_lookups (h : ApprovalRecords st.world.store response p run c a) :
    e.FWp who fault (do
      let proposal ← Flow.op (.getProposal response.proposalId)
      let run ← Flow.op (.getRun response.runId)
      let checkpoint ← Flow.op (.getCheckpoint response.runId)
      return (proposal, run, checkpoint)) (some n) (fun x => Struck fault 3 n x ∧
        x.final.world.store = st.world.store ∧ (x.left.isSome → x.final.tick = st.tick + 3) ∧
        ∀ v, x.outcome = some (.ok v) → v = (some p, some run, some c)) st := by
  have h1 : (Op.getProposal response.proposalId).run st.world.store =
      .ok (some p, st.world.store) := by
    rw [← h.proposal]
    rfl
  have h2 : (Op.getRun response.runId).run st.world.store = .ok (some run, st.world.store) := by
    rw [← h.run]
    rfl
  have h3 : (Op.getCheckpoint response.runId).run st.world.store =
      .ok (some c, st.world.store) := by
    rw [← h.checkpoint]
    rfl
  have struck {m : Nat} {op : Op} {st' : Solo ι} (hm : n = m) (hlt : m < 3)
      (hst : st'.world.store = st.world.store) :
      Struck fault 3 n (⟨fault.outcome, none, fault.struck st' (st'.applied who op st'.world.store)⟩ :
        FaultRun ι (Option ActionProposal × Option Run × Option Checkpoint)) ∧
      (fault.struck st' (st'.applied who op st'.world.store)).world.store = st.world.store ∧
      ((none : Option Nat).isSome →
        (fault.struck st' (st'.applied who op st'.world.store)).tick = st.tick + 3) ∧
      ∀ v : Option ActionProposal × Option Run × Option Checkpoint,
        fault.outcome = some (.ok v) → v = (some p, some run, some c) := by
    refine ⟨⟨fun _ => ⟨rfl, rfl⟩, fun k hk => by omega⟩, ?_, fun hl => (by cases hl),
      fun v hv => absurd hv (fault.outcome_ne_ok v)⟩
    rw [fault.struck_store, ite_self, hst]
  refine fwp_op_bind h1 (fun hn => struck hn (by omega) rfl) fun n1 hn1 => ?_
  refine fwp_op_bind h2 (fun hn => struck (m := 1) (by omega) (by omega) rfl) fun n2 hn2 => ?_
  refine fwp_op_bind h3 (fun hn => struck (m := 2) (by omega) (by omega) rfl) fun n3 hn3 => ?_
  refine fwp_ret ⟨⟨fun hlt => by omega, fun k hk => ⟨congrArg some (by omega), _, rfl⟩⟩, rfl,
    fun _ => rfl, fun v hv => ?_⟩
  cases hv
  rfl

/-- **The writes of a response that may be applied**, under one fault. -/
theorem fwp_resume (runtime : PrimaryAgentRuntime)
    (h : ApprovalRecords st.world.store response p run c a)
    (hawaits : AwaitsDecision p run)
    (happ : Applicable response p run c a (e.now (st.tick + 5 + unrecorded a))) :
    e.FWp who fault (resume runtime response) (some n) (fun x =>
      DecisionAfter response p run c a (fault.effective n) x.final.world.store ∧
      (x.Succeeded → 6 + unrecorded a ≤ fault.effective n) ∧ (8 ≤ n → x.left.isSome)) st := by
  have untouched {s : Store} (hk : fault.effective n < 4) (hs : s = st.world.store) :
      DecisionAfter response p run c a (fault.effective n) s :=
    ⟨run, c, a, hs ▸ h, fun _ => rfl, fun _ => by omega, fun _ => rfl, fun _ => by omega,
      fun _ => rfl, fun _ => by omega⟩
  refine fwp_try_struck (fwp_lookups h) ?_ ?_ ?_
  · rintro hn - st' ⟨hs, -⟩
    have hle := fault.effective_le (n := n)
    exact ⟨untouched (by omega) hs, fun ⟨_, hres⟩ => (by cases hres), fun _ => by omega⟩
  · rintro hn - st' ⟨hs, -⟩
    have hle := fault.effective_le (n := n)
    unfold Flow.catching
    split
    · exact wp_ret ⟨untouched (by omega) hs, fun ⟨_, hres⟩ => (by cases hres), fun _ => by omega⟩
    · exact wp_raise ⟨untouched (by omega) hs, fun ⟨_, hres⟩ => (by cases hres), fun _ => by omega⟩
  rintro k v st1 hn ⟨hs, htick, hv⟩
  subst hn
  obtain rfl := hv v rfl
  have htick := htick rfl
  have h1 : ApprovalRecords st1.next.world.store response p run c a := hs ▸ h
  have hrun : response.runId = p.runId := by
    have hb := happ.bound
    simp only [responseBound, Bool.and_eq_true, beq_iff_eq] at hb
    exact hb.1.1.1.1.1.1
  dsimp only [resumeLoaded]
  rw [if_pos happ.bound]
  refine fwp_clock_bind ?_
  -- the decision, the transition and the checkpoint
  refine fwp_try (R := fun x => DecisionAfter response p run c a (fault.effective (k + 3))
      x.final.world.store ∧ (∀ y, x.outcome = some (.ok y) →
        6 + unrecorded a ≤ fault.effective (k + 3) ∧ ∃ run'', y = .inr run'') ∧
      (8 ≤ k + 3 → x.left.isSome)) ?_ (fun y l st2 h2 => ?_) (fun y l st2 h2 => ?_) fun l st2 h2 => ?_
  · refine fwp_bind_struck (fwp_recordDecision h1 hawaits.proposal happ.agrees _)
      (fun hlt st2 h2 => ?_) fun m _ st2 hm h2 => ?_
    · obtain ⟨a', h2, hbefore, hafter, -⟩ := h2
      have hle := fault.effective_le (n := k)
      have hadd := fault.effective_add (n := k) 3
      refine ⟨⟨run, c, a', h2, fun hk => hbefore (by omega), fun hk => hafter (by omega),
        fun _ => rfl, fun hk => by omega, fun _ => rfl, fun hk => by omega⟩, fun y hy => ?_,
        fun h8 => ?_⟩
      · exact absurd hy (fault.outcome_ne_ok y)
      · have hone := unrecorded_le a
        omega
    · obtain ⟨a', h2, -, hafter, htick2⟩ := h2
      subst hm
      have hadd := fault.effective_add (n := m + (1 + unrecorded a)) 3
      have hadd' := fault.effective_add (n := m) (1 + unrecorded a)
      obtain ⟨u, rfl⟩ := hafter (by omega)
      have hnow : run.updatedAt ≤ e.now st2.tick := by
        have htick2 : st2.tick = st1.next.tick + 1 + unrecorded a := htick2 rfl
        rw [htick2, Solo.next_tick, htick]
        have hu := happ.updated
        have heq : st.tick + 3 + 1 + 1 + unrecorded a = st.tick + 5 + unrecorded a := by omega
        rwa [heq]
      obtain ⟨run', c', h3, hr, hr', hc, hc', hy, hl⟩ :
          e.FWp who fault (moveRun response p run c) (some m) _ st2 :=
        fwp_moveRun h2 hawaits hrun hnow
      refine ⟨⟨run', c', _, h3, fun hk => by omega, fun _ => ⟨u, rfl⟩, fun hk => hr (by omega),
        fun hk => hr' (by omega), fun hk => hc (by omega), fun hk => hc' (by omega)⟩,
        fun y hy' => ?_, fun h8 => hl ?_⟩
      · obtain ⟨h2, hrun''⟩ := hy y hy'
        exact ⟨by omega, hrun''⟩
      · have hone := unrecorded_le a
        omega
  · obtain ⟨hd, hy, hl⟩ := h2
    obtain ⟨heff, run'', rfl⟩ := hy y rfl
    obtain ⟨hw, hleft⟩ : e.FWp who fault (resumeAgent runtime response run''
        (approvalRequestHash (buildApprovalPayload p))) l _ st2 := fwp_resumeAgent ..
    refine ⟨?_, fun _ => heff, fun h8 => ?_⟩
    · rw [← hw] at hd
      exact hd
    · have hl := hl h8
      rw [← hleft] at hl
      exact hl
  · obtain ⟨hd, -, hl⟩ := h2
    cases y <;> exact ⟨hd, fun ⟨_, hres⟩ => (by cases hres), hl⟩
  · exact ⟨h2.1, fun ⟨_, hres⟩ => (by cases hres), h2.2.2⟩

/-- Another decision than the one recorded is refused. -/
theorem fwp_recordDecision_refused (h : ApprovalRecords st.world.store response p run c a)
    (hother : ¬Agrees response p a) (t : Time) :
    e.FWp who fault (recordDecision p (approvalOf response p t)) (some n) (fun x =>
      ApprovalRecords x.final.world.store response p run c a ∧
      (∀ y, x.outcome ≠ some (.ok y)) ∧ (1 ≤ n → x.left.isSome)) st := by
  obtain ⟨x, rfl, hx⟩ : ∃ x, a = some x ∧ x ≠ approvalOf response p x.decidedAt := by
    simpa only [Agrees, not_forall, exists_prop] using hother
  have hx : x ≠ { approvalOf response p t with decidedAt := x.decidedAt } := hx
  refine fwp_op_bind h.getApproval (fun hn => ?_) fun m hm => ?_
  · refine ⟨?_, fun y => fault.outcome_ne_ok y, fun h1 => by omega⟩
    rw [fault.struck_store, ite_self]
    exact h
  · simp only [hx, ne_eq, not_false_eq_true, if_true]
    exact ⟨h, fun y hy => (by cases hy), fun _ => rfl⟩

/-- With a clock turned back the run does not move. -/
theorem fwp_moveRun_refused (h : ApprovalRecords st.world.store response p run c a)
    (hawaits : AwaitsDecision p run) (hback : ¬run.updatedAt ≤ e.now st.tick) :
    e.FWp who fault (moveRun response p run c) (some n) (fun x =>
      ApprovalRecords x.final.world.store response p run c a ∧
      (∀ y, x.outcome ≠ some (.ok y)) ∧ (1 ≤ n → x.left.isSome)) st := by
  have hne : run.state ≠ response.decision.targetState := by
    rw [hawaits.run]
    cases response.decision <;> decide
  obtain ⟨y, hmove⟩ : ∃ y, (Op.transitionRun run.runId response.decision.targetState
      .awaitingApproval run.version (e.now st.tick) (some p.proposalId) none).run
        st.next.world.store = .error y := by
    cases hrun : (Op.transitionRun run.runId response.decision.targetState .awaitingApproval
      run.version (e.now st.tick) (some p.proposalId) none).run st.next.world.store with
    | error y => exact ⟨y, rfl⟩
    | ok vs =>
      obtain ⟨current, hc, -, -, -, -, ht, -⟩ := Store.transitionRun_ok hrun
      rw [h.runId, Solo.next_world, h.run] at hc
      cases hc
      exact absurd (transitionRun_ok ht).2.1 hback
  unfold moveRun
  dsimp only
  rw [if_neg hne, if_neg (not_not.mpr hawaits.run)]
  refine fwp_clock_bind (fwp_any_bind (fun hn st' hst => ?_) fun m hm => ?_)
  · refine ⟨?_, fun y => fault.outcome_ne_ok y, fun h1 => by omega⟩
    obtain hw | rfl := hst
    · rw [hw]
      exact h
    · rw [respond_error hmove]
      exact h
  · rw [respond_error hmove]
    exact ⟨h, fun y hy => (by cases hy), fun _ => rfl⟩

/-- What is recorded after `k` operations of a `resume` that may not be applied. -/
structure RefusedAfter (response : ApprovalResumeRequest) (p : ActionProposal) (c : Checkpoint)
    (a : Option Approval) (k : Nat) (a' : Option Approval) : Prop where
  before : k < 4 + unrecorded a → a' = a
  refused : ¬(responseBound response p c ∧ Agrees response p a) → a' = a
  recorded : responseBound response p c → Agrees response p a → 4 + unrecorded a ≤ k →
    ∃ t, a' = some (approvalOf response p t)

theorem RefusedAfter.refl {k : Nat} (h : ¬(responseBound response p c ∧ Agrees response p a) ∨
    k < 4 + unrecorded a) : RefusedAfter response p c a k a := by
  refine ⟨fun _ => rfl, fun _ => rfl, fun hb ha hk => ?_⟩
  obtain h | h := h
  · exact absurd ⟨hb, ha⟩ h
  · omega

/-- A response that may not be applied is not. -/
theorem fwp_resume_refused (runtime : PrimaryAgentRuntime)
    (h : ApprovalRecords st.world.store response p run c a)
    (hawaits : AwaitsDecision p run)
    (hnot : ¬Applicable response p run c a (e.now (st.tick + 5 + unrecorded a))) :
    e.FWp who fault (resume runtime response) (some n) (fun x => ∃ a',
      ApprovalRecords x.final.world.store response p run c a' ∧
      RefusedAfter response p c a (fault.effective n) a' ∧ ¬x.Succeeded ∧
      (8 ≤ n → x.left.isSome)) st := by
  refine fwp_try_struck (fwp_lookups h) ?_ ?_ ?_
  · rintro hn - st' ⟨hs, -⟩
    have hle := fault.effective_le (n := n)
    exact ⟨a, hs ▸ h, .refl (.inr (by omega)), fun ⟨_, hres⟩ => (by cases hres), fun _ => by omega⟩
  · rintro hn - st' ⟨hs, -⟩
    have hle := fault.effective_le (n := n)
    have hsame : RefusedAfter response p c a (fault.effective n) a := .refl (.inr (by omega))
    unfold Flow.catching
    split
    · exact wp_ret ⟨a, hs ▸ h, hsame, fun ⟨_, hres⟩ => (by cases hres), fun _ => by omega⟩
    · exact wp_raise ⟨a, hs ▸ h, hsame, fun ⟨_, hres⟩ => (by cases hres), fun _ => by omega⟩
  rintro k v st1 hn ⟨hs, htick, hv⟩
  subst hn
  obtain rfl := hv v rfl
  have htick := htick rfl
  have hadd := fault.effective_add (n := k) 3
  have h1 : ApprovalRecords st1.next.world.store response p run c a := hs ▸ h
  dsimp only [resumeLoaded]
  split
  · rename_i hbound
    refine fwp_clock_bind ?_
    refine fwp_try (R := fun x => ∃ a', ApprovalRecords x.final.world.store response p run c a' ∧
        RefusedAfter response p c a (fault.effective (k + 3)) a' ∧
        (∀ y, x.outcome ≠ some (.ok y)) ∧ (8 ≤ k + 3 → x.left.isSome)) ?_ (fun y l st2 h2 => ?_)
        (fun y l st2 h2 => ?_) fun l st2 h2 => ?_
    · by_cases hagrees : Agrees response p a
      · -- the clock was turned back
        have hback : ¬run.updatedAt ≤ e.now (st.tick + 5 + unrecorded a) := fun hu =>
          hnot ⟨hbound, hagrees, hu⟩
        refine fwp_bind_struck (fwp_recordDecision h1 hawaits.proposal hagrees _)
          (fun hlt st2 h2 => ?_) fun m _ st2 hm h2 => ?_
        · obtain ⟨a', h2, hbefore, hafter, -⟩ := h2
          refine ⟨a', h2, ⟨fun hk => hbefore (by omega), fun hno => absurd ⟨hbound, hagrees⟩ hno,
            fun _ _ hk => hafter (by omega)⟩, fun y => fault.outcome_ne_ok y, fun h8 => ?_⟩
          have hone := unrecorded_le a
          omega
        · obtain ⟨a', h2, -, hafter, htick2⟩ := h2
          subst hm
          have htick2 : st2.tick = st1.next.tick + 1 + unrecorded a := htick2 rfl
          have hback2 : ¬run.updatedAt ≤ e.now st2.tick := by
            have heq : st.tick + 3 + 1 + 1 + unrecorded a = st.tick + 5 + unrecorded a := by omega
            rwa [htick2, Solo.next_tick, htick, heq]
          obtain ⟨h3, hno, hl⟩ : e.FWp who fault (moveRun response p run c) (some m) _ st2 :=
            fwp_moveRun_refused h2 hawaits hback2
          have hle := fault.le_effective (n := m + (1 + unrecorded a))
          have hone := unrecorded_le a
          exact ⟨a', h3, ⟨fun hk => by omega, fun hno => absurd ⟨hbound, hagrees⟩ hno,
            fun _ _ _ => hafter (by omega)⟩, hno, fun h8 => hl (by omega)⟩
      · have hsame : RefusedAfter response p c a (fault.effective (k + 3)) a :=
          .refl (.inl fun h => hagrees h.2)
        refine fwp_bind (fwp_recordDecision_refused h1 hagrees _) (fun y l st2 h2 => ?_)
          (fun y l st2 h2 => ?_) fun l st2 h2 => ?_
        · exact absurd rfl (h2.2.1 y)
        · exact ⟨a, h2.1, hsame, fun y hy => (by cases hy), fun h8 => h2.2.2 (by omega)⟩
        · exact ⟨a, h2.1, hsame, fun y hy => (by cases hy), fun h8 => h2.2.2 (by omega)⟩
    · obtain ⟨a', -, -, hno, -⟩ := h2
      exact absurd rfl (hno y)
    · obtain ⟨a', h2, ha', -, hl⟩ := h2
      cases y <;> exact ⟨a', h2, ha', fun ⟨_, hres⟩ => (by cases hres), hl⟩
    · obtain ⟨a', h2, ha', -, hl⟩ := h2
      exact ⟨a', h2, ha', fun ⟨_, hres⟩ => (by cases hres), hl⟩
  · rename_i hunbound
    have hsame : RefusedAfter response p c a (fault.effective (k + 3)) a :=
      .refl (.inl fun h => hunbound h.1)
    have h1' : ApprovalRecords st1.world.store response p run c a := hs ▸ h
    refine fwp_try (fwp_appendEvent h1' ..) (fun _ l st2 h2 => ?_) (fun y l st2 h2 => ?_)
      fun l st2 h2 => ?_
    · exact ⟨a, h2.1, hsame, fun ⟨_, hres⟩ => (by cases hres), fun h8 => h2.2 (by omega)⟩
    · unfold Flow.catching
      split <;>
        exact ⟨a, h2.1, hsame, fun ⟨_, hres⟩ => (by cases hres), fun h8 => h2.2 (by omega)⟩
    · exact ⟨a, h2.1, hsame, fun ⟨_, hres⟩ => (by cases hres), fun h8 => h2.2 (by omega)⟩

/-- A decision that is applied stays as it is; it is reported when the response is bound. -/
theorem wp_resume_decided (runtime : PrimaryAgentRuntime)
    (h : ApprovalRecords st.world.store response p run c a)
    (hrun : run.state = response.decision.targetState)
    (ha : ∃ t, a = some (approvalOf response p t)) :
    e.Wp who (resume runtime response) (fun o st' =>
      ApprovalRecords st'.world.store response p run c a ∧
      (responseBound response p c → ∃ res, o = .ok (.succeeded res))) st := by
  have hlookups : e.Wp who (do
      let proposal ← Flow.op (.getProposal response.proposalId)
      let run ← Flow.op (.getRun response.runId)
      let checkpoint ← Flow.op (.getCheckpoint response.runId)
      return (proposal, run, checkpoint)) (fun o st' => o = .ok (some p, some run, some c) ∧
        ApprovalRecords st'.world.store response p run c a) st := by
    refine wp_of_fwp .late 3 (FWp.mono (fun x hx => ?_) (fwp_lookups h))
    obtain ⟨hstruck, hs, -, hv⟩ := hx
    obtain ⟨hl, v, ho⟩ := hstruck.2 0 rfl
    refine ⟨by rw [hl]; rfl, fun o ho' => ?_⟩
    rw [ho] at ho'
    cases ho'
    exact ⟨congrArg Except.ok (hv v ho), hs ▸ h⟩
  refine wp_try hlookups (fun v st1 h1 => ?_) fun y st1 h1 => by cases h1.1
  obtain ⟨hv, h1⟩ := h1
  cases hv
  obtain ⟨t, rfl⟩ := ha
  dsimp only [resumeLoaded]
  by_cases hbound : responseBound response p c
  · rw [if_pos hbound]
    refine wp_clock_bind ?_
    have hmove : moveRun response p run c = .ret (.inl run) := if_pos hrun
    have happly : e.Wp who (applyDecision response p run c (approvalOf response p (e.now st1.tick)))
        (fun o st' => o = .ok (.inl run) ∧
          ApprovalRecords st'.world.store response p run c (some (approvalOf response p t)))
        st1.next := by
      have hsame : approvalOf response p t =
        { approvalOf response p (e.now st1.tick) with decidedAt := t } := rfl
      refine wp_bind (R := fun o st' => o = .ok () ∧ ApprovalRecords st'.world.store response p run c
        (some (approvalOf response p t))) ?_ (fun _ st2 h2 => ?_) fun y st2 h2 => by cases h2.1
      · have hget : (Op.getApproval p.proposalId).run st1.next.world.store =
          .ok (some (approvalOf response p t), st1.next.world.store) := h1.getApproval
        unfold recordDecision
        refine wp_op_bind hget ?_
        have hif : ¬approvalOf response p t ≠
          { approvalOf response p (e.now st1.tick) with decidedAt := (approvalOf response p t).decidedAt } :=
          not_not.mpr hsame
        change e.Wp who (if _ then _ else _) _ _
        rw [if_neg hif]
        exact wp_ret ⟨rfl, h1⟩
      · rw [hmove]
        exact wp_ret ⟨rfl, h2.2⟩
    refine wp_try happly (fun v st2 h2 => ?_) fun y st2 h2 => by cases h2.1
    obtain ⟨hv, h2⟩ := h2
    cases hv
    have hresolution : resolution runtime run response.decision
        (approvalRequestHash (buildApprovalPayload p)) true = .ok ⟨run.runId, run.traceId,
          run.correlationId, runtime.proposalId, response.decision, run.state,
          approvalRequestHash (buildApprovalPayload p), !true, true, hrun⟩ := dif_pos hrun
    dsimp only
    rw [hresolution]
    exact wp_ret ⟨h2, fun _ => ⟨_, rfl⟩⟩
  · rw [if_neg hbound]
    have hevent : e.Wp who _ _ st1 := wp_frame
      (F := fun w => ApprovalRecords w.store response p run c (some (approvalOf response p t)))
      (fun _ _ _ _ hr hx h => h.frame hr hx) (appendEvent_bystander run .policyDenied
        (approvalRequestHash (buildApprovalPayload p))
        (Dict.ofPairs [("policy_code", "APPROVAL_BINDING_MISMATCH"),
          ("proposal_id", p.proposalId.str)])) h1
    refine wp_try hevent (fun _ st2 h2 => wp_ret ⟨h2, fun hb => absurd hb hbound⟩)
      fun y st2 h2 => ?_
    unfold Flow.catching
    split
    · exact wp_ret ⟨h2, fun hb => absurd hb hbound⟩
    · exact wp_raise ⟨h2, fun hb => absurd hb hbound⟩

/-! ## A successful approval -/

/-- The decision of the response is in force: recorded, the run in its target state, and a
    checkpoint that calls the state safe and retains the hashes of the checkpoint `c` before. -/
structure Complete (response : ApprovalResumeRequest) (p : ActionProposal) (c : Checkpoint)
    (s : Store) : Prop where
  approval : ∃ t, s.approvals.get response.proposalId = some (approvalOf response p t)
  run : ∃ run, s.runs.get response.runId = some run ∧ run.state = response.decision.targetState
  checkpoint : ∃ c', s.checkpoints.get response.runId = some c' ∧ Saved response c c'

/-- For an approval, the checkpoint is what `load_execution_prerequisites` asks for. -/
theorem Complete.prerequisite {s : Store} (h : Complete response p c s)
    (happroved : response.decision = .approved)
    (hevidence : c.toolResultHashes.lookup "build_remediation_evidence" = some p.evidenceHash) :
    ∃ c', s.checkpoints.get response.runId = some c' ∧ c'.lastSafeState = .approved ∧
      c'.toolResultHashes.lookup "build_remediation_evidence" = some p.evidenceHash := by
  obtain ⟨c', hc', hsafe, hretained⟩ := h.checkpoint
  refine ⟨c', hc', ?_, ?_⟩
  · rw [hsafe, happroved]
    rfl
  · rw [hretained, hevidence]

/-- Where a run is between two retries: as it was, its decision perhaps recorded, or complete. -/
def Settling (response : ApprovalResumeRequest) (p : ActionProposal) (run : Run) (c : Checkpoint)
    (s : Store) : Prop :=
  (∃ a, ApprovalRecords s response p run c a) ∨ ∃ run' c' t,
    ApprovalRecords s response p run' c' (some (approvalOf response p t)) ∧
      run'.state = response.decision.targetState ∧ Saved response c c'

theorem complete_of_records {s : Store} {run' : Run} {c' : Checkpoint} {t : Time}
    (h : ApprovalRecords s response p run' c' (some (approvalOf response p t)))
    (hrun : run'.state = response.decision.targetState) (hsaved : Saved response c c') :
    Complete response p c s :=
  ⟨⟨t, h.approval⟩, ⟨run', h.run, hrun⟩, ⟨c', h.checkpoint, hsaved⟩⟩

/-- A retry leaves the run as it was or completes the decision, and only then reports success. -/
theorem wp_resume_settling (runtime : PrimaryAgentRuntime) (hawaits : AwaitsDecision p run)
    (h : Settling response p run c st.world.store) :
    e.Wp who (resume runtime response) (fun o st' => Settling response p run c st'.world.store ∧
      ((∃ res, o = .ok (.succeeded res)) → Complete response p c st'.world.store)) st := by
  obtain ⟨a, h⟩ | ⟨run', c', t, h, hrun, hsaved⟩ := h
  · refine wp_of_fwp .late 8 ?_
    by_cases happ : Applicable response p run c a (e.now (st.tick + 5 + unrecorded a))
    · refine FWp.mono (fun x hx => ?_) (fwp_resume runtime h hawaits happ)
      obtain ⟨⟨run', c', a', h', -, ha', -, hrun', -, hc'⟩, -, hl⟩ := hx
      have hone := unrecorded_le a
      have height : Fault.late.effective 8 = 8 := rfl
      rw [height] at ha' hrun' hc'
      obtain ⟨t, rfl⟩ := ha' (by omega)
      have hrun' := hrun' (by omega)
      have hc' := hc' (by omega)
      exact ⟨hl (by omega), fun o _ => ⟨.inr ⟨run', c', t, h', hrun', hc'⟩,
        fun _ => complete_of_records h' hrun' hc'⟩⟩
    · refine FWp.mono (fun x hx => ?_) (fwp_resume_refused runtime h hawaits happ)
      obtain ⟨a', h', -, hno, hl⟩ := hx
      exact ⟨hl (by omega), fun o ho => ⟨.inl ⟨a', h'⟩, fun ⟨res, hres⟩ =>
        absurd ⟨res, hres ▸ ho⟩ hno⟩⟩
  · refine (wp_resume_decided runtime h hrun ⟨t, rfl⟩).mono fun o st' h' => ?_
    exact ⟨.inr ⟨run', c', t, h'.1, hrun, hsaved⟩, fun _ => complete_of_records h'.1 hrun hsaved⟩

/-- Any number of retries with the same response, by anybody and at any time. -/
inductive Retried (response : ApprovalResumeRequest) : World ι → World ι → Prop where
  | refl (w : World ι) : Retried response w w
  | retry {w w' : World ι} (e : Environment) (who : ι) (runtime : PrimaryAgentRuntime)
      (h : Retried response w w') :
      Retried response w ((resume runtime response).run (e.respond who) ⟨w', 0⟩).2.world

theorem Retried.settling {w w' : World ι} (h : Retried response w w')
    (hawaits : AwaitsDecision p run) (hw : Settling response p run c w.store) :
    Settling response p run c w'.store := by
  induction h with
  | refl => exact hw
  | retry e who runtime _ ih =>
    exact (wp_resume_settling (e := e) runtime hawaits ih).1

/-- **A success of `resume` says that the decision is in force**: of the call that suffers the
    fault, and of every retry after it. -/
def SuccessIsComplete (e : Environment) (who : ι) (fault : Fault) (n : Nat)
    (runtime : PrimaryAgentRuntime) (response : ApprovalResumeRequest) (p : ActionProposal)
    (c : Checkpoint) (w : World ι) : Prop :=
  let x := e.faulty who fault (resume runtime response) (some n) ⟨w, 0⟩
  (x.Succeeded → Complete response p c x.final.world.store) ∧
    ∀ w', Retried response x.final.world w' → ∀ (e' : Environment) who' runtime',
      e'.Wp who' (resume runtime' response) (fun o st' => (∃ res, o = .ok (.succeeded res)) →
        Complete response p c st'.world.store) ⟨w', 0⟩

/-- The fault leaves the run moved and its checkpoint behind. -/
def LeavesCheckpoint (e : Environment) (fault : Fault) (n : Nat) (response : ApprovalResumeRequest)
    (p : ActionProposal) (run : Run) (c : Checkpoint) (a : Option Approval) : Prop :=
  Applicable response p run c a (e.now (5 + unrecorded a)) ∧
    fault.effective n = 5 + unrecorded a ∧ c.lastSafeState ≠ response.decision.targetState

/-- A retry reports the decision that the fault left half applied. -/
theorem not_complete_of_leaves {w : World ι} {runtime : PrimaryAgentRuntime}
    (h : ApprovalRecords w.store response p run c a) (hawaits : AwaitsDecision p run)
    (hleaves : LeavesCheckpoint e fault n response p run c a) :
    ¬SuccessIsComplete e who fault n runtime response p c w := by
  obtain ⟨happ, hk, hunsafe⟩ := hleaves
  have happ' : Applicable response p run c a (e.now (0 + 5 + unrecorded a)) := by
    rwa [Nat.zero_add]
  obtain ⟨⟨run', c', a', h', -, ha', -, hrun', hc', -⟩, -, -⟩ :
      e.FWp who fault (resume runtime response) (some n) _ ⟨w, 0⟩ :=
    fwp_resume runtime h hawaits happ'
  obtain rfl := hc' (by omega)
  intro hcomplete
  have hretry := hcomplete.2 _ (.refl _) e who runtime
  obtain ⟨hafter, hsucceeds⟩ : e.Wp who (resume runtime response) _ ⟨_, 0⟩ :=
    wp_resume_decided runtime h' (hrun' (by omega)) (ha' (by omega))
  obtain ⟨c'', hc'', hsaved⟩ := (hretry (hsucceeds happ.bound)).checkpoint
  rw [hafter.checkpoint] at hc''
  cases hc''
  exact hunsafe hsaved.safe

end DurableApprovalFlow

end Approvals

namespace Sample

section Awaiting

variable [Sha256]

/-- The run as its interrupt is raised. -/
def awaiting : Run := { run with state := .awaitingApproval, version := 5, version_pos := by decide }

def requestHash : Sha256Digest := approvalRequestHash (buildApprovalPayload proposal)

def response : ApprovalResumeRequest :=
  ⟨"interrupt", uid 4, uid 1, .stopSandboxInstance, target, ⟨0⟩, requestHash, .approved, "operator",
    "nonce"⟩

/-- The checkpoint that holds the interrupt. -/
def interrupted : Checkpoint where
  runId := uid 1
  lastSafeState := .awaitingApproval
  resumeMetadata := Dict.ofPairs [("approval_interrupt_id", .str "interrupt"),
    ("approval_request_hash", .str requestHash.hex), ("proposal_id", .str (uid 4).str)]
  toolResultHashes := Dict.ofPairs [("build_remediation_evidence", ⟨0⟩)]
  createdAt := 0
  valid := rfl

def awaitingStore : Store where
  runs := (∅ : Table _).put awaiting
  proposals := (∅ : Table _).put proposal
  checkpoints := (∅ : Table _).put interrupted

theorem approvalRecords :
    ApprovalRecords awaitingStore response proposal awaiting interrupted none :=
  ⟨rfl, rfl, rfl, rfl⟩

theorem applicable (t : Time) : Applicable response proposal awaiting interrupted none t := by
  refine ⟨?_, fun x hx => (by cases hx), Nat.zero_le t⟩
  unfold DurableApprovalFlow.responseBound
  simp only [Bool.and_eq_true, beq_iff_eq]
  exact ⟨⟨⟨⟨⟨⟨rfl, rfl⟩, rfl⟩, rfl⟩, rfl⟩, rfl⟩, rfl⟩

/-- The checkpoint of the decision cannot be written. -/
def checkpointFails : Fault := ⟨.raisesBefore, .storageDependency "unavailable", rfl⟩

open DurableApprovalFlow

/-- The checkpoint is the seventh repository operation of a first decision. -/
theorem leaves_checkpoint : LeavesCheckpoint (environment 0 acknowledges) checkpointFails 6 response
    proposal awaiting interrupted none := by
  refine ⟨applicable _, rfl, ?_⟩
  show WorkflowState.awaitingApproval ≠ .approved
  decide

end Awaiting

open DurableApprovalFlow

end Sample

end CloudOpsAgent
