/-
  The approval flow, in any world that lets it track the checkpoint it reads.

  `request` and `resume` each write one checkpoint, over the one they have read (`InterruptWrite`,
  `DecisionWrite`).
  A `Tracking` of a discipline says when a checkpoint is in hand; where one of these writes is
  allowed over it, the entry point that makes it is safe.
-/
import CloudOpsAgent.Flow.Requests

namespace CloudOpsAgent

open ClientProg ClientProg.Prog Flow

variable [Sha256] {ι : Type}

namespace DurableApprovalFlow

/-! ## The writes -/

/-- The checkpoint of an interrupt. -/
def interruptFields (c : Checkpoint) (interruptId : String) (requestHash : Sha256Digest)
    (proposalId : UUID) (createdAt : Time) : CheckpointFields where
  runId := c.runId
  lastSafeState := .awaitingApproval
  resumeMetadata := ((c.resumeMetadata.insert "approval_interrupt_id" (.str interruptId)).insert
    "approval_request_hash" (.str requestHash.hex)).insert "proposal_id" (.str proposalId.str)
  toolResultHashes := c.toolResultHashes
  createdAt := createdAt
  version := c.version + 1

/-- The checkpoint of a decision. -/
def decisionFields (c : Checkpoint) (decision : ApprovalDecision) (createdAt : Time) :
    CheckpointFields where
  runId := c.runId
  lastSafeState := decision.targetState
  resumeMetadata := c.resumeMetadata.insert "approval_decision" (.str decision.value)
  toolResultHashes := c.toolResultHashes
  createdAt := createdAt
  version := c.version + 1

/-- `next` is what `request` writes over `c`. -/
def InterruptWrite (c next : Checkpoint) : Prop :=
  ∃ interruptId requestHash proposalId createdAt, next.toCheckpointFields =
    interruptFields c interruptId requestHash proposalId createdAt

/-- `next` is what `resume` writes over `c`. -/
def DecisionWrite (c next : Checkpoint) : Prop :=
  ∃ decision createdAt, next.toCheckpointFields = decisionFields c decision createdAt

theorem InterruptWrite.runId {c next : Checkpoint} (h : InterruptWrite c next) :
    next.runId = c.runId := by
  obtain ⟨_, _, _, _, h⟩ := h
  rw [h, interruptFields]

theorem DecisionWrite.runId {c next : Checkpoint} (h : DecisionWrite c next) :
    next.runId = c.runId := by
  obtain ⟨_, _, h⟩ := h
  rw [h, decisionFields]

/-! ## Tracking -/

/-- When a checkpoint is in hand of client `i`, on the runs that proposals name. -/
structure Tracking (D : Discipline (answers (ι := ι))) (i : ι) where
  named : UUID → Prop
  tracked : Store → Checkpoint → Prop
  grows : ∀ {w w' c}, D.evolve w w' → tracked w.store c → tracked w'.store c
  proposal : ∀ {w k p}, D.inv w → w.store.proposals.get k = some p → named p.runId
  loaded : ∀ {w r c}, D.inv w → w.store.checkpoints.get r = some c → named r → tracked w.store c

/-- `request` may write over a checkpoint in hand. -/
structure InterruptTracking (D : Discipline (answers (ι := ι))) (i : ι) extends Tracking D i where
  save : ∀ {w c next}, D.inv w → tracked w.store c → InterruptWrite c next →
    D.allowed i w (.store (.saveCheckpoint next (some c.version)))

/-- `resume` may. -/
structure DecisionTracking (D : Discipline (answers (ι := ι))) (i : ι) extends Tracking D i where
  save : ∀ {w c next}, D.inv w → tracked w.store c → DecisionWrite c next →
    D.allowed i w (.store (.saveCheckpoint next (some c.version)))

/-! ## `request` -/

namespace InterruptTracking

variable {D : Discipline (answers (ι := ι))} [Permissive D] {i : ι} (T : InterruptTracking D i)
  {w : World ι}

include T

theorem checkpointInterrupt_safe {run : Run} {c : Checkpoint} (hc : T.tracked w.store c)
    (hid : c.runId = run.runId) (proposal : ActionProposal) (interruptId : String) :
    Safe D i (checkpointInterrupt run proposal c interruptId) (fun _ _ => True) w := by
  refine safe_catching (R := fun _ _ => True) ?_ (fun _ _ _ _ _ => safe_plain trivial)
    (fun _ _ _ => safe_plain trivial) fun _ _ _ _ => trivial
  refine safe_clock_bind fun createdAt => ?_
  refine .bind (R := fun o _ => ∀ n, o = .ok n → InterruptWrite c n)
    (safe_ofExcept fun _ _ _ n hn => ?_) (fun next w1 h1 _ hnext => ?_) fun _ _ _ _ _ => trivial
  · refine ⟨interruptId, approvalRequestHash (buildApprovalPayload proposal), proposal.proposalId,
      createdAt, ?_⟩
    rw [Checkpoint.validate_ok hn, interruptFields, hid]
  · exact safe_op_bind (fun w' hw hI => T.save hI (T.grows hw (T.grows h1 hc)) (hnext next rfl))
      (fun _ _ _ _ _ _ _ _ => safe_plain (appendEvent_plain ..)) fun _ _ _ _ => trivial

theorem requestInterrupt_safe (runtime : PrimaryAgentRuntime) {run : Run} {c : Checkpoint}
    (hc : T.tracked w.store c) (hid : c.runId = run.runId) (proposal : ActionProposal) :
    Safe D i (requestInterrupt runtime run proposal c) (fun _ _ => True) w := by
  have audited {w : World ι} {type : AuditEventType} {failure : FailureDetail}
      {unavailable : String} : Safe D i
        (auditedRequestFailure run proposal type failure unavailable) (fun _ _ => True) w :=
    safe_plain (auditedRequestFailure_plain ..)
  dsimp only [requestInterrupt]
  split
  · exact audited
  refine safe_try (safe_plain (issues_agent.mpr trivial)) (fun reply w1 h1 _ _ => ?_)
    (fun e h _ _ _ _ he => ?_) fun _ _ _ _ => trivial
  · unfold handleReply
    split
    · exact safe_plain (persistRequestFailure_plain ..)
    split
    · exact audited
    split
    · split
      · exact T.checkpointInterrupt_safe (T.grows h1 hc) hid _ _
      · exact audited
    · exact audited
  · cases he
    exact safe_plain trivial

/-- What the lookups of `request` find: run and checkpoint of the proposal's run. -/
theorem lookup_safe (proposalId : UUID) :
    Safe D i (lookup proposalId) (fun o w' => ∀ p run c,
      o = .ok (.succeeded (p, some run, some c)) → T.tracked w'.store c ∧ c.runId = run.runId) w := by
  have raised {e : PyExc} {w : World ι} : ∀ p run c,
      (.error e : Except PyExc (ControlResult (ActionProposal × Option Run × Option Checkpoint))) =
        .ok (.succeeded (p, some run, some c)) → T.tracked w.store c ∧ c.runId = run.runId :=
    fun _ _ _ h => by cases h
  refine safe_read_bind (o := .getProposal proposalId) (·.proposals.get proposalId) (fun _ => rfl)
    rfl (fun w1 _ hI => ?_) fun _ _ _ _ => raised
  cases hp : w1.store.proposals.get proposalId with
  | none => exact safe_ret fun _ _ _ _ _ _ h => by cases h
  | some p =>
    have hnamed := T.proposal hI hp
    refine safe_read_bind (o := .getRun p.runId) (·.runs.get p.runId) (fun _ => rfl) rfl
      (fun w2 _ _ => ?_) fun _ _ _ _ => raised
    refine safe_read_bind (o := .getCheckpoint p.runId) (·.checkpoints.get p.runId)
      (fun _ => rfl) rfl (fun w3 _ hI3 => ?_) fun _ _ _ _ => raised
    refine safe_ret fun w4 h4 _ p' run c h => ?_
    simp only [Except.ok.injEq, ControlResult.succeeded.injEq, Prod.mk.injEq] at h
    refine ⟨T.grows h4 (T.loaded hI3 h.2.2 hnamed), ?_⟩
    rw [Table.key_of_get (t := w3.store.checkpoints) h.2.2, Table.key_of_get h.2.1]

theorem request_safe (runtime : PrimaryAgentRuntime) (proposalId : UUID) (w : World ι) :
    Safe D i (request runtime proposalId) (fun _ _ => True) w := by
  refine safe_catching (T.lookup_safe proposalId) (fun found w1 _ _ hfound => ?_)
    (fun _ _ _ => safe_plain trivial) fun _ _ _ _ => trivial
  rcases found with ⟨proposal, _ | run, _ | checkpoint⟩ | failure
  · exact safe_plain trivial
  · exact safe_plain trivial
  · exact safe_plain trivial
  · obtain ⟨hc, hid⟩ := hfound _ _ _ rfl
    dsimp only
    split
    · exact safe_plain trivial
    split
    · exact safe_plain trivial
    refine safe_try (R := fun o _ => ∀ p run', o = .ok (p, run') → run'.runId = run.runId) ?_
      (fun started w2 h2 _ hrun => ?_)
      (fun e h _ _ _ _ he => safe_plain (startAwaitingHandler_plain he)) fun _ _ _ _ => trivial
    · refine safe_op_bind (fun w' _ _ => Permissive.allowed i w' _ rfl) (fun p s w' _ _ _ _ _ => ?_)
        fun _ _ _ _ _ _ h => by cases h
      refine safe_clock_bind fun t => ?_
      refine safe_op_bind (fun w' _ _ => Permissive.allowed i w' _ rfl)
        (fun run' s w' _ _ ht _ _ => ?_) fun _ _ _ _ _ _ h => by cases h
      refine safe_ret fun _ _ _ p run'' h => ?_
      cases h
      exact (Store.transitionRun_stored ht).2.1
    · obtain ⟨p, run'⟩ := started
      exact T.requestInterrupt_safe runtime (T.grows h2 hc)
        (hid.trans (hrun p run' rfl).symm) _
  · exact safe_plain trivial

end InterruptTracking

/-! ## `resume` -/

namespace DecisionTracking

variable {D : Discipline (answers (ι := ι))} [Permissive D] {i : ι} (T : DecisionTracking D i)
  {w : World ι}

include T

theorem moveRun_safe (response : ApprovalResumeRequest) (proposal : ActionProposal) {run : Run}
    {c : Checkpoint} (hc : T.tracked w.store c) (hid : c.runId = run.runId) :
    Safe D i (moveRun response proposal run c) (fun _ _ => True) w := by
  dsimp only [moveRun]
  split
  · exact safe_plain trivial
  split
  · exact safe_plain trivial
  refine safe_clock_bind fun updatedAt => ?_
  refine safe_op_bind (fun w' _ _ => Permissive.allowed i w' _ (by simp [Req.plain, Op.guarded]))
    (fun run' s w1 h1 _ ht h1' _ => ?_) fun _ _ _ _ => trivial
  have hrun' := (Store.transitionRun_stored ht).2.1
  refine safe_clock_bind fun createdAt => ?_
  refine .bind (R := fun o _ => ∀ n, o = .ok n → DecisionWrite c n)
    (safe_ofExcept fun _ _ _ n hn => ?_) (fun next w2 h2 _ hnext => ?_) fun _ _ _ _ _ => trivial
  · refine ⟨response.decision, createdAt, ?_⟩
    rw [Checkpoint.validate_ok hn, decisionFields, hid, ← hrun']
  · refine safe_op_bind
      (fun w' hw hI => T.save hI (T.grows hw (T.grows h2 (T.grows h1' hc))) (hnext next rfl))
      (fun _ _ _ _ _ _ _ _ => ?_) fun _ _ _ _ => trivial
    exact safe_plain ((appendEvent_plain ..).bind fun _ => trivial)

theorem resume_safe (runtime : PrimaryAgentRuntime) (response : ApprovalResumeRequest)
    (w : World ι) : Safe D i (resume runtime response) (fun _ _ => True) w := by
  refine safe_catching (R := fun o w' => ∀ p run c, o = .ok (some p, some run, some c) →
      T.named p.runId ∧ run.runId = response.runId ∧ c.runId = response.runId ∧
        (T.named response.runId → T.tracked w'.store c)) ?_ (fun found w1 _ _ hfound => ?_)
    (fun _ _ _ => safe_plain trivial) fun _ _ _ _ => trivial
  · have raised {e : PyExc} {w : World ι} : ∀ p run c,
        (.error e : Except PyExc (Option ActionProposal × Option Run × Option Checkpoint)) =
          .ok (some p, some run, some c) →
        T.named p.runId ∧ run.runId = response.runId ∧ c.runId = response.runId ∧
          (T.named response.runId → T.tracked w.store c) := fun _ _ _ h => by cases h
    refine safe_read_bind (o := .getProposal response.proposalId)
      (·.proposals.get response.proposalId) (fun _ => rfl) rfl (fun w1 _ hI => ?_)
      fun _ _ _ _ => raised
    refine safe_read_bind (o := .getRun response.runId) (·.runs.get response.runId) (fun _ => rfl)
      rfl (fun w2 _ _ => ?_) fun _ _ _ _ => raised
    refine safe_read_bind (o := .getCheckpoint response.runId) (·.checkpoints.get response.runId)
      (fun _ => rfl) rfl (fun w3 _ hI3 => ?_) fun _ _ _ _ => raised
    refine safe_ret fun w4 h4 _ p run c h => ?_
    simp only [Except.ok.injEq, Prod.mk.injEq] at h
    exact ⟨T.proposal hI h.1, Table.key_of_get h.2.1,
      Table.key_of_get (t := w3.store.checkpoints) h.2.2,
      fun hnamed => T.grows h4 (T.loaded hI3 h.2.2 hnamed)⟩
  · obtain ⟨_ | proposal, _ | run, _ | checkpoint⟩ := found
    all_goals try exact safe_plain trivial
    obtain ⟨hnamed, hid, hcid, htracked⟩ := hfound _ _ _ rfl
    dsimp only [resumeLoaded]
    split
    · rename_i hbound
      simp only [responseBound, Bool.and_eq_true, beq_iff_eq] at hbound
      have hc := htracked (hbound.1.1.1.1.1.1 ▸ hnamed)
      refine safe_clock_bind fun decidedAt => ?_
      refine safe_try (R := fun _ _ => True) (.bind (safe_plain (recordDecision_plain ..))
        (fun _ w2 h2 _ _ => T.moveRun_safe response proposal (T.grows h2 hc) (hcid.trans hid.symm))
        fun _ _ _ _ _ => trivial) (fun applied w2 _ _ _ => ?_)
        (fun e h _ _ _ _ he => safe_plain (applyDecisionHandler_plain he)) fun _ _ _ _ => trivial
      rcases applied with run | run
      · exact safe_plain (issues_ofExcept_bind fun _ => trivial)
      · exact safe_plain (resumeAgent_plain ..)
    · exact safe_plain (issues_catching (appendEvent_plain ..) trivial fun _ => trivial)

end DecisionTracking

end DurableApprovalFlow

end CloudOpsAgent
