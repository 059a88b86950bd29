/-
  The local flow, in any world that lets it track its checkpoint.

  All durable truth of a local run is one versioned checkpoint, and every entry point of the flow
  writes the successor of the version it holds.

  1. **The writes** — `CheckpointWrite`: what each step of the flow changes in the checkpoint it
     holds, and what it has found there.

  2. **Tracking** — a `Tracking` of a discipline says when a checkpoint is in hand, that it stays
     so, and that the writes above are allowed over it.

  3. **The flow** — with a tracking, every entry point is safe: `saveNext_safe` leads from one
     version in hand to the next, each stage of `resume` hands it on (`StagePost`), and what a
     success of `resume` reports is taken from a run and a checkpoint in hand (`Reported`).
-/
import CloudOpsAgent.Flow.Requests

namespace CloudOpsAgent

open ClientProg ClientProg.Prog Flow

variable [Sha256] {ι : Type}

/-- Moving a known run leaves a known run with the same id. -/
def Moved (run : Run) (o : Except PyExc Run) (w : World ι) : Prop :=
  ∀ r, o = .ok r → w.store.KnowsRun r ∧ r.runId = run.runId

theorem Moved.error {run : Run} {e : PyExc} {w : World ι} : Moved run (.error e) w :=
  fun r hr => by cases hr

namespace LocalHitlExecutionFlow

/-! ## The writes -/

/-- What a step of the flow may hand to `saveNext`. -/
inductive CheckpointWrite (c : Checkpoint) :
    WorkflowState → List (String × String) → (CheckpointFields → CheckpointFields) → Prop
  | request (h : c.localApproval = none) (r : LocalApprovalRequestRecord) :
    CheckpointWrite c .awaitingApproval
      [("phase", "LOCAL_2"), ("local_approval_request_hash", r.requestHash.hex)]
      fun f => { f with
        localApprovalRequest := some r
        localApproval := none
        localExecutionIntent := none
        localExecutionReceipt := none
        localVerification := none }
  | decision (h : c.localApproval = none) (a : LocalApprovalDecisionRecord) :
    CheckpointWrite c .awaitingApproval
      [("phase", "LOCAL_2"), ("local_decision_hash", a.decisionHash.hex)]
      fun f => { f with localApproval := some a }
  | state (a : LocalApprovalDecisionRecord) :
    CheckpointWrite c a.decision.targetState
      [("phase", "LOCAL_2"), ("local_decision", a.decision.value)] id
  | intent (h : c.localExecutionIntent = none) (n : LocalExecutionIntent) :
    CheckpointWrite c .approved
      [("phase", "LOCAL_2"), ("local_execution_intent_hash", n.intentHash.hex)]
      fun f => { f with localExecutionIntent := some n }
  | receipt (h : c.localExecutionReceipt = none) (r : LocalExecutionReceipt) :
    CheckpointWrite c .approved
      [("phase", "LOCAL_2"), ("local_execution_receipt_hash", r.receiptHash.hex)]
      fun f => { f with localExecutionReceipt := some r }
  | verification (h : c.localVerification = none) (v : LocalVerificationEvidence) :
    CheckpointWrite c .approved
      [("phase", "LOCAL_2"), ("local_verification_hash", v.verificationHash.hex)]
      fun f => { f with localVerification := some v }
  | closed :
    CheckpointWrite c .successWithEvidence [("phase", "LOCAL_2"), ("local_outcome", "verified")] id

/-- The fields `nextCheckpoint` validates. -/
def nextFields (c : Checkpoint) (createdAt : Time) (safe : WorkflowState)
    (metadata : List (String × String)) (update : CheckpointFields → CheckpointFields) :
    CheckpointFields :=
  { update c.toCheckpointFields with
    createdAt := createdAt
    lastSafeState := safe
    resumeMetadata := metadata.foldl (fun d kv => d.insert kv.1 (.str kv.2)) c.resumeMetadata
    version := c.version + 1 }

/-- `next` is what some step of the flow writes over `c`. -/
def Succeeds (c next : Checkpoint) : Prop :=
  ∃ createdAt safe metadata update, CheckpointWrite c safe metadata update ∧
    next.toCheckpointFields = nextFields c createdAt safe metadata update

theorem Succeeds.runId {c next : Checkpoint} (h : Succeeds c next) : next.runId = c.runId := by
  obtain ⟨createdAt, safe, metadata, update, hw, hnext⟩ := h
  rw [hnext]
  cases hw <;> rfl

/-! ## Tracking -/

/-- When a checkpoint is in hand of client `i`: read from the repository or written to it, and
    neither other clients nor its own requests take it out of its hand. -/
structure Tracking (D : Discipline (answers (ι := ι))) (i : ι) where
  tracked : Store → Checkpoint → Prop
  evolves : ∀ {w w'}, D.evolve w w' → w.store.Evolves w'.store
  grows : ∀ {w w' c}, D.evolve w w' → tracked w.store c → tracked w'.store c
  loaded : ∀ {w r c}, D.inv w → w.store.checkpoints.get r = some c →
    c.remediationProposal.isSome → tracked w.store c
  save : ∀ {w c next}, D.inv w → tracked w.store c → Succeeds c next →
    D.allowed i w (.store (.saveCheckpoint next (some c.version)))
  saved : ∀ {s c next}, tracked s c → Succeeds c next →
    tracked { s with checkpoints := s.checkpoints.put next } next

namespace Tracking

variable {D : Discipline (answers (ι := ι))} [Permissive D] {i : ι} (T : Tracking D i) {w : World ι}

include T

/-- **Saving the next version** of a checkpoint in hand leaves it in hand. -/
theorem saveNext_safe {c : Checkpoint} (hc : T.tracked w.store c) {safe : WorkflowState}
    {metadata : List (String × String)} {update : CheckpointFields → CheckpointFields}
    (hw : CheckpointWrite c safe metadata update) :
    Safe D i (saveNext c safe metadata update) (fun o w' => ∀ c',
      o = .ok c' → T.tracked w'.store c' ∧ c'.runId = c.runId) w := by
  refine .bind (R := fun o _ => ∀ n, o = .ok n → Succeeds c n) ?_ (fun next w1 h1 _ hnext => ?_)
    fun _ _ _ _ _ _ h => by cases h
  · refine safe_clock_bind fun createdAt => safe_ofExcept fun _ _ _ n hn => ?_
    exact ⟨createdAt, safe, metadata, update, hw, Checkpoint.validate_ok hn⟩
  · have hnext := hnext next rfl
    refine safe_op (fun w' hw hI => T.save hI (T.grows hw (T.grows h1 hc)) hnext)
      (fun x s w2 w3 h2 _ hx h3 _ c' h => ?_) fun _ _ _ _ _ h => by cases h
    cases h
    obtain ⟨hxn, hs, -⟩ := Store.saveCheckpoint_ok hx
    obtain rfl : next = x := hxn.symm
    subst hs
    exact ⟨T.grows h3 (T.saved (T.grows h2 (T.grows h1 hc)) hnext), hnext.runId⟩

/-! ## What is loaded -/

/-- Run and checkpoint of one local run, in hand. -/
structure Held (s : Store) (r : Run) (c : Checkpoint) : Prop where
  run : s.KnowsRun r
  checkpoint : T.tracked s c
  same : c.runId = r.runId

variable {T} in
omit [Permissive D] in
theorem Held.grows {w w' : World ι} (h : D.evolve w w') {run : Run} {c : Checkpoint}
    (hl : T.Held w.store run c) : T.Held w'.store run c :=
  ⟨(T.evolves h).knowsRun hl.run, T.grows h hl.checkpoint, hl.same⟩

theorem load_safe (runId : UUID) (w : World ι) :
    Safe D i (load runId) (fun o w' => ∀ l, o = .ok (.succeeded l) →
      T.Held w'.store l.run l.checkpoint) w := by
  refine safe_try (R := fun o w' => ∀ run c, o = .ok (run, c) →
      (∀ r, run = some r → w'.store.KnowsRun r ∧ r.runId = runId) ∧
      ∀ d, c = some d → (d.remediationProposal.isSome → T.tracked w'.store d) ∧ d.runId = runId)
    ?_ (fun found w1 _ _ h => ?_) (fun e h _ _ _ _ he => ?_) fun _ _ _ _ _ h => by cases h
  · refine safe_read_bind (o := .getRun runId) (·.runs.get runId) (fun _ => rfl) rfl
      (fun w1 _ _ => ?_) fun _ _ _ _ _ _ h => by cases h
    refine safe_read_bind (o := .getCheckpoint runId) (·.checkpoints.get runId) (fun _ => rfl) rfl
      (fun w2 h2 hI => ?_) fun _ _ _ _ _ _ h => by cases h
    refine safe_ret fun w3 h3 _ run c h => ?_
    simp only [Except.ok.injEq, Prod.mk.injEq] at h
    refine ⟨fun r hr => ?_, fun d hd => ?_⟩
    · have hget := h.1.trans hr
      exact ⟨((T.evolves h2).trans (T.evolves h3)).knowsRun (Store.knowsRun_of_get (s := w1.store)
        hget), Table.key_of_get hget⟩
    · have hget := h.2.trans hd
      exact ⟨fun hp => T.grows h3 (T.loaded hI hget hp),
        Table.key_of_get (t := w2.store.checkpoints) hget⟩
  · obtain ⟨run, c⟩ := found
    refine safe_ret fun w2 h2 _ l hl => ?_
    injection hl with hl
    obtain ⟨rfl, rfl, -, hproposal, -⟩ := loadedOf_succeeded hl
    obtain ⟨hr, hc⟩ := h _ _ rfl
    obtain ⟨hrun, hid⟩ := hr _ rfl
    obtain ⟨htracked, hcid⟩ := hc _ rfl
    have hsome : l.checkpoint.remediationProposal.isSome := by rw [hproposal]; rfl
    exact ⟨(T.evolves h2).knowsRun hrun, T.grows h2 (htracked hsome), hcid.trans hid.symm⟩
  · split at he <;> cases he <;> exact safe_ret fun _ _ _ _ h => by cases h

/-! ## Applying a decision -/

theorem transition_safe {run : Run} {next expected : WorkflowState} {version : Nat} {t : Time}
    {approvalId verificationId : Option UUID}
    (hplain : Req.plain (.store (.transitionRun run.runId next expected version t approvalId
      verificationId))) :
    Safe D i (Flow.op (.transitionRun run.runId next expected version t approvalId verificationId))
      (Moved run) w := by
  refine safe_op (fun w' _ _ => Permissive.allowed i w' _ hplain)
    (fun r s w1 w2 _ _ ht h2 _ x hx => ?_) fun _ _ _ _ => .error
  cases hx
  obtain ⟨-, hid, hrun⟩ := Store.transitionRun_stored ht
  exact ⟨(T.evolves h2).knowsRun (Store.knowsRun_of_get (k := run.runId) hrun), hid⟩

theorem moveRun_safe {run : Run} (hr : w.store.KnowsRun run)
    (approval : LocalApprovalDecisionRecord) : Safe D i (moveRun run approval) (Moved run) w := by
  unfold moveRun
  split
  · split
    · exact safe_raise fun _ _ _ => .error
    · exact safe_clock_bind fun t => T.transition_safe (by simp [Req.plain, Op.guarded])
  · refine safe_ret fun w1 h1 _ r h => ?_
    cases h
    exact ⟨(T.evolves h1).knowsRun hr, rfl⟩

/-- Applying a decision leaves run and checkpoint in hand. -/
theorem applyDecisionState_safe {run : Run} {c : Checkpoint} (hl : T.Held w.store run c)
    (approval : LocalApprovalDecisionRecord) :
    Safe D i (applyDecisionState run c approval) (fun o w' => ∀ r c',
      o = .ok (.succeeded (r, c')) → T.Held w'.store r c') w := by
  refine safe_try (R := fun o w' => ∀ r c', o = .ok (r, c') → T.Held w'.store r c') ?_
    (fun x w1 h1 _ h => ?_) (fun e h _ _ _ _ he => ?_) fun _ _ _ _ _ _ h => by cases h
  · refine .bind (T.moveRun_safe hl.run approval) (fun r w1 h1 _ hm => ?_)
      fun _ _ _ _ _ _ _ h => by cases h
    obtain ⟨hr, hid⟩ := hm r rfl
    refine .bind (R := fun o w' => ∀ c', o = .ok c' → T.tracked w'.store c' ∧
      c'.runId = c.runId) ?_ (fun c' w2 h2 _ hc => ?_) fun _ _ _ _ _ _ _ h => by cases h
    · unfold saveDecisionState
      split
      · exact T.saveNext_safe (T.grows h1 hl.checkpoint) (.state approval)
      · refine safe_ret fun w2 h2 _ c' h => ?_
        cases h
        exact ⟨T.grows h2 (T.grows h1 hl.checkpoint), rfl⟩
    · obtain ⟨hc, hcid⟩ := hc c' rfl
      refine safe_ret fun w3 h3 _ r' c'' h => ?_
      cases h
      exact Held.grows h3 ⟨(T.evolves h2).knowsRun hr, hc, (hcid.trans hl.same).trans hid.symm⟩
  · refine safe_ret fun w2 h2 _ r c' hx => ?_
    cases hx
    exact (h r c' rfl).grows h2
  · split at he <;> cases he <;> exact safe_ret fun _ _ _ _ _ h => by cases h

/-! ## `request_approval` and `decide` -/

theorem requestApproval_safe (cfg : LocalHitlConfig) (runId : UUID)
    (principal : LocalOperatorPrincipal) (w : World ι) :
    Safe D i (requestApproval cfg runId principal) (fun _ _ => True) w := by
  refine .bind (T.load_safe runId w) (fun found w1 _ _ h => ?_) fun _ _ _ _ _ => trivial
  cases found with
  | failed failure => exact safe_plain trivial
  | succeeded l =>
    have hl := h l rfl
    dsimp only [requestLoaded]
    split
    · exact safe_plain trivial
    split
    · exact safe_plain trivial
    rename_i hnone
    have hnone : l.checkpoint.localApproval = none := by simpa using hnone
    refine safe_clock_bind fun now => ?_
    split
    · exact safe_plain trivial
    refine safe_nonce_bind fun nonce => ?_
    split
    · exact safe_plain trivial
    refine safe_catching (R := fun _ _ => True) ?_ (fun _ _ _ _ _ => safe_plain trivial)
      (fun _ _ _ => safe_plain trivial) fun _ _ _ _ => trivial
    refine safe_freshId_bind fun requestId => ?_
    refine .bind (R := fun _ _ => True) (safe_ofExcept fun _ _ _ => trivial)
      (fun request w2 h2 _ _ => ?_) fun _ _ _ _ _ => trivial
    refine .bind (T.saveNext_safe (T.grows h2 hl.checkpoint) (.request hnone request))
      (fun _ _ _ _ _ => ?_) fun _ _ _ _ _ => trivial
    exact safe_plain ((appendEvent_plain ..).bind fun _ => trivial)

theorem decide_safe (cfg : LocalHitlConfig) (d : LocalDecisionRequest)
    (principal : LocalOperatorPrincipal) (w : World ι) :
    Safe D i (decide cfg d principal) (fun _ _ => True) w := by
  have applied {run : Run} {c : Checkpoint} {approval : LocalApprovalDecisionRecord} {w : World ι}
      {f : ControlResult (Run × Checkpoint) → Flow (ControlResult LocalApprovalResolution)}
      (hl : T.Held w.store run c) (hf : ∀ x, (f x).Issues Req.plain) :
      Safe D i (applyDecisionState run c approval >>= f) (fun _ _ => True) w :=
    .bind (T.applyDecisionState_safe hl approval) (fun x _ _ _ _ => safe_plain (hf x))
      fun _ _ _ _ _ => trivial
  refine .bind (T.load_safe d.runId w) (fun found w1 _ _ h => ?_) fun _ _ _ _ _ => trivial
  cases found with
  | failed failure => exact safe_plain trivial
  | succeeded l =>
    have hl := h l rfl
    dsimp only [decideLoaded]
    split
    · exact safe_plain trivial
    split
    · exact safe_plain ((auditPolicyDenial_plain ..).bind fun _ => trivial)
    split
    · rename_i existing _
      unfold replayDecision
      split
      · exact safe_plain trivial
      · exact applied hl fun x => by cases x <;> trivial
    rename_i hnone
    refine safe_clock_bind fun now => ?_
    split
    · exact safe_plain ((auditPolicyDenial_plain ..).bind fun _ => trivial)
    refine safe_catching (T.saveNext_safe hl.checkpoint (.decision hnone _))
      (fun c w2 h2 _ hc => ?_) (fun _ _ _ => safe_plain trivial) fun _ _ _ _ => trivial
    obtain ⟨hc, hid⟩ := hc c rfl
    refine applied ⟨(T.evolves h2).knowsRun hl.run, hc, hid.trans hl.same⟩ fun x => ?_
    cases x with
    | failed failure => trivial
    | succeeded x =>
      obtain ⟨run, c'⟩ := x
      refine issues_catching (appendEvent_plain ..) trivial fun _ => ?_
      split <;> trivial

/-! ## `resume` -/

/-- A completion reports a run in hand that has succeeded, and the proof in its checkpoint. -/
def Reported (s : Store) (x : LocalExecutionCompletion) : Prop :=
  ∃ run c r v, T.Held s run c ∧ run.state = .successWithEvidence ∧ x.runId = run.runId ∧
    x.receipt = some r ∧ c.localExecutionReceipt = some r ∧
    x.verification = some v ∧ c.localVerification = some v

/-- The post-condition of `resume`. -/
def Post (o : Except PyExc (ControlResult LocalExecutionCompletion)) (w : World ι) : Prop :=
  ∀ x, o = .ok (.succeeded x) → x.finalState = .successWithEvidence → T.Reported w.store x

omit [Permissive D] in
theorem Post.error {e : PyExc} {w : World ι} : T.Post (.error e) w := fun x hx => by cases hx

/-- The post-condition of a stage: it ends the call with a failure, or hands run and checkpoint
    on. -/
def StagePost (o : Except PyExc Stage) (w : World ι) : Prop :=
  (∀ r, o = .ok (.inl r) → BoundedVerificationCoordinator.Failed r) ∧
    ∀ run c, o = .ok (.inr (run, c)) → T.Held w.store run c

omit [Permissive D] in
theorem StagePost.error {e : PyExc} {w : World ι} : T.StagePost (.error e) w :=
  ⟨fun _ h => (by cases h), fun _ _ h => (by cases h)⟩

theorem safe_failed {p : Flow (ControlResult LocalExecutionCompletion)} (hp : p.Issues Req.plain)
    (hr : p.Returns BoundedVerificationCoordinator.Failed) : Safe D i p T.Post w :=
  safe_plain_returns hp hr (fun a _ ⟨f, hf⟩ c hc => by subst hf; cases hc) fun _ _ => Post.error T

omit [Permissive D] in
theorem safe_fail (f : FailureDetail) : Safe D i (.ret (.failed f)) T.Post w :=
  safe_ret fun _ _ _ c hc => by cases hc

omit T [Permissive D] in
theorem persistExecutionFailure_returns (run : Run) (target : WorkflowState) (kind : FailureKind)
    (code message : String) : (persistExecutionFailure run target kind code message).Returns
      BoundedVerificationCoordinator.Failed :=
  returns_catching ⟨_, rfl⟩ fun _ => ⟨_, rfl⟩

/-- A stage that ends the call with a failure. -/
theorem finish_safe {p : Flow (ControlResult LocalExecutionCompletion)} (hp : p.Issues Req.plain)
    (hr : p.Returns BoundedVerificationCoordinator.Failed) :
    Safe D i (finish p) T.StagePost w := by
  refine .bind (Safe.returns hr (safe_plain hp)) (fun x w1 _ _ h => ?_)
    fun _ _ _ _ _ => StagePost.error T
  refine safe_ret fun _ _ _ => ⟨fun r hr => ?_, fun _ _ h => by cases h⟩
  cases hr
  exact h.1 x rfl

omit [Permissive D] in
theorem stage_fail (f : FailureDetail) :
    Safe D i (.ret (.inl (.failed f)) : Flow Stage) T.StagePost w :=
  safe_ret fun _ _ _ => ⟨fun r hr => by cases hr; exact ⟨f, rfl⟩, fun _ _ h => (by cases h)⟩

omit [Permissive D] in
theorem stage_pass {run : Run} {c : Checkpoint} (hl : T.Held w.store run c) :
    Safe D i (.ret (.inr (run, c)) : Flow Stage) T.StagePost w := by
  refine safe_ret fun w1 h1 _ => ⟨fun r hr => (by cases hr), fun r c' h => ?_⟩
  cases h
  exact hl.grows h1

/-- A step of a stage body that leaves the checkpoint in hand. -/
def KeepsCheckpoint {α : Type} (c : Checkpoint) (get : α → Checkpoint) (o : Except PyExc α)
    (w : World ι) : Prop :=
  ∀ x, o = .ok x → T.tracked w.store (get x) ∧ (get x).runId = c.runId

omit [Permissive D] in
theorem KeepsCheckpoint.error {α : Type} {c : Checkpoint} {get : α → Checkpoint} {e : PyExc}
    {w : World ι} : T.KeepsCheckpoint c get (.error e) w := fun _ h => by cases h

omit [Permissive D] in
theorem keeps_ret {α : Type} {c : Checkpoint} (hc : T.tracked w.store c)
    {get : α → Checkpoint} {x : α} (hx : get x = c) :
    Safe D i (.ret x : Flow α) (T.KeepsCheckpoint c get) w := by
  refine safe_ret fun w1 h1 _ y hy => ?_
  cases hy
  rw [hx]
  exact ⟨T.grows h1 hc, rfl⟩

/-- What a stage body hands on. -/
def HandsOn (o : Except PyExc (Run × Checkpoint)) (w : World ι) : Prop :=
  ∀ run c, o = .ok (run, c) → T.Held w.store run c

omit [Permissive D] in
theorem HandsOn.error {e : PyExc} {w : World ι} : T.HandsOn (.error e) w := fun _ _ h => by cases h

/-- The tail of every stage body: move the run, audit it, hand run and checkpoint on. -/
theorem advance_safe {run : Run} {c : Checkpoint} (hc : T.tracked w.store c)
    (hid : c.runId = run.runId) {next expected : WorkflowState} {version : Nat}
    {verificationId : Option UUID} {rest : Run → Flow (Run × Checkpoint)}
    (hplain : ∀ t, Req.plain (.store (.transitionRun run.runId next expected version t none
      verificationId)))
    (hrest : ∀ r w', T.Held w'.store r c → Safe D i (rest r) T.HandsOn w') :
    Safe D i (Flow.clock >>= fun t =>
      Flow.op (.transitionRun run.runId next expected version t none verificationId) >>= rest)
      T.HandsOn w := by
  refine safe_clock_bind fun t => .bind (T.transition_safe (hplain t)) (fun r w1 h1 _ hm => ?_)
    fun _ _ _ _ _ => HandsOn.error T
  obtain ⟨hr, hrid⟩ := hm r rfl
  exact hrest r w1 ⟨hr, T.grows h1 hc, hid.trans hrid.symm⟩

/-- After the audit event, run and checkpoint are handed on. -/
theorem handOn_safe {run : Run} {c : Checkpoint} (hl : T.Held w.store run c)
    (cfg : LocalHitlConfig) (type : AuditEventType) (h : Sha256Digest) (m : Dict String String) :
    Safe D i (appendEvent cfg run type h m >>= fun _ => (pure (run, c) : Flow (Run × Checkpoint)))
      T.HandsOn w := by
  refine .bind (safe_plain (appendEvent_plain ..)) (fun _ w1 h1 _ _ => ?_)
    fun _ _ _ _ _ => HandsOn.error T
  refine safe_ret fun w2 h2 _ r' c' h => ?_
  cases h
  exact (hl.grows h1).grows h2

theorem registerIntent_safe (cfg : LocalHitlConfig) (l : Loaded)
    (approval : LocalApprovalDecisionRecord) (run : Run) {c : Checkpoint}
    (hc : T.tracked w.store c) :
    Safe D i (registerIntent cfg l approval run c) (T.KeepsCheckpoint c Prod.snd) w := by
  unfold registerIntent
  split
  · exact T.keeps_ret hc rfl
  · rename_i hnone
    refine safe_clock_bind fun registeredAt => ?_
    refine .bind (R := fun _ _ => True) (safe_ofExcept fun _ _ _ => trivial)
      (fun intent w1 h1 _ _ => ?_) fun _ _ _ _ _ => KeepsCheckpoint.error T
    refine .bind (T.saveNext_safe (T.grows h1 hc) (.intent hnone intent))
      (fun c' w2 h2 _ hc' => ?_) fun _ _ _ _ _ => KeepsCheckpoint.error T
    obtain ⟨hc', hid⟩ := hc' c' rfl
    refine .bind (safe_plain (appendEvent_plain ..)) (fun _ w3 h3 _ _ => ?_)
      fun _ _ _ _ _ => KeepsCheckpoint.error T
    refine safe_ret fun w4 h4 _ x hx => ?_
    cases hx
    exact ⟨T.grows h4 (T.grows h3 hc'), hid⟩

theorem establishOwnership_safe (cfg : LocalHitlConfig) (l : Loaded)
    (approval : LocalApprovalDecisionRecord) {run : Run} {c : Checkpoint}
    (hl : T.Held w.store run c) :
    Safe D i (establishOwnership cfg l approval run c) T.StagePost w := by
  unfold establishOwnership
  split
  · exact T.stage_pass hl
  refine safe_catching (R := T.HandsOn) ?_ (fun x w1 _ _ h => T.stage_pass (h _ _ rfl))
    (fun _ _ _ => T.stage_fail _) fun _ _ _ _ => StagePost.error T
  refine .bind (T.registerIntent_safe cfg l approval run hl.checkpoint) (fun x w1 h1 _ hx => ?_)
    fun _ _ _ _ _ => HandsOn.error T
  obtain ⟨intent, c'⟩ := x
  obtain ⟨hc, hid⟩ := hx _ rfl
  exact T.advance_safe hc (hid.trans hl.same) (fun _ => by exact rfl) fun r w2 hr =>
    T.handOn_safe hr _ _ _ _

theorem executeIntent_safe (cfg : LocalHitlConfig) (l : Loaded)
    (approval : LocalApprovalDecisionRecord) {run : Run} {c : Checkpoint}
    (hl : T.Held w.store run c) :
    Safe D i (executeIntent cfg l approval run c) T.StagePost w := by
  unfold executeIntent
  split
  · exact T.stage_pass hl
  split
  · exact T.finish_safe (markRecoveryRequired_plain ..) (persistExecutionFailure_returns _ _ _ _ _)
  rename_i intent _
  refine safe_try (R := T.HandsOn) ?_ (fun x w1 _ _ h => T.stage_pass (h _ _ rfl))
    (fun e h w1 _ _ _ he => ?_) fun _ _ _ _ => StagePost.error T
  · refine .bind (safe_plain (obtainReceipt_plain ..)) (fun receipt w1 h1 _ _ => ?_)
      fun _ _ _ _ _ => HandsOn.error T
    refine .bind (R := T.KeepsCheckpoint c id) ?_ (fun c' w2 h2 _ hc => ?_)
      fun _ _ _ _ _ => HandsOn.error T
    · unfold recordReceipt
      split
      · rename_i hnone
        exact T.saveNext_safe (T.grows h1 hl.checkpoint)
          (.receipt (Option.isNone_iff_eq_none.mp hnone) receipt)
      · exact T.keeps_ret (T.grows h1 hl.checkpoint) rfl
    · obtain ⟨hc, hid⟩ := hc c' rfl
      exact T.advance_safe hc (hid.trans hl.same) (fun _ => by exact rfl) fun r w3 hr =>
        T.handOn_safe hr _ _ _ _
  · unfold executionHandler at he
    split at he
    · cases he
      exact T.finish_safe (persistExecutionFailure_plain (by decide) ..)
        (persistExecutionFailure_returns _ _ _ _ _)
    · cases he
      exact T.finish_safe (markRecoveryRequired_plain ..)
        (persistExecutionFailure_returns _ _ _ _ _)
    · cases he
      exact T.finish_safe (persistExecutionFailure_plain (by decide) ..)
        (persistExecutionFailure_returns _ _ _ _ _)
    · cases he
      exact T.finish_safe (persistExecutionFailure_plain (by decide) ..)
        (persistExecutionFailure_returns _ _ _ _ _)
    · split at he <;> cases he
      exact T.stage_fail _

theorem obtainVerification_safe (receipt : LocalExecutionReceipt) {c : Checkpoint}
    (hc : T.tracked w.store c) :
    Safe D i (obtainVerification receipt c) (T.KeepsCheckpoint c Prod.snd) w := by
  unfold obtainVerification
  split
  · exact T.keeps_ret hc rfl
  · rename_i hnone
    refine .bind (safe_plain (issues_mockVerify.mpr trivial)) (fun v w1 h1 _ _ => ?_)
      fun _ _ _ _ _ => KeepsCheckpoint.error T
    refine .bind (T.saveNext_safe (T.grows h1 hc) (.verification hnone v))
      (fun c' w2 h2 _ hc' => ?_) fun _ _ _ _ _ => KeepsCheckpoint.error T
    obtain ⟨hc', hid⟩ := hc' c' rfl
    refine safe_ret fun w3 h3 _ x hx => ?_
    cases hx
    exact ⟨T.grows h3 hc', hid⟩

theorem verifyReceipt_safe (cfg : LocalHitlConfig) (l : Loaded) {run : Run} {c : Checkpoint}
    (hl : T.Held w.store run c) : Safe D i (verifyReceipt cfg l run c) T.StagePost w := by
  unfold verifyReceipt
  split
  · exact T.stage_pass hl
  split
  · exact T.finish_safe (markVerificationFailed_plain ..)
      (persistExecutionFailure_returns _ _ _ _ _)
  rename_i receipt _
  refine safe_try (R := T.HandsOn) ?_ (fun x w1 _ _ h => T.stage_pass (h _ _ rfl))
    (fun e h w1 _ _ _ he => ?_) fun _ _ _ _ => StagePost.error T
  · refine .bind (T.obtainVerification_safe receipt hl.checkpoint) (fun x w1 h1 _ hx => ?_)
      fun _ _ _ _ _ => HandsOn.error T
    obtain ⟨verification, c'⟩ := x
    obtain ⟨hc, hid⟩ := hx _ rfl
    dsimp only at hc hid ⊢
    have rest_safe (r : Run) (w2 : World ι) (hr : T.Held w2.store r c') : Safe D i (do
        let d ← saveNext c' .successWithEvidence [("phase", "LOCAL_2"), ("local_outcome", "verified")]
        appendEvent cfg r .verificationRecorded verification.verificationHash
          (Dict.ofPairs [("proposal_id", l.proposal.proposalId.str)])
        return (r, d)) T.HandsOn w2 := by
      refine .bind (T.saveNext_safe hr.checkpoint .closed) (fun d w3 h3 _ hd => ?_)
        fun _ _ _ _ _ => HandsOn.error T
      obtain ⟨hd, hdid⟩ := hd d rfl
      exact T.handOn_safe ⟨(T.evolves h3).knowsRun hr.run, hd, hdid.trans hr.same⟩ _ _ _ _
    exact T.advance_safe hc (hid.trans hl.same) (fun _ => by exact rfl) rest_safe
  · unfold verificationHandler at he
    split at he
    · cases he
      exact T.finish_safe (markVerificationFailed_plain ..)
        (persistExecutionFailure_returns _ _ _ _ _)
    · cases he
      exact T.finish_safe (markVerificationFailed_plain ..)
        (persistExecutionFailure_returns _ _ _ _ _)
    · cases he
      exact T.finish_safe (markVerificationFailed_plain ..)
        (persistExecutionFailure_returns _ _ _ _ _)
    · cases he
      exact T.finish_safe (persistExecutionFailure_plain (by decide) ..)
        (persistExecutionFailure_returns _ _ _ _ _)
    · split at he <;> cases he
      exact T.stage_fail _

/-! ## The success exits of `resume` -/

omit T [Permissive D] in
theorem completedFromCheckpoint_ok {run : Run} {c : Checkpoint} {reconciled : Bool}
    {x : LocalExecutionCompletion}
    (h : completedFromCheckpoint run c reconciled = .ok (.succeeded x)) :
    run.state = .successWithEvidence ∧ x.runId = run.runId ∧ ∃ r v, x.receipt = some r ∧
      c.localExecutionReceipt = some r ∧ x.verification = some v ∧ c.localVerification = some v := by
  unfold completedFromCheckpoint at h
  split at h
  · rename_i approval proposal receipt verification _ _ hr hv
    split at h
    · cases h
    · rename_i hs
      simp only [bind, Except.bind] at h
      split at h
      · cases h
      · rename_i y hy
        cases h
        obtain rfl := LocalExecutionCompletion.validate_ok hy
        exact ⟨not_not.mp hs, rfl, receipt, verification, rfl, hr, rfl, hv⟩
  · cases h

omit [Permissive D] in
/-- Reporting a run and a checkpoint in hand. -/
theorem completed_safe {run : Run} {c : Checkpoint} (hl : T.Held w.store run c)
    (reconciled : Bool) :
    Safe D i (.ofExcept (completedFromCheckpoint run c reconciled)) T.Post w := by
  refine safe_ofExcept fun w1 h1 _ x hx _ => ?_
  obtain ⟨hs, hid, r, v, h1r, h2r, h1v, h2v⟩ := completedFromCheckpoint_ok hx
  exact ⟨run, c, r, v, hl.grows h1, hs, hid, h1r, h2r, h1v, h2v⟩

theorem drive_safe (cfg : LocalHitlConfig) (l : Loaded) (approval : LocalApprovalDecisionRecord)
    {run : Run} {c : Checkpoint} (hl : T.Held w.store run c) :
    Safe D i (drive cfg l approval run c) T.Post w := by
  have ended {r : ControlResult LocalExecutionCompletion}
      (h : BoundedVerificationCoordinator.Failed r) {w : World ι} :
      Safe D i (.ret r) T.Post w := by
    obtain ⟨f, rfl⟩ := h
    exact T.safe_fail f
  refine .bind (T.establishOwnership_safe cfg l approval hl) (fun x w1 _ _ h1 => ?_)
    fun _ _ _ _ _ => Post.error T
  rcases x with r | ⟨run, c⟩
  · exact ended (h1.1 r rfl)
  refine .bind (T.executeIntent_safe cfg l approval (h1.2 _ _ rfl)) (fun x w2 _ _ h2 => ?_)
    fun _ _ _ _ _ => Post.error T
  rcases x with r | ⟨run, c⟩
  · exact ended (h2.1 r rfl)
  refine .bind (T.verifyReceipt_safe cfg l (h2.2 _ _ rfl)) (fun x w3 _ _ h3 => ?_)
    fun _ _ _ _ _ => Post.error T
  rcases x with r | ⟨run, c⟩
  · exact ended (h3.1 r rfl)
  exact T.completed_safe (h3.2 _ _ rfl) false

/-- A denied run reports no success. -/
theorem resumeDenied_safe {l : Loaded} (hl : T.Held w.store l.run l.checkpoint)
    {approval : LocalApprovalDecisionRecord} (hd : approval.decision = .denied) :
    Safe D i (resumeDenied l approval) T.Post w := by
  refine .bind (T.applyDecisionState_safe hl approval) (fun x w1 _ _ _ => ?_)
    fun _ _ _ _ _ => Post.error T
  cases x with
  | failed failure => exact T.safe_fail _
  | succeeded x =>
    obtain ⟨run, c⟩ := x
    refine .bind (R := fun o _ => ∀ y, o = .ok y → y.finalState ≠ .successWithEvidence)
      (safe_ofExcept fun _ _ _ y hy => ?_) (fun y w2 _ _ hy => ?_) fun _ _ _ _ _ => Post.error T
    · unfold LocalExecutionCompletion.validate at hy
      rw [if_pos hd] at hy
      split at hy
      · cases hy
      split at hy
      · cases hy
      · rename_i h
        cases hy
        rw [not_or, not_not] at h
        rw [h.1]
        decide
    · refine safe_ret fun _ _ _ z hz hs => ?_
      cases hz
      exact absurd hs (hy y rfl)

theorem resumeSucceeded_safe {l : Loaded} (hl : T.Held w.store l.run l.checkpoint) :
    Safe D i (resumeSucceeded l) T.Post w := by
  unfold resumeSucceeded
  split
  · refine safe_catching (T.saveNext_safe hl.checkpoint .closed) (fun c w1 h1 _ hc => ?_)
      (fun _ _ _ => T.safe_fail _) fun _ _ _ _ => Post.error T
    obtain ⟨hc, hid⟩ := hc c rfl
    exact T.completed_safe ⟨(T.evolves h1).knowsRun hl.run, hc, hid.trans hl.same⟩ true
  · exact T.completed_safe hl true

/-- **`resume` is safe**, and a success it reports is taken from a checkpoint in hand. -/
theorem resume_safe (cfg : LocalHitlConfig) (runId : UUID) (principal : LocalOperatorPrincipal)
    (w : World ι) : Safe D i (resume cfg runId principal) T.Post w := by
  refine .bind (T.load_safe runId w) (fun found w1 _ _ h => ?_) fun _ _ _ _ _ => Post.error T
  cases found with
  | failed failure => exact T.safe_fail _
  | succeeded l =>
    have hl := h l rfl
    dsimp only [resumeLoaded]
    split
    · exact T.safe_fail _
    split
    · exact T.safe_failed ((auditPolicyDenial_plain ..).bind fun _ => trivial)
        (returns_bind _ fun _ => ⟨_, rfl⟩)
    split
    · rename_i hd
      exact T.resumeDenied_safe hl hd
    split
    · exact T.resumeSucceeded_safe hl
    rename_i approval _ _ _ _
    refine .bind (R := fun o w' => ∀ r c', o = .ok (.succeeded (r, c')) →
      T.Held w'.store r c') ?_ (fun x w2 _ _ hx => ?_) fun _ _ _ _ _ => Post.error T
    · unfold applyIfAwaiting
      split
      · exact T.applyDecisionState_safe hl approval
      · refine safe_ret fun w2 h2 _ r c h => ?_
        cases h
        exact hl.grows h2
    · cases x with
      | failed failure => exact T.safe_fail _
      | succeeded x =>
        obtain ⟨run, c⟩ := x
        refine safe_clock_bind fun now => ?_
        split
        · exact T.safe_failed (markRecoveryRequired_plain ..)
            (persistExecutionFailure_returns _ _ _ _ _)
        · exact T.drive_safe cfg l approval (hx _ _ rfl)

end Tracking

end LocalHitlExecutionFlow

end CloudOpsAgent
