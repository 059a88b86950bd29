/-
  Who writes over which checkpoint.

  A checkpoint is replaced by a version-checked save.  A flow that saves over the checkpoint it has
  read may have read it long before; the save goes through only if it is still the stored one, and
  then what the flow knew of the checkpoint it read is true of the one it replaces.

  1. **Rewrites** — the replacements in a history, and how one request extends them.

  2. **The discipline** — `rewriteDiscipline own`: client `i` may replace `base` by `next` where
     `own i base next`.  A checkpoint in hand is one read earlier (`Table.Known`), and what is
     written over one in hand replaces that very one (`rewrite_allowed`).

  3. **The writers** — what each of them writes, and that it keeps the discipline.  `recover` writes
     its claim and, through its reconstructor, an interrupt; the two calls of the challenge service
     write a challenge and its consumption.

  `rewrites_owned` puts the clients together: every replacement in the history of any interleaving
  is one its client may make.
-/
import CloudOpsAgent.Flow.LocalStages
import CloudOpsAgent.Flow.ApprovalStages
import CloudOpsAgent.Deployment.Resume

namespace CloudOpsAgent

open ClientProg ClientProg.Prog Flow

variable [Sha256] {ι : Type}

/-! ## Rewrites -/

/-- One stored checkpoint replaced by the next. -/
structure Rewrite (ι : Type) where
  who : ι
  base : Checkpoint
  next : Checkpoint

/-- The replacement an entry of the history is, if it is one. -/
def Event.rewrite : Event ι → Option (Rewrite ι)
  | .stored who (.saveCheckpoint next _) before _ =>
    (before.checkpoints.get next.runId).map fun base => ⟨who, base, next⟩
  | _ => none

def rewrites (log : List (Event ι)) : List (Rewrite ι) := log.filterMap Event.rewrite

@[simp] theorem rewrites_nil : rewrites ([] : List (Event ι)) = [] := rfl

@[simp] theorem rewrites_append (l l' : List (Event ι)) :
    rewrites (l ++ l') = rewrites l ++ rewrites l' := List.filterMap_append

theorem rewrites_mono {l l' : List (Event ι)} (h : l <+: l') : rewrites l <+: rewrites l' := by
  obtain ⟨rest, rfl⟩ := h
  rw [rewrites_append]
  exact List.prefix_append _ _

theorem Event.rewrite_eq_none {i : ι} {op : Op} {s s' : Store}
    (h : ∀ c expected, op ≠ .saveCheckpoint c expected) :
    (Event.stored i op s s').rewrite = none := by
  cases op with
  | saveCheckpoint c expected => exact absurd rfl (h c expected)
  | _ => rfl

/-- **What one request does to the checkpoints**: nothing; a first checkpoint is filed; or the
    stored checkpoint of a run is replaced by its successor, which the history records. -/
theorem answers_rewrites {i : ι} {w w' : World ι} {r : Req} {x : r.Ans}
    (h : answers i w r x w') :
    (w'.store.checkpoints = w.store.checkpoints ∧ rewrites w'.log = rewrites w.log) ∨
      (∃ c, w.store.checkpoints.get c.runId = none ∧
        w'.store.checkpoints = w.store.checkpoints.put c ∧ rewrites w'.log = rewrites w.log) ∨
      ∃ base next, r = .store (.saveCheckpoint next (some base.version)) ∧
        w.store.checkpoints.get next.runId = some base ∧ next.version = base.version + 1 ∧
        w'.store.checkpoints = w.store.checkpoints.put next ∧
        rewrites w'.log = rewrites w.log ++ [⟨i, base, next⟩] := by
  cases r with
  | store op =>
    obtain rfl | ⟨s, hs, rfl⟩ := answers_store h
    · exact .inl ⟨rfl, rfl⟩
    rw [World.applied_store, World.applied_log, rewrites_append]
    by_cases hop : ∃ c expected, op = .saveCheckpoint c expected
    · obtain ⟨c, expected, rfl⟩ := hop
      obtain ⟨hs', hcur⟩ := hs.saved
      obtain ⟨hnone, -, -⟩ | ⟨current, hget, rfl, hv⟩ := hcur
      · refine .inr (.inl ⟨c, hnone, hs', ?_⟩)
        simp [rewrites, Event.rewrite, hnone]
      · refine .inr (.inr ⟨current, c, rfl, hget, hv, hs', ?_⟩)
        simp [rewrites, Event.rewrite, hget]
    · have hne : ∀ c expected, op ≠ .saveCheckpoint c expected := fun c expected h =>
        hop ⟨c, expected, h⟩
      refine .inl ⟨?_, ?_⟩
      · obtain h | ⟨c, expected, h, -⟩ := hs.checkpoints
        · exact h
        · exact absurd h (hne c expected)
      · simp [rewrites, Event.rewrite_eq_none hne]
  | inspect id identity =>
    cases h
    exact .inl ⟨rfl, by simp [rewrites, Event.rewrite]⟩
  | stop command =>
    cases h
    exact .inl ⟨rfl, by simp [rewrites, Event.rewrite]⟩
  | _ =>
    cases h
    exact .inl ⟨rfl, rfl⟩

/-! ## The discipline -/

/-- Client `i` may replace `base` by `next` where `own i base next`. -/
def rewriteDiscipline (own : ι → Checkpoint → Checkpoint → Prop) :
    Discipline (answers (ι := ι)) where
  inv w := ∀ x ∈ rewrites w.log, own x.who x.base x.next
  evolve := Grows
  rely _ := Grows
  allowed i w r := ∀ base next, r = .store (.saveCheckpoint next (some base.version)) →
    w.store.checkpoints.get next.runId = some base → own i base next
  evolve_trans h h' := h.trans h'
  rely_refl _ := .refl
  rely_trans _ _ _ _ h h' := h.trans h'
  evolve_of_rely h := h
  step {i w r x w'} hw ha hx := by
    refine ⟨fun y hy => ?_, .of_answers hx, fun _ _ => .of_answers hx⟩
    obtain ⟨-, h⟩ | ⟨-, -, -, h⟩ | ⟨base, next, hr, hget, -, -, h⟩ := answers_rewrites hx
    · exact hw y (h ▸ hy)
    · exact hw y (h ▸ hy)
    · rw [h, List.mem_append, List.mem_singleton] at hy
      obtain hy | rfl := hy
      · exact hw y hy
      · exact ha base next hr hget

variable {own : ι → Checkpoint → Checkpoint → Prop} {i : ι} {w : World ι}

theorem rewriteAllowed_quiet {w : World ι} {r : Req} (hr : Req.quiet r) :
    (rewriteDiscipline own).allowed i w r := by
  rintro base next rfl
  cases hr

instance : Permissive (rewriteDiscipline own) where
  allowed _ _ r hr := rewriteAllowed_quiet (Req.quiet_of_plain r hr)

/-- A flow that saves no checkpoint is safe anywhere. -/
theorem safe_quiet {α : Type} {p : Flow α} (hp : p.Issues Req.quiet) :
    Safe (rewriteDiscipline own) i p (fun _ _ => True) w :=
  .of_issues (fun _ _ hr => rewriteAllowed_quiet hr) hp w

/-- The checkpoint was read from an earlier store. -/
abbrev Store.KnowsVersion (s : Store) (c : Checkpoint) : Prop :=
  s.checkpoints.Known CheckpointEvolves c

theorem Store.Evolves.knowsVersion {s s' : Store} (h : s.Evolves s') {c : Checkpoint}
    (hc : s.KnowsVersion c) : s'.KnowsVersion c :=
  hc.evolves (fun _ _ _ h1 h2 => h1.trans h2) h.checkpoints

theorem Store.knowsVersion_of_get {s : Store} {k : UUID} {c : Checkpoint}
    (h : s.checkpoints.get k = some c) : s.KnowsVersion c := .of_get CheckpointEvolves.refl h

/-- **The version check**: what is saved over the version of a checkpoint read earlier replaces
    that very checkpoint. -/
theorem rewrite_allowed {c next : Checkpoint} (hc : w.store.KnowsVersion c)
    (hid : next.runId = c.runId) (hown : own i c next) :
    (rewriteDiscipline own).allowed i w (.store (.saveCheckpoint next (some c.version))) := by
  intro base next' hr hget
  simp only [Req.store.injEq, Op.saveCheckpoint.injEq, Option.some.injEq] at hr
  obtain ⟨rfl, hv⟩ := hr
  obtain ⟨d, hd, hev⟩ := hc
  rw [hid, hd] at hget
  cases hget
  rw [hev.eq_of_version hv.symm]
  exact hown

/-- What was saved over the version of a checkpoint read earlier has replaced that very
    checkpoint. -/
theorem saved_rewrites {c next x : Checkpoint} {s : Store} (hc : w.store.KnowsVersion c)
    (hid : next.runId = c.runId)
    (hx : w.store.saveCheckpoint next (some c.version) = .ok (x, s)) :
    x = next ∧ ⟨i, c, next⟩ ∈
      rewrites (w.applied i (.saveCheckpoint next (some c.version)) s).log := by
  obtain ⟨hxn, -, hcur⟩ := Store.saveCheckpoint_ok hx
  refine ⟨hxn, ?_⟩
  obtain ⟨-, h, -⟩ | ⟨base, hget, hv, -⟩ := hcur
  · cases h
  obtain ⟨d, hd, hev⟩ := hc
  rw [hid, hd] at hget
  cases hget
  obtain rfl := hev.eq_of_version (Option.some.inj hv).symm
  rw [World.applied_log, rewrites_append]
  refine List.mem_append_right _ ?_
  simp [rewrites, Event.rewrite, hid, hd]

/-- **A property of runs** that a request keeps where the replacements so far satisfy `H`. -/
theorem steps_rewrites [DecidableEq ι] {α : Type} {H : Rewrite ι → Prop} {I : World ι → Prop}
    (hstep : ∀ j v r x v', I v → answers j v r x v' → (∀ y ∈ rewrites v'.log, H y) → I v')
    {c c' : Config ι (World ι) Req Req.Ans PyExc α} (hI : I c.world) (hc : Steps answers c c')
    (hH : ∀ y ∈ rewrites c'.world.log, H y) : I c'.world := by
  induction hc with
  | refl => exact hI
  | tail _ hlast ih =>
    cases hlast with
    | call j hj hx =>
      refine hstep j _ _ _ _ (ih fun y hy => hH y ?_) hx hH
      exact (rewrites_mono (answers_log hx)).subset hy

/-! ## The writers -/

namespace DurableApprovalFlow

/-- **The approval flow writes over the checkpoint it has read.** -/
def rewriteTracking : Tracking (rewriteDiscipline own) i where
  named _ := True
  tracked := Store.KnowsVersion
  grows h hc := h.1.knowsVersion hc
  proposal _ _ := trivial
  loaded _ h _ := Store.knowsVersion_of_get h

theorem request_rewrites (hown : ∀ c next, InterruptWrite c next → own i c next)
    (runtime : PrimaryAgentRuntime) (proposalId : UUID) :
    Safe (rewriteDiscipline own) i (request runtime proposalId) (fun _ _ => True) w :=
  InterruptTracking.request_safe
    ⟨rewriteTracking, fun _ hc h => rewrite_allowed hc h.runId (hown _ _ h)⟩ runtime proposalId w

theorem resume_rewrites (hown : ∀ c next, DecisionWrite c next → own i c next)
    (runtime : PrimaryAgentRuntime) (response : ApprovalResumeRequest) :
    Safe (rewriteDiscipline own) i (resume runtime response) (fun _ _ => True) w :=
  DecisionTracking.resume_safe
    ⟨rewriteTracking, fun _ hc h => rewrite_allowed hc h.runId (hown _ _ h)⟩ runtime response w

end DurableApprovalFlow

namespace LocalHitlExecutionFlow

/-- **The local flow writes over the checkpoint in hand.** -/
def rewriteTracking (hown : ∀ c next, Succeeds c next → own i c next) :
    Tracking (rewriteDiscipline own) i where
  tracked := Store.KnowsVersion
  evolves h := h.1
  grows h hc := h.1.knowsVersion hc
  loaded _ h _ := Store.knowsVersion_of_get h
  save _ hc h := rewrite_allowed hc h.runId (hown _ _ h)
  saved {s c next} _ _ :=
    Store.knowsVersion_of_get (k := next.runId) (Table.get_put_self _ _)

end LocalHitlExecutionFlow

namespace AuthenticatedApprovalResumeService

/-- `next` is what `issue` writes over `c`. -/
def ChallengeWrite (c next : Checkpoint) : Prop :=
  ∃ principal value now expiresAt, next.toCheckpointFields = challenged c principal value now expiresAt

/-- `next` is what one call of `issue` writes over `c`. -/
def IssueWrite (cfg : ResumeServiceConfig) (principal : AuthenticatedJudgePrincipal)
    (c next : Checkpoint) : Prop :=
  ∃ value now, now + seconds cfg.challengeTtlSeconds ≤ Time.datetimeMax ∧
    next.toCheckpointFields =
      challenged c principal value now (now + seconds cfg.challengeTtlSeconds)

theorem IssueWrite.challengeWrite {cfg : ResumeServiceConfig}
    {principal : AuthenticatedJudgePrincipal} {c next : Checkpoint}
    (h : IssueWrite cfg principal c next) : ChallengeWrite c next := by
  obtain ⟨value, now, -, h⟩ := h
  exact ⟨principal, value, now, _, h⟩

/-- `next` is what `resume` writes over `c`. -/
def ConsumedWrite (c next : Checkpoint) : Prop :=
  ∃ consumedAt, next.toCheckpointFields = consumed c consumedAt

theorem issue_rewrites {cfg : ResumeServiceConfig} {principal : AuthenticatedJudgePrincipal}
    (hown : ∀ c next, IssueWrite cfg principal c next → own i c next)
    (interrupt : ApprovalInterrupt) :
    Safe (rewriteDiscipline own) i (issue cfg interrupt principal) (fun _ _ => True) w := by
  refine safe_read_bind (o := .getCheckpoint interrupt.payload.runId)
    (·.checkpoints.get interrupt.payload.runId) (fun _ => rfl) rfl (fun w1 _ _ => ?_)
    fun _ _ _ _ => trivial
  cases hc : w1.store.checkpoints.get interrupt.payload.runId with
  | none => exact safe_raise fun _ _ _ => trivial
  | some c =>
    dsimp only
    split
    · exact safe_raise fun _ _ _ => trivial
    refine safe_nonce_bind fun value => ?_
    split
    · exact safe_raise fun _ _ _ => trivial
    refine safe_clock_bind fun now => ?_
    split
    · exact safe_raise fun _ _ _ => trivial
    rename_i hrange
    refine .bind (R := fun o _ => ∀ n, o = .ok n → IssueWrite cfg principal c n)
      (safe_ofExcept fun _ _ _ n hn => ⟨value, now, not_lt.mp hrange, Checkpoint.validate_ok hn⟩)
      (fun next w2 h2 _ hnext => ?_) fun _ _ _ _ _ => trivial
    have hnext := hnext next rfl
    have hid : next.runId = c.runId := by
      obtain ⟨_, _, -, h⟩ := hnext
      rw [h, challenged]
    exact safe_op_bind (fun w' hw _ => rewrite_allowed ((h2.trans hw).1.knowsVersion
      (Store.knowsVersion_of_get hc)) hid (hown _ _ hnext)) (fun _ _ _ _ _ _ _ _ => safe_plain
      trivial) fun _ _ _ _ => trivial

theorem consume_rewrites (hown : ∀ c next, ConsumedWrite c next → own i c next)
    (interrupt : ApprovalInterrupt) (principal : AuthenticatedJudgePrincipal) (challenge : String) :
    Safe (rewriteDiscipline own) i (consume interrupt principal challenge) (fun _ _ => True) w := by
  refine safe_read_bind (o := .getCheckpoint interrupt.payload.runId)
    (·.checkpoints.get interrupt.payload.runId) (fun _ => rfl) rfl (fun w1 _ _ => ?_)
    fun _ _ _ _ => trivial
  cases hc : w1.store.checkpoints.get interrupt.payload.runId with
  | none => exact safe_raise fun _ _ _ => trivial
  | some c =>
    dsimp only
    cases expiry c with
    | none => exact safe_raise fun _ _ _ => trivial
    | some expiresAt =>
      dsimp only
      split
      · exact safe_raise fun _ _ _ => trivial
      refine safe_clock_bind fun now => ?_
      split
      · exact safe_raise fun _ _ _ => trivial
      refine safe_clock_bind fun consumedAt => ?_
      refine .bind (R := fun o _ => ∀ n, o = .ok n → ConsumedWrite c n)
        (safe_ofExcept fun _ _ _ n hn => ⟨_, Checkpoint.validate_ok hn⟩)
        (fun next w2 h2 _ hnext => ?_) fun _ _ _ _ _ => trivial
      have hnext := hnext next rfl
      have hid : next.runId = c.runId := by
        obtain ⟨_, h⟩ := hnext
        rw [h, consumed]
      exact safe_op_bind (fun w' hw _ => rewrite_allowed ((h2.trans hw).1.knowsVersion
        (Store.knowsVersion_of_get hc)) hid (hown _ _ hnext)) (fun _ _ _ _ _ _ _ _ => safe_plain
        trivial) fun _ _ _ _ => trivial

theorem resume_rewrites
    (hdecision : ∀ c next, DurableApprovalFlow.DecisionWrite c next → own i c next)
    (hconsumed : ∀ c next, ConsumedWrite c next → own i c next) (runtime : PrimaryAgentRuntime)
    (interrupt : ApprovalInterrupt) (decision : ApprovalDecision)
    (principal : AuthenticatedJudgePrincipal) (challenge : String) :
    Safe (rewriteDiscipline own) i (resume runtime interrupt decision principal challenge)
      (fun _ _ => True) w :=
  .bind (consume_rewrites hconsumed interrupt principal challenge)
    (fun _ _ _ _ _ => DurableApprovalFlow.resume_rewrites hdecision runtime _)
    fun _ _ _ _ _ => trivial

end AuthenticatedApprovalResumeService

namespace RecoveryCoordinator

/-- `next` is what a claim writes over `c`: no lease stood in the way, and its own can be
    represented. -/
def ClaimWrite (cfg : RecoveryConfig) (c next : Checkpoint) : Prop :=
  ∃ run proposal now claimId, leaseFailure c now = none ∧
    now + seconds cfg.leaseSeconds ≤ Time.datetimeMax ∧
      next.toCheckpointFields = claimFields cfg run proposal c now claimId

theorem ClaimWrite.runId {cfg : RecoveryConfig} {c next : Checkpoint} (h : ClaimWrite cfg c next) :
    next.runId = c.runId := by
  obtain ⟨run, proposal, now, claimId, -, -, h⟩ := h
  rw [h, claimFields]

variable {cfg : RecoveryConfig}

/-- A claim writes over the checkpoint it was given, and one that succeeds is in the history. -/
theorem claimActiveRecovery_rewrites (hown : ∀ c next, ClaimWrite cfg c next → own i c next)
    (run : Run) (proposal : ActionProposal) {checkpoint : Option Checkpoint}
    (hc : ∀ c, checkpoint = some c → w.store.KnowsVersion c) :
    Safe (rewriteDiscipline own) i (claimActiveRecovery cfg run proposal checkpoint)
      (fun o w' => ∀ saved, o = .ok (.succeeded saved) → ∃ c, checkpoint = some c ∧
        ClaimWrite cfg c saved ∧ ⟨i, c, saved⟩ ∈ rewrites w'.log) w := by
  rcases checkpoint with _ | c
  · exact safe_ret fun _ _ _ _ h => by cases h
  have hc := hc c rfl
  refine safe_clock_bind fun now => ?_
  cases hlease : leaseFailure c now with
  | some failure => exact safe_ret fun _ _ _ _ h => by cases h
  | none =>
    refine safe_freshId_bind fun claimId => ?_
    split
    · exact safe_raise fun _ _ _ _ h => by cases h
    rename_i hrange
    refine .bind (R := fun o _ => ∀ n, o = .ok n → ClaimWrite cfg c n)
      (safe_ofExcept fun _ _ _ n hn => ?_) (fun next w1 h1 _ hnext => ?_)
      fun _ _ _ _ _ _ h => by cases h
    · exact ⟨run, proposal, now, claimId, hlease, not_lt.mp hrange, Checkpoint.validate_ok hn⟩
    have hnext := hnext next rfl
    refine safe_try (R := fun o w' => ∀ n, o = .ok n → n = next ∧ ⟨i, c, n⟩ ∈ rewrites w'.log)
      (safe_op (fun w' hw _ => ?_) (fun x s w2 w3 hw _ hx h3 _ n h => ?_) fun _ _ _ _ _ h => by
        cases h) (fun saved w2 _ _ hsaved => ?_) (fun e h w2 _ _ _ he => ?_)
      fun _ _ _ _ _ h => by cases h
    · exact rewrite_allowed ((h1.trans hw).1.knowsVersion hc) hnext.runId (hown _ _ hnext)
    · cases h
      obtain ⟨hxn, hmem⟩ := saved_rewrites ((h1.trans hw).1.knowsVersion hc) hnext.runId hx
      exact ⟨hxn, hxn ▸ (rewrites_mono h3.2).subset hmem⟩
    · refine safe_ret fun w3 h3 _ n h => ?_
      cases h
      obtain ⟨hsn, hmem⟩ := hsaved saved rfl
      obtain rfl : next = saved := hsn.symm
      exact ⟨c, rfl, hnext, (rewrites_mono h3.2).subset hmem⟩
    · unfold claimHandler at he
      split at he <;> cases he <;> exact safe_ret fun _ _ _ _ h => by cases h

/-- The checkpoint of a snapshot was read. -/
theorem readSnapshot_rewrites (request : RecoveryRequest) :
    Safe (rewriteDiscipline own) i (readSnapshot request) (fun o w' => ∀ s c,
      o = .ok (some s) → s.checkpoint = some c → w'.store.KnowsVersion c) w := by
  have raised {e : PyExc} {w : World ι} : ∀ s c, (.error e : Except PyExc (Option Snapshot)) =
      .ok (some s) → s.checkpoint = some c → w.store.KnowsVersion c := fun _ _ h => by cases h
  have looked {α : Type} {proposal : Option ActionProposal}
      {read : ActionProposal → Flow (Option α)} (h : ∀ p, (read p).Issues Req.plain)
      {w : World ι} : Safe (rewriteDiscipline own) i (lookupFor proposal read) (fun _ _ => True) w := by
    refine safe_plain ?_
    unfold lookupFor
    split
    · trivial
    · exact h _
  refine safe_read_bind (o := .getRun request.runId) (·.runs.get request.runId) (fun _ => rfl) rfl
    (fun w1 _ _ => ?_) fun _ _ _ _ => raised
  cases w1.store.runs.get request.runId with
  | none => exact safe_ret fun _ _ _ _ _ h => by cases h
  | some run =>
    refine .bind (R := fun o w' => ∀ s c, o = .ok s → s.checkpoint = some c →
      w'.store.KnowsVersion c) ?_ (fun s w2 _ _ hs => ?_) fun _ _ _ _ _ => raised
    · have raised {e : PyExc} {w : World ι} : ∀ s c, (.error e : Except PyExc Snapshot) = .ok s →
          s.checkpoint = some c → w.store.KnowsVersion c := fun _ _ h => by cases h
      refine .bind (R := fun _ _ => True) (safe_plain ?_) (fun proposal w2 _ _ _ => ?_)
        fun _ _ _ _ _ => raised
      · unfold requestedProposal
        split
        · trivial
        · exact issues_op.mpr rfl
      refine safe_read_bind (o := .getCheckpoint run.runId) (·.checkpoints.get run.runId)
        (fun _ => rfl) rfl (fun w3 _ _ => ?_) fun _ _ _ _ => raised
      refine .bind (looked fun p => issues_op (o := .getApproval p.proposalId).mpr rfl)
        (fun approval w4 h4 _ _ => ?_)
        fun _ _ _ _ _ => raised
      refine .bind (looked fun p =>
        issues_op (o := .getIdempotency (deriveIdempotencyKey p)).mpr rfl) (fun record w5 h5 _ _ => ?_)
        fun _ _ _ _ _ => raised
      refine .bind (looked fun p =>
        issues_op (o := .getVerificationEvidence run.runId p.proposalId).mpr rfl) (fun evidence w6 h6 _ _ => ?_)
        fun _ _ _ _ _ => raised
      refine safe_ret fun w7 h7 _ s c hs hc => ?_
      cases hs
      exact (((h4.trans h5).trans h6).trans h7).1.knowsVersion
        (Store.knowsVersion_of_get (s := w3.store) hc)
    · refine safe_ret fun w3 h3 _ s' c hs' hc => ?_
      cases hs'
      exact h3.1.knowsVersion (hs s c rfl hc)

/-! ### The dispatch of `recover` -/

section Dispatch

variable {setup : RecoverySetup} (hclaim : ∀ c next, ClaimWrite setup.config c next → own i c next)
  {s : Snapshot} (hs : ∀ c, s.checkpoint = some c → w.store.KnowsVersion c)

include hclaim hs

/-- A claim, then a flow that writes no checkpoint. -/
theorem claimed_rewrites (proposal : ActionProposal)
    {f : ControlResult Checkpoint → Flow (ControlResult RecoveryOutcome)}
    (hf : ∀ x, (f x).Issues Req.quiet) :
    Safe (rewriteDiscipline own) i
      (claimActiveRecovery setup.config s.run proposal s.checkpoint >>= f) (fun _ _ => True) w :=
  .bind (claimActiveRecovery_rewrites hclaim s.run proposal hs)
    (fun x _ _ _ _ => safe_quiet (hf x)) fun _ _ _ _ _ => trivial

theorem recoverExecution_rewrites (proposal : ActionProposal) :
    Safe (rewriteDiscipline own) i (recoverExecution setup.config s proposal)
      (fun _ _ => True) w := by
  have audited (failure : FailureDetail) (type : AuditEventType) :
      (auditedFailure s.run s.proposal failure type).Issues Req.quiet :=
    (auditedFailure_plain ..).mono Req.quiet_of_plain
  have operator (code message : String) :
      (operatorRequired s.run s.proposal code message).Issues Req.quiet :=
    (operatorRequired_plain ..).mono Req.quiet_of_plain
  unfold recoverExecution
  split
  · exact safe_quiet (audited ..)
  split
  · exact safe_quiet (operator ..)
  split
  · exact safe_quiet (returnVerified_quiet s)
  split
  · exact safe_quiet (operator ..)
  refine claimed_rewrites hclaim hs proposal fun answer => ?_
  cases answer with
  | failed failure => exact audited ..
  | succeeded checkpoint =>
    dsimp only
    split
    · exact issues_catching (enterVerifying_quiet _) (audited ..) fun run =>
        continueVerification_quiet ..
    · unfold reconcileMissingAck
      split
      · exact operator ..
      · exact readBackLoop_quiet ..

theorem recoverVerification_rewrites (proposal : ActionProposal) :
    Safe (rewriteDiscipline own) i (recoverVerification setup.config s proposal)
      (fun _ _ => True) w := by
  unfold recoverVerification
  split
  · exact safe_plain (operatorRequired_plain ..)
  split
  · exact safe_quiet (returnVerified_quiet s)
  refine claimed_rewrites hclaim hs proposal fun answer => ?_
  cases answer with
  | failed failure => exact (auditedFailure_plain ..).mono Req.quiet_of_plain
  | succeeded checkpoint => exact continueVerification_quiet ..

end Dispatch

theorem recoverAwaitingApproval_rewrites {setup : RecoverySetup}
    (hinterrupt : ∀ c next, DurableApprovalFlow.InterruptWrite c next → own i c next)
    (s : Snapshot) (proposal : ActionProposal) :
    Safe (rewriteDiscipline own) i (recoverAwaitingApproval setup.config s proposal)
      (fun _ _ => True) w := by
  unfold recoverAwaitingApproval
  split
  · exact safe_plain (auditedFailure_plain ..)
  split
  · exact safe_plain (auditedFailure_plain ..)
  split
  · exact safe_plain (operatorRequired_plain ..)
  · rename_i reconstruct hr
    obtain ⟨runtime, -, rfl⟩ := Option.map_eq_some_iff.mp hr
    refine .bind (DurableApprovalFlow.request_rewrites hinterrupt runtime proposal.proposalId)
      (fun answer _ _ _ _ => ?_) fun _ _ _ _ _ => trivial
    cases answer with
    | failed failure => exact safe_plain (auditedFailure_plain ..)
    | succeeded interrupt => exact safe_plain (outcome_plain ..)

/-- **`recover` writes its claim**, and an interrupt through its reconstructor. -/
theorem recover_rewrites {setup : RecoverySetup}
    (hclaim : ∀ c next, ClaimWrite setup.config c next → own i c next)
    (hinterrupt : ∀ c next, DurableApprovalFlow.InterruptWrite c next → own i c next)
    (request : RecoveryRequest) :
    Safe (rewriteDiscipline own) i (recover setup.config request) (fun _ _ => True) w := by
  refine safe_catching (readSnapshot_rewrites request) (fun found w1 _ _ hfound => ?_)
    (fun _ _ _ => safe_plain trivial) fun _ _ _ _ => trivial
  rcases found with _ | s
  · exact safe_plain trivial
  have hs (c : Checkpoint) (hc : s.checkpoint = some c) := hfound s c rfl hc
  refine .bind (R := fun _ _ => True) (safe_ofExcept fun _ _ _ => trivial)
    (fun refused w2 h2 _ _ => ?_) fun _ _ _ _ _ => trivial
  have hs (c : Checkpoint) (hc : s.checkpoint = some c) := h2.1.knowsVersion (hs c hc)
  rcases refused with _ | failure
  · dsimp only [recoverSnapshot]
    split
    · exact safe_plain (outcome_plain ..)
    split
    · exact safe_plain trivial
    rename_i proposal _
    unfold recoverProposal
    split
    · exact safe_plain (outcome_plain ..)
    · exact recoverAwaitingApproval_rewrites hinterrupt s proposal
    · exact safe_plain (recoverApproved_plain ..)
    · exact recoverExecution_rewrites hclaim hs proposal
    · exact recoverExecution_rewrites hclaim hs proposal
    · exact recoverVerification_rewrites hclaim hs proposal
    · exact safe_quiet (returnVerified_quiet s)
    · exact safe_plain (outcome_plain ..)
  · exact safe_plain (auditedFailure_plain ..)

end RecoveryCoordinator

/-- Clients that keep the discipline make no other replacements, from any store. -/
theorem rewrites_owned [DecidableEq ι] {α : Type} {threads : ι → Flow α} {s₀ : Store}
    (hsafe : ∀ j, Safe (rewriteDiscipline own) j (threads j) (fun _ _ => True) ⟨s₀, []⟩)
    {c : Config ι (World ι) Req Req.Ans PyExc α} (hc : Steps answers ⟨⟨s₀, []⟩, threads⟩ c) :
    ∀ x ∈ rewrites c.world.log, own x.who x.base x.next :=
  (reachable_safe (D := rewriteDiscipline own) (by simp [rewriteDiscipline]) hsafe hc).1

end CloudOpsAgent
