/-
  SUCCESS IS TRUE, OBSERVED AND EXECUTED: the results about whole runs of the system.

  Any number of calls of all flows are interleaved (`Reachable`), together with bare repository
  operations of the flows outside this development.  Of those operations it is only used what the
  program's other writers do (`Op.external`): evidence is created by `verify` and `recover` alone,
  `RECOVERY_REQUIRED` is left for `VERIFYING` by `recover` alone, EC2 runs have action proposals and
  no remediation proposal in their checkpoints, and the intake of a local run writes versions 1 and 2
  of its checkpoint without any decision.

  Every call keeps the discipline of success (`Call.safe_success`), so

  * what a call returns as a success is the stored truth (`success_reply_truthful`);
  * a transition of an EC2 run into success had a stopped read-back (`success_has_readback`);
  * and the run was `EXECUTING` before, unless it strayed (`success_was_executing`).
-/
import CloudOpsAgent.Recovery.Execution
import CloudOpsAgent.Safety.Local

namespace CloudOpsAgent

open ClientProg ClientProg.Prog

section System

variable [Sha256] {ι : Type}

/-! ## The calls -/

/-- What the rest of the program does to the repository. -/
def Op.external (isLocal : UUID → Bool) : Op → Prop
  | .createVerificationEvidence _ => False
  | .transitionRun _ .verifying .recoveryRequired .. => False
  | .createProposal p => isLocal p.runId = false
  | .saveCheckpoint c expected =>
    (isLocal c.runId = false → c.remediationProposal = none) ∧
      (isLocal c.runId = true → c.localApprovalRequest = none ∧
        (expected = none ∨ expected = some 1))
  | _ => True

/-- A bare operation of a call is one of the rest of the program. -/
def Call.admissible (isLocal : UUID → Bool) : Call → Prop
  | .operation op => op.external isLocal
  | _ => True

/-- The success a reply reports is the stored truth of its run. -/
def Reply.truthful (s : Store) : Reply → Prop
  | .verified (.succeeded completion) => Verified s completion.evidence
  | .recovered (.succeeded outcome) => outcome.finalState = .successWithEvidence →
    ∃ e, Verified s e ∧ e.runId = outcome.runId ∧ outcome.proposalId = some e.proposalId ∧
      outcome.verdict.evidenceHash = some e.evidenceHash ∧
      ∀ c, outcome.verdict.verification = some c → c.evidence = e
  | .localResumed (.succeeded completion) => completion.finalState = .successWithEvidence →
    LocalHitlExecutionFlow.Proven s completion
  | _ => True

variable {isLocal : UUID → Bool}

theorem Op.external_allowed {op : Op} (h : op.external isLocal) {w : World ι}
    (hI : SuccessInv isLocal w) : successAllowed isLocal w (.store op) := by
  cases op with
  | createVerificationEvidence e => exact absurd h id
  | transitionRun r next expected version t a v =>
    cases next <;> cases expected <;> trivial
  | createProposal p => exact h
  | saveCheckpoint c expected =>
    by_cases hl : isLocal c.runId = false
    · exact hI.save_allowed hl (h.1 hl) expected
    · obtain ⟨hnone, hexp⟩ := h.2 (Bool.eq_true_of_not_eq_false hl)
      refine ⟨fun hc => absurd hc hl, fun _ => hnone, fun current hcur hv => ?_⟩
      -- only a first version is written over, and that has nothing to keep
      obtain rfl | rfl := hexp
      · cases hv
      · injection hv with hv
        exact .of_request (hI.firstCheckpoint _ current hcur hv.symm) _
  | _ => trivial

/-- The post-condition of a call. -/
def Call.Post (o : Except PyExc Reply) (w : World ι) : Prop := ∀ r, o = .ok r → r.truthful w.store

/-- A flow whose post-condition is the truth of the reply made of its result. -/
theorem Call.safe_reply {α : Type} {i : ι} {w : World ι} {p : Flow α} {f : α → Reply}
    {R : Except PyExc α → World ι → Prop} (hp : Safe (successDiscipline isLocal) i p R w)
    (hf : ∀ a w', R (.ok a) w' → (f a).truthful w'.store) :
    Safe (successDiscipline isLocal) i (p >>= fun a => .ret (f a)) Call.Post w := by
  refine Safe.map (hp.mono fun o w' _ h r hr => ?_)
  cases o with
  | error e => cases hr
  | ok a =>
    cases hr
    exact hf a w' h

/-- **Every call keeps the discipline of success**, and replies the truth. -/
theorem Call.safe_success (call : Call) (h : call.admissible isLocal) (i : ι) (w : World ι) :
    Safe (successDiscipline isLocal) i call.flow Call.Post w := by
  cases call with
  | execute proposalId =>
    exact safe_reply (StopSandboxInstanceCoordinator.execute_safe_success proposalId w)
      fun _ _ _ => trivial
  | verify settings target proposalId =>
    refine safe_reply (BoundedVerificationCoordinator.verify_safe settings target proposalId w)
      fun a w' hpost => ?_
    cases a with
    | failed f => trivial
    | succeeded c => exact (hpost c rfl).1
  | recover setup request =>
    refine safe_reply (RecoveryCoordinator.recover_safe (RecoveryCoordinator.configSafe_setup setup)
      request w) fun a w' hpost => ?_
    cases a with
    | failed f => trivial
    | succeeded c => exact hpost c rfl
  | requestApproval runtime proposalId =>
    exact safe_reply (DurableApprovalFlow.request_safe runtime proposalId w) fun _ _ _ => trivial
  | resumeApproval runtime response =>
    exact safe_reply (DurableApprovalFlow.resume_safe runtime response w) fun _ _ _ => trivial
  | requestLocal cfg runId principal =>
    exact safe_reply (LocalHitlExecutionFlow.requestApproval_safe cfg runId principal w)
      fun _ _ _ => trivial
  | decideLocal cfg d principal =>
    exact safe_reply (LocalHitlExecutionFlow.decide_safe cfg d principal w) fun _ _ _ => trivial
  | resumeLocal cfg runId principal =>
    refine safe_reply (LocalHitlExecutionFlow.resume_safe cfg runId principal w)
      fun a w' hpost => ?_
    cases a with
    | failed f => trivial
    | succeeded c => exact hpost c rfl
  | operation op =>
    refine safe_reply (safe_op (Q := fun _ _ => True) (fun w' _ hI => op.external_allowed h hI)
      (fun _ _ _ _ _ _ _ _ _ => trivial) fun _ _ _ _ => trivial) fun _ _ _ => trivial

/-! ## Runs of the system -/

section Runs

variable [DecidableEq ι] {calls : ι → Call} (hcalls : ∀ i, (calls i).admissible isLocal)
  {c : Config ι (World ι) Req Req.Ans PyExc Reply} (hc : Reachable calls c)
include hcalls hc

theorem Reachable.successInv : SuccessInv isLocal c.world :=
  (reachable_safe (SuccessInv.initial isLocal) (fun i => (calls i).safe_success (hcalls i) i _) hc).1

/-- **No false success.**  Whatever calls are interleaved, however they crash, and whatever
    repository, provider and executor do: a success that `verify`, `recover` or the local `resume`
    has returned is the stored truth of its run. -/
theorem success_reply_truthful {i : ι} {r : Reply} (hi : c.threads i = .ret r) :
    r.truthful c.world.store :=
  reachable_ret (SuccessInv.initial isLocal) (fun i => (calls i).safe_success (hcalls i) i _) hc hi r rfl

/-- **Success means an independent stopped read-back.**  When a transition moved an EC2 run into
    success, a read-back of exactly the proposal's target under the run's ids had observed
    `STOPPED`, the stored evidence carried its hash, and so did an event of the audit trail. -/
theorem success_has_readback {before after : List (Event ι)} {i : ι} {runId : UUID}
    {expected : WorkflowState} {version : Nat} {t : Time} {approvalId verificationId : Option UUID}
    {s s' : Store} (hlog : c.world.log = before ++ .stored i (.transitionRun runId
      .successWithEvidence expected version t approvalId verificationId) s s' :: after)
    (hcloud : isLocal runId = false) :
    ∃ proposalId p run e, verificationId = some proposalId ∧
      s.proposals.get proposalId = some p ∧ p.runId = runId ∧ s.runs.get runId = some run ∧
      s.verificationEvidence.get (runId, proposalId) = some e ∧
      ReadBack before p (.fromRun run) e.observationHash ∧ Audited s runId e.observationHash :=
  ((Reachable.successInv hcalls hc).history before _ after hlog hcloud).2

/-- **No success without an execution**, in a run of the system whose steps never take the EC2 run
    from `APPROVED` straight to `RECOVERY_REQUIRED` while an idempotency record of it is registered
    (and as long as SHA-256 does not collide on the keys of two runs): a run that succeeded had been
    moved into `EXECUTING`. -/
theorem success_was_executing {runId : UUID} {run : Run}
    (hrun : c.world.store.runs.get runId = some run) (hsuccess : run.state = .successWithEvidence)
    (hstray : ¬Strayed c.world.log runId) (hcollide : ¬Collided c.world.log) :
    Entered c.world.log runId := by
  have hunderway : run.state.underway := by rw [hsuccess]; rfl
  obtain h | h | h := (Reachable.successInv hcalls hc).underway runId run hrun hunderway
  · exact absurd h hstray
  · exact absurd h hcollide
  · exact h

end Runs

end System

/-! ## The sample run -/

namespace Sample

attribute [local instance] Sha256.standard in
/-- **Success without an execution**: the first delivery of the sample approval crashes right after
    it has registered the action, a duplicate and a recovery close the run, and nobody ever moved it
    into `EXECUTING`. -/
theorem success_never_executing : ∃ c, Reachable calls c ∧ c.world.store.Closed proposal ∧
    ¬Entered c.world.log proposal.runId := by
  obtain ⟨r, checkpoint, hclaim, hproposal, hlease⟩ := claimable acknowledges
  have hthread : ∀ i, 10 ≤ i → start.threads i = (calls i).flow := fun i hi =>
    play_threads _ _ (by simp; omega) _
  have hfree : ∀ t, checkpoint.Free proposal t := fun t =>
    ⟨fun j hj => .inr (Option.some.inj (hj.symm.trans hproposal)), fun t' _ => by
      simp [RecoveryCoordinator.leaseFailure, hlease]⟩
  have hreach : Reachable calls start := reachable_play ..
  have hstopped : (environment 10 acknowledges).Stopped := fun n => ⟨_, rfl⟩
  have hcover : recovery.Covers proposal :=
    ⟨⟨sandbox, rfl, rfl, rfl, rfl, rfl⟩, _, sandbox, rfl, rfl, rfl, rfl, rfl⟩
  obtain ⟨c, hc, hclosed, hmovers⟩ := closed_without_execution hreach hclaim hstopped hcover hfree
    (i := 10) (j := 11) (k := 12) (by decide) (by decide) (by decide) (hthread 10 le_rfl)
    (hthread 11 (by decide)) (hthread 12 (by decide))
  refine ⟨c, hc, hclosed, ?_⟩
  rintro ⟨i, hi⟩
  rw [hmovers] at hi
  cases hi

theorem admissible [Sha256] (i : Nat) : (calls i).admissible fun _ => false := by
  unfold calls
  rcases h : (_ : List Call)[i]? with _ | call
  · exact trivial
  · have hmem := List.mem_of_getElem? h
    simp only [approved, List.map_cons, List.map_nil, List.cons_append, List.nil_append,
      List.mem_cons, List.not_mem_nil, or_false] at hmem
    rcases hmem with rfl | rfl | rfl | rfl | rfl | rfl | rfl | rfl | rfl | rfl | rfl | rfl | rfl | rfl
    all_goals first | exact trivial | exact rfl | exact ⟨fun _ => rfl, fun h => by cases h⟩

section Checks

variable [Sha256] {ι : Type}

/-- The completion a verification has returned. -/
def verifiedBy : Flow Reply → Option VerificationCompletion
  | .ret (.verified (.succeeded completion)) => some completion
  | _ => none

theorem eq_of_verifiedBy {q : Flow Reply} (h : (verifiedBy q).isSome) :
    ∃ completion, q = .ret (.verified (.succeeded completion)) := by
  unfold verifiedBy at h
  split at h
  · exact ⟨_, rfl⟩
  · cases h

/-- The entry is a transition of the run into success. -/
def succeeds (r : UUID) : Event ι → Bool
  | .stored _ (.transitionRun runId .successWithEvidence _ _ _ _ _) _ _ => decide (runId = r)
  | _ => false

theorem exists_of_succeeds (r : UUID) (log : List (Event ι)) (h : log.any (succeeds r) = true) :
    ∃ before after i expected version t a v s s', log = before ++ .stored i (.transitionRun r
      .successWithEvidence expected version t a v) s s' :: after := by
  obtain ⟨event, hmem, hevent⟩ := List.any_eq_true.mp h
  obtain ⟨before, after, hlog⟩ := List.append_of_mem hmem
  unfold succeeds at hevent
  split at hevent
  · obtain rfl := of_decide_eq_true hevent
    exact ⟨before, after, _, _, _, _, _, _, _, _, hlog⟩
  · cases hevent

/-- Nothing strays, and the only proposal is the sample's. -/
def tame : Event ι → Bool
  | .stored _ op s _ => op.strays.isNone && decide (s.proposals.keys ⊆ {uid 4})
  | _ => true

theorem not_strayed_of_tame (r : UUID) (log : List (Event ι)) (h : log.all tame = true) :
    ¬Strayed log r ∧ ¬Collided log := by
  constructor
  · rintro ⟨i, op, s, s', hmem, hop, -⟩
    have ht := List.all_eq_true.mp h _ hmem
    simp [tame, hop] at ht
  · rintro ⟨i, op, s, s', hmem, k, p, k', q, hp, hq, -, hne⟩
    have ht := List.all_eq_true.mp h _ hmem
    simp only [tame, Bool.and_eq_true, decide_eq_true_eq] at ht
    have hk := Finset.mem_singleton.mp (ht.2 (Table.mem_keys.mpr ⟨p, hp⟩))
    have hk' := Finset.mem_singleton.mp (ht.2 (Table.mem_keys.mpr ⟨q, hq⟩))
    rw [hk, ← hk', hq] at hp
    cases hp
    exact hne rfl

end Checks

attribute [local instance] digest in
/-- The verification of the sample run has returned a success, which is true. -/
theorem success_reply_truthful_sample :
    ∃ completion, (Reply.verified (.succeeded completion)).truthful finish.world.store := by
  obtain ⟨completion, hret⟩ := eq_of_verifiedBy (q := finish.threads 13) (by decide +kernel)
  exact ⟨completion, success_reply_truthful admissible reachable_finish hret⟩

attribute [local instance] digest in
/-- The transition of the sample run into success had its read-back. -/
theorem success_has_readback_sample :
    ∃ before proposalId s p run e, s.proposals.get proposalId = some p ∧ p.runId = uid 1 ∧
      s.runs.get (uid 1) = some run ∧ s.verificationEvidence.get (uid 1, proposalId) = some e ∧
      ReadBack (ι := Nat) before p (.fromRun run) e.observationHash ∧
      Audited s (uid 1) e.observationHash := by
  obtain ⟨before, after, i, expected, version, t, a, v, s, s', hlog⟩ :=
    exists_of_succeeds (uid 1) finish.world.log (by decide +kernel)
  obtain ⟨proposalId, p, run, e, -, hrest⟩ :=
    success_has_readback admissible reachable_finish hlog rfl
  exact ⟨before, proposalId, s, p, run, e, hrest⟩

attribute [local instance] digest in
/-- The sample run succeeded and was `EXECUTING`. -/
theorem success_was_executing_sample :
    Entered finish.world.log (uid 1) := by
  have h : (finish.world.store.runs.get (uid 1)).any
      (fun run => decide (run.state = .successWithEvidence)) = true := by decide +kernel
  obtain ⟨run, hrun, hstate⟩ := (Option.any_eq_true ..).mp h
  obtain ⟨hstray, hcollide⟩ := not_strayed_of_tame (uid 1) finish.world.log
    (by decide +kernel)
  exact success_was_executing admissible reachable_finish hrun (of_decide_eq_true hstate) hstray
    hcollide

end Sample

end CloudOpsAgent
