/-
  `execute`, the approval flow and `recover` under the discipline of success.

  `execute` and the approval flow only have their checkpoints to justify.  `recover` has three
  success exits: it returns proof that was stored before (`returnVerified`), it closes a lost
  acknowledgement from its own read-back (`completeFromRecoveryObservation`), and it reports what
  `verify` completed for it (`continueVerification`).  Each of them ends in verified truth of the
  run the request named.
-/
import CloudOpsAgent.Safety.Verification
import CloudOpsAgent.Flow.LocalStages
import CloudOpsAgent.Flow.ApprovalStages

namespace CloudOpsAgent

open ClientProg ClientProg.Prog Flow

variable [Sha256] {ι : Type} {isLocal : UUID → Bool} {i : ι} {w : World ι}

theorem Claimed.evolves {s s' : Store} (h : s.Evolves s') {r : UUID} (hc : Claimed s r) :
    Claimed s' r := by
  obtain ⟨k, record, p, hp, rfl, hrec⟩ := hc
  obtain ⟨q, hq, hpq⟩ := h.proposals _ p hp
  obtain ⟨record', hrec', -⟩ := h.idempotency _ record hrec
  exact ⟨k, record', q, hq, hpq.fields.2.1, by rwa [deriveIdempotencyKey_congr hpq]⟩

/-- A known proposal is one of an EC2 run. -/
theorem SuccessInv.cloud_of_known (hw : SuccessInv isLocal w) {p : ActionProposal}
    (hp : w.store.KnowsProposal p) : isLocal p.runId = false := by
  obtain ⟨q, hq, hpq⟩ := hp
  rw [← hpq.fields.2.1]
  exact hw.cloudProposal _ q hq

/-- On an EC2 run, a checkpoint without remediation proposal may be saved over any other. -/
theorem SuccessInv.save_allowed (hw : SuccessInv isLocal w) {c : Checkpoint}
    (hlocal : isLocal c.runId = false) (hc : c.remediationProposal = none) (expected : Option Nat) :
    successAllowed isLocal w (.store (.saveCheckpoint c expected)) := by
  have none_request {c : Checkpoint} (h : c.remediationProposal = none) :
      c.localApprovalRequest = none := by
    obtain ⟨-, -, -, -, h5⟩ := c.chain
    simpa [h] using h5
  exact ⟨fun _ => hc, fun _ => none_request hc, fun current hcur _ =>
    .of_request (none_request (hw.cloudCheckpoint _ current hcur hlocal)) _⟩

/-! ## `execute` -/

theorem StopSandboxInstanceCoordinator.execute_safe_success (proposalId : UUID) (w : World ι) :
    Safe (successDiscipline isLocal) i (execute proposalId) (fun _ _ => True) w := by
  refine safe_catching (safe_plain (issues_op.mpr rfl)) (fun found w1 _ _ _ => ?_) (fun _ _ _ => safe_plain trivial)
    fun _ _ _ _ => trivial
  rcases found with _ | proposal
  · exact safe_plain trivial
  refine safe_catching (safe_plain (issues_op.mpr rfl)) (fun found w2 _ _ _ => ?_) (fun _ _ _ => safe_plain trivial)
    fun _ _ _ _ => trivial
  rcases found with _ | existing
  · refine safe_try (safe_plain (claim_plain ..)) (fun c w3 _ _ _ => ?_)
      (fun e h _ _ _ _ he => safe_plain (claimHandler_plain he)) fun _ _ _ _ => trivial
    refine safe_try (R := fun _ _ => True) ?_
      (fun ack _ _ _ _ => safe_plain (recordAcknowledgement_plain ..)) (fun e h _ _ _ _ he => ?_)
      fun _ _ _ _ => trivial
    · exact .call (fun _ _ _ _ => trivial) fun x _ w' _ _ _ _ _ => safe_ofExcept fun _ _ _ => trivial
    · cases he
      exact safe_plain (persistExecutionFailure_plain ..)
  · exact safe_plain (reconcileExisting_plain ..)

/-! ## The approval flow -/

namespace DurableApprovalFlow

/-- **The approval flow tracks its checkpoint** under the discipline of success: proposals name EC2
    runs only. -/
def successTracking : Tracking (successDiscipline (ι := ι) isLocal) i where
  named r := isLocal r = false
  tracked _ c := isLocal c.runId = false
  grows _ h := h
  proposal hI h := SuccessInv.cloudProposal hI _ _ h
  loaded {w r c} _ hget hr := by
    rw [Table.key_of_get (t := w.store.checkpoints) hget]
    exact hr

/-- The flow writes no remediation proposal. -/
theorem request_safe (runtime : PrimaryAgentRuntime) (proposalId : UUID) (w : World ι) :
    Safe (successDiscipline isLocal) i (request runtime proposalId) (fun _ _ => True) w := by
  refine InterruptTracking.request_safe ⟨successTracking, fun hI hc h => ?_⟩ runtime proposalId w
  refine SuccessInv.save_allowed hI (h.runId ▸ hc) ?_ _
  obtain ⟨_, _, _, _, h⟩ := h
  rw [h, interruptFields]

theorem resume_safe (runtime : PrimaryAgentRuntime) (response : ApprovalResumeRequest)
    (w : World ι) :
    Safe (successDiscipline isLocal) i (resume runtime response) (fun _ _ => True) w := by
  refine DecisionTracking.resume_safe ⟨successTracking, fun hI hc h => ?_⟩ runtime response w
  refine SuccessInv.save_allowed hI (h.runId ▸ hc) ?_ _
  obtain ⟨_, _, h⟩ := h
  rw [h, decisionFields]

end DurableApprovalFlow

/-! ## Moving a run -/

theorem transition_safe {run : Run} {next expected : WorkflowState} {version : Nat} {t : Time}
    {approvalId verificationId : Option UUID}
    (h : ∀ w' : World ι, w.store.Evolves w'.store → successAllowed isLocal w' (.store
      (.transitionRun run.runId next expected version t approvalId verificationId))) :
    Safe (successDiscipline isLocal) i
      (Flow.op (.transitionRun run.runId next expected version t approvalId verificationId))
      (fun o w' => Moved run o w' ∧ ∀ r, o = .ok r → r.state = next) w := by
  refine safe_op (fun w' hw _ => h w' hw.1.1) (fun r s w1 w2 _ _ ht h2 _ => ?_)
    fun _ _ _ _ => ⟨.error, fun _ hr => by cases hr⟩
  obtain ⟨hs, hid, hrun⟩ := Store.transitionRun_stored ht
  refine ⟨fun x hx => ?_, fun x hx => ?_⟩
  · cases hx
    exact ⟨h2.1.1.knowsRun (Store.knowsRun_of_get (k := run.runId) hrun), hid⟩
  · cases hx
    exact hs

/-! ## `recover` -/

namespace RecoveryCoordinator

/-- The post-condition of `recover`: a reported success is verified truth of the run reported. -/
def Post (o : Except PyExc (ControlResult RecoveryOutcome)) (w : World ι) : Prop :=
  ∀ r, o = .ok (.succeeded r) → r.finalState = .successWithEvidence →
    ∃ e, Verified w.store e ∧ e.runId = r.runId ∧ r.proposalId = some e.proposalId ∧
      r.verdict.evidenceHash = some e.evidenceHash ∧
      ∀ c, r.verdict.verification = some c → c.evidence = e

theorem Post.error {e : PyExc} {w : World ι} : Post (.error e) w := fun r hr => by cases hr

theorem auditedFailure_returns (run : Run) (proposal : Option ActionProposal)
    (failure : FailureDetail) (type : AuditEventType) :
    (auditedFailure run proposal failure type).Returns BoundedVerificationCoordinator.Failed :=
  returns_catching ⟨_, rfl⟩ fun _ => ⟨_, rfl⟩

theorem safe_fail (f : FailureDetail) :
    Safe (successDiscipline isLocal) i (.ret (.failed f)) Post w :=
  safe_ret fun _ _ _ r hr => by cases hr

theorem safe_failed {p : Flow (ControlResult RecoveryOutcome)} (hp : p.Issues Req.plain)
    (hr : p.Returns BoundedVerificationCoordinator.Failed) :
    Safe (successDiscipline isLocal) i p Post w :=
  safe_plain_returns hp hr (fun a _ ⟨f, hf⟩ r hr => by subst hf; cases hr) fun _ _ => Post.error

theorem auditedFailure_safe {run : Run} {proposal : Option ActionProposal}
    {failure : FailureDetail} {type : AuditEventType} :
    Safe (successDiscipline isLocal) i (auditedFailure run proposal failure type) Post w :=
  safe_failed (auditedFailure_plain ..) (auditedFailure_returns _ _ _ _)

/-- Marking the run, then a flow that can only fail. -/
theorem marked_safe {p : Flow (ControlResult RecoveryOutcome)} (run : Run)
    (hp : p.Issues Req.plain) (hr : p.Returns BoundedVerificationCoordinator.Failed) :
    Safe (successDiscipline isLocal) i (markRecoveryRequired run >>= fun _ => p) Post w :=
  safe_failed ((markRecoveryRequired_plain run).bind fun _ => hp) (returns_bind _ fun _ => hr)

/-- An outcome reports what it was built from. -/
theorem outcome_returns (run : Run) (proposal : Option ActionProposal) (verdict : RecoveryVerdict)
    (type : AuditEventType) : (outcome run proposal verdict type).Returns fun o =>
      ∀ r, o = .succeeded r → r.runId = run.runId ∧ r.proposalId = proposal.map (·.proposalId) ∧
        r.finalState = verdict.finalState.getD run.state ∧ r.verdict = verdict := by
  refine returns_bind _ fun eventId => returns_catching (fun r hr => by cases hr) fun _ => ?_
  split
  · intro r hr
    cases hr
    exact ⟨rfl, rfl, rfl, rfl⟩
  · trivial

/-- An outcome is safe where the success it reports, if any, is verified truth already. -/
theorem outcome_safe {run : Run} {proposal : Option ActionProposal} {verdict : RecoveryVerdict}
    {type : AuditEventType}
    (h : verdict.finalState.getD run.state = .successWithEvidence → ∃ e, Verified w.store e ∧
      e.runId = run.runId ∧ proposal.map (·.proposalId) = some e.proposalId ∧
      verdict.evidenceHash = some e.evidenceHash ∧
      ∀ c, verdict.verification = some c → c.evidence = e) :
    Safe (successDiscipline isLocal) i (outcome run proposal verdict type) Post w := by
  refine (Safe.returns (outcome_returns run proposal verdict type)
    (safe_plain (outcome_plain ..))).evolved.mono fun o w' _ ⟨hw, hr, _⟩ r hor hs => ?_
  obtain ⟨h1, h2, h3, h4⟩ := hr _ hor r rfl
  obtain ⟨e, he, k1, k2, k3, k4⟩ := h (h3 ▸ hs)
  exact ⟨e, he.evolves hw.1.1, k1.trans h1.symm, h2.trans k2, h4 ▸ k3, h4 ▸ k4⟩

/-- An outcome that reports no success is safe anywhere. -/
theorem outcome_safe_of_ne {run : Run} {proposal : Option ActionProposal}
    {verdict : RecoveryVerdict} {type : AuditEventType}
    (h : verdict.finalState.getD run.state ≠ .successWithEvidence) :
    Safe (successDiscipline isLocal) i (outcome run proposal verdict type) Post w :=
  outcome_safe fun hs => absurd hs h

theorem operatorRequired_safe {run : Run} (h : run.state ≠ .successWithEvidence)
    {proposal : Option ActionProposal} {code message : String}
    {observed : Option Ec2InstanceState} :
    Safe (successDiscipline isLocal) i (operatorRequired run proposal code message observed) Post w :=
  outcome_safe_of_ne h

/-! ### The snapshot -/

/-- The records of a snapshot were read from the repository, and belong to its run where the
    snapshot has been validated. -/
structure SnapshotKnown (isLocal : UUID → Bool) (store : Store) (s : Snapshot) : Prop where
  run : store.KnowsRun s.run
  proposal : ∀ p, s.proposal = some p → store.KnowsProposal p ∧ isLocal p.runId = false
  checkpoint : ∀ c, s.checkpoint = some c → c.runId = s.run.runId
  idempotency : ∀ p record, s.proposal = some p → s.idempotency = some record →
    Claimed store p.runId
  evidence : ∀ p e, s.proposal = some p → s.evidence = some e →
    store.verificationEvidence.get (s.run.runId, p.proposalId) = some e

theorem SnapshotKnown.evolves {store store' : Store} (h : store.Evolves store') {s : Snapshot}
    (hs : SnapshotKnown isLocal store s) : SnapshotKnown isLocal store' s where
  run := h.knowsRun hs.run
  proposal p hp := ⟨h.knowsProposal (hs.proposal p hp).1, (hs.proposal p hp).2⟩
  checkpoint := hs.checkpoint
  idempotency p record hp hr := (hs.idempotency p record hp hr).evolves h
  evidence p e hp he := h.evidence (hs.evidence p e hp he)

/-- A lookup of the snapshot, by what it reads for the proposal. -/
theorem lookupFor_safe {α : Type} {proposal : Option ActionProposal}
    {read : ActionProposal → Flow (Option α)} {K : ActionProposal → α → World ι → Prop}
    (h : ∀ p, proposal = some p → Safe (successDiscipline isLocal) i (read p)
      (fun o w' => ∀ x, o = .ok (some x) → K p x w') w) :
    Safe (successDiscipline isLocal) i (lookupFor proposal read)
      (fun o w' => ∀ p x, proposal = some p → o = .ok (some x) → K p x w') w := by
  cases proposal with
  | none => exact safe_ret fun _ _ _ p x hp => by cases hp
  | some p =>
    refine (h p rfl).mono fun o w' _ hK p' x hp hx => ?_
    cases hp
    exact hK x hx

theorem readRecords_safe (request : RecoveryRequest) {run : Run} (hr : w.store.KnowsRun run) :
    Safe (successDiscipline isLocal) i (readRecords request run)
      (fun o w' => ∀ s, o = .ok s → SnapshotKnown isLocal w'.store s ∧ s.run = run) w := by
  have raised {e : PyExc} {w : World ι} : ∀ s, (.error e : Except PyExc Snapshot) = .ok s →
      SnapshotKnown isLocal w.store s ∧ s.run = run := fun s hs => by cases hs
  refine .bind (R := fun o w' => ∀ p, o = .ok (some p) →
      w'.store.KnowsProposal p ∧ isLocal p.runId = false) ?_ (fun proposal w1 h1 _ hp => ?_)
    fun _ _ _ _ _ => raised
  · unfold requestedProposal
    split
    · exact safe_ret fun _ _ _ p hp => by cases hp
    · refine safe_op (fun _ _ _ => trivial) (fun v s w1 w2 _ _ hv h2 hI p hp => ?_)
        fun _ _ _ _ p hp => by cases hp
      cases hv
      injection hp with hp
      have hknown := h2.1.1.knowsProposal (Store.knowsProposal_of_get (s := w1.store) hp)
      exact ⟨hknown, hI.cloud_of_known hknown⟩
  refine safe_read_bind (o := .getCheckpoint run.runId) (·.checkpoints.get run.runId) (fun _ => rfl)
    rfl (fun w2 h2 _ => ?_) fun _ _ _ _ => raised
  refine .bind (lookupFor_safe (K := fun _ _ _ => True) fun p _ =>
    (safe_plain (issues_op (o := .getApproval p.proposalId).mpr rfl)).mono fun _ _ _ _ _ _ => trivial)
    (fun approval w3 h3 _ _ => ?_) fun _ _ _ _ _ => raised
  refine .bind (lookupFor_safe (K := fun p _ w' => Claimed w'.store p.runId) fun p hpp => ?_)
    (fun record w4 h4 _ hrec => ?_) fun _ _ _ _ _ => raised
  · refine safe_op (fun _ _ _ => trivial) (fun v s w4 w5 h4 _ hv h5 _ x hx => ?_)
      fun _ _ _ _ x hx => by cases hx
    cases hv
    injection hx with hx
    obtain ⟨q, hq, hpq⟩ := ((h2.trans h3).trans h4).1.1.knowsProposal (hp p (by rw [hpp])).1
    exact Claimed.evolves h5.1.1 (s := w4.store) ⟨_, x, q, hq, hpq.fields.2.1,
      by rwa [deriveIdempotencyKey_congr hpq]⟩
  refine .bind (lookupFor_safe (K := fun p e w' =>
    w'.store.verificationEvidence.get (run.runId, p.proposalId) = some e) fun p _ => ?_)
    (fun evidence w5 h5 _ hev => ?_) fun _ _ _ _ _ => raised
  · refine safe_op (fun _ _ _ => trivial) (fun v s w5 w6 _ _ hv h6 _ x hx => ?_)
      fun _ _ _ _ x hx => by cases hx
    cases hv
    injection hx with hx
    exact h6.1.1.evidence hx
  refine safe_ret fun w6 h6 _ s hs => ?_
  cases hs
  have h26 := (((h2.trans h3).trans h4).trans h5).trans h6
  refine ⟨⟨(h1.trans h26).1.1.knowsRun hr, fun p hpp => ?_, fun c hc => Table.key_of_get (t := w2.store.checkpoints) hc,
    fun p r hpp hrr => ?_, fun p e hpp hee => ?_⟩, rfl⟩
  · dsimp only at hpp
    obtain ⟨hk, hl⟩ := hp p (by rw [hpp])
    exact ⟨h26.1.1.knowsProposal hk, hl⟩
  · dsimp only at hpp hrr
    exact (hrec p r hpp (by rw [hrr])).evolves (h5.trans h6).1.1
  · dsimp only at hpp hee
    exact h6.1.1.evidence (hev p e hpp (by rw [hee]))

theorem readSnapshot_safe (request : RecoveryRequest) (w : World ι) :
    Safe (successDiscipline isLocal) i (readSnapshot request)
      (fun o w' => ∀ s, o = .ok (some s) → SnapshotKnown isLocal w'.store s) w := by
  refine safe_read_bind (o := .getRun request.runId) (·.runs.get request.runId) (fun _ => rfl) rfl
    (fun w1 _ _ => ?_) fun _ _ _ _ s hs => by cases hs
  cases hr : w1.store.runs.get request.runId with
  | none => exact safe_ret fun _ _ _ s hs => by cases hs
  | some run =>
    refine .bind (readRecords_safe request (Store.knowsRun_of_get hr))
      (fun s w2 _ _ hs => ?_) fun _ _ _ _ _ s hs => by cases hs
    refine safe_ret fun w3 h3 _ s' hs' => ?_
    cases hs'
    exact (hs s rfl).1.evolves h3.1.1

/-- A snapshot that is not refused has its proposal in its run. -/
theorem validateSnapshot_none {request : RecoveryRequest} {s : Snapshot}
    (h : validateSnapshot request s = .ok none) {p : ActionProposal} (hp : s.proposal = some p) :
    p.runId = s.run.runId := by
  unfold validateSnapshot at h
  split at h
  · cases h
  split at h
  · cases h
  · rename_i hmatch
    simp only [hp, Option.any_some, Bool.or_eq_true, bne_iff_ne, not_or, not_not] at hmatch
    exact hmatch.1

/-! ### The lease -/

theorem claimActiveRecovery_safe (cfg : RecoveryConfig) {run : Run} (proposal : ActionProposal)
    {checkpoint : Option Checkpoint} (hc : ∀ c, checkpoint = some c → isLocal c.runId = false) :
    Safe (successDiscipline isLocal) i (claimActiveRecovery cfg run proposal checkpoint)
      (fun _ _ => True) w := by
  rcases checkpoint with _ | checkpoint
  · exact safe_plain trivial
  refine safe_clock_bind fun now => ?_
  cases leaseFailure checkpoint now with
  | some failure => exact safe_plain trivial
  | none =>
    refine safe_freshId_bind fun claimId => ?_
    split
    · exact safe_raise fun _ _ _ => trivial
    refine .bind (R := fun o _ => ∀ c, o = .ok c →
        c.runId = checkpoint.runId ∧ c.remediationProposal = none)
      (safe_ofExcept fun _ _ _ c h => ?_) (fun claimed w1 _ _ hclaimed => ?_) fun _ _ _ _ _ => trivial
    · have hfields := Checkpoint.validate_ok h
      exact ⟨by rw [hfields, claimFields], by rw [hfields, claimFields]⟩
    · obtain ⟨hid, hnone⟩ := hclaimed claimed rfl
      have hlocal : isLocal claimed.runId = false := hid ▸ hc checkpoint rfl
      refine safe_try (R := fun _ _ => True) (safe_op (fun w' _ hw => hw.save_allowed hlocal hnone _)
        (fun _ _ _ _ _ _ _ _ _ => trivial) fun _ _ _ _ => trivial)
        (fun _ _ _ _ _ => safe_plain trivial) (fun e h _ _ _ _ he => ?_) fun _ _ _ _ => trivial
      unfold claimHandler at he
      split at he <;> cases he <;> exact safe_plain trivial

/-! ### Stored proof -/

theorem closeVerified_safe {run : Run} (hr : w.store.KnowsRun run)
    (hc : Claimed w.store run.runId) (proposal : ActionProposal) :
    Safe (successDiscipline isLocal) i (closeVerified run proposal) (Moved run) w := by
  refine .bind (R := Moved run) ?_ (fun r w1 h1 _ hm => ?_) fun _ _ _ _ _ => .error
  · unfold reenterVerifying
    split
    · refine safe_clock_bind fun t => (transition_safe fun w' hw => ?_).mono fun _ _ _ h => h.1
      exact hc.evolves hw
    · refine safe_ret fun w1 h1 _ r h => ?_
      cases h
      exact ⟨h1.1.1.knowsRun hr, rfl⟩
  · obtain ⟨hr1, hid⟩ := hm r rfl
    unfold enterSuccess
    split
    · refine safe_clock_bind fun t => (transition_safe fun w' _ => ?_).mono fun _ _ _ h x hx => ?_
      · trivial
      · obtain ⟨hk, hx⟩ := h.1 x hx
        exact ⟨hk, hx.trans hid⟩
    · refine safe_ret fun w2 h2 _ x h => ?_
      cases h
      exact ⟨h2.1.1.knowsRun hr1, hid⟩

theorem returnVerified_safe {s : Snapshot} (hs : SnapshotKnown isLocal w.store s)
    (hrun : ∀ p, s.proposal = some p → p.runId = s.run.runId) :
    Safe (successDiscipline isLocal) i (returnVerified s) Post w := by
  unfold returnVerified
  split
  · rename_i proposal evidence record hp he hrec
    split
    · exact auditedFailure_safe
    refine safe_catching (closeVerified_safe hs.run (hrun _ hp ▸ hs.idempotency _ _ hp hrec) _)
      (fun r w1 h1 _ hm => ?_) (fun _ _ _ => auditedFailure_safe) fun _ _ _ _ => Post.error
    obtain ⟨hr, hid⟩ := hm r rfl
    split
    · rename_i hne
      exact operatorRequired_safe hne
    · rename_i hst
      have hev := hs.evidence _ _ hp he
      have hkey := Table.key_of_get hev
      simp only [Prod.mk.injEq] at hkey
      refine outcome_safe fun _ => ⟨evidence, Verified.of_get hr (not_not.mp hst)
        proposal.proposalId ?_, hkey.1, ?_, rfl, fun c hc => by cases hc⟩
      · rw [hid]
        exact h1.1.1.evidence hev
      · rw [hp, Option.map_some, hkey.2]
  · exact auditedFailure_safe

/-! ### Closing a lost acknowledgement -/

/-- Entering `VERIFYING`: out of success only if it was there before. -/
theorem enterVerifying_safe {run : Run} (hr : w.store.KnowsRun run)
    (hc : Claimed w.store run.runId) (hs : run.state ≠ .successWithEvidence) :
    Safe (successDiscipline isLocal) i (enterVerifying run)
      (fun o w' => Moved run o w' ∧ ∀ r, o = .ok r → r.state ≠ .successWithEvidence) w := by
  unfold enterVerifying
  split
  · rename_i hst
    refine safe_clock_bind fun t => (transition_safe fun w' hw => ?_).mono fun _ _ _ h => ?_
    · obtain hst | hst := hst <;> rw [hst]
      · trivial
      · exact hc.evolves hw
    · exact ⟨h.1, fun r hr => by rw [h.2 r hr]; decide⟩
  · refine safe_ret fun w1 h1 _ => ⟨fun r h => ?_, fun r h => ?_⟩
    · cases h
      exact ⟨h1.1.1.knowsRun hr, rfl⟩
    · cases h
      exact hs

theorem completeBody_safe {proposal : ActionProposal} {original run : Run}
    (hp : w.store.KnowsProposal proposal) (hr : w.store.KnowsRun original)
    (hrun : proposal.runId = original.runId) (hid : run.runId = original.runId)
    {o : VerificationObservation}
    (hback : ReadBack w.log proposal (.fromRun original) o.observationHash)
    (haud : Audited w.store original.runId o.observationHash) :
    Safe (successDiscipline isLocal) i (completeBody proposal o run) (fun x w' => ∀ e r,
      x = .ok (e, r) → Verified w'.store e ∧ e.proposalId = proposal.proposalId ∧
        e.runId = original.runId) w := by
  have raised {e : PyExc} {w : World ι} : ∀ e' r, (.error e : Except PyExc (VerificationEvidence × Run)) =
      .ok (e', r) → Verified w.store e' ∧ e'.proposalId = proposal.proposalId ∧
        e'.runId = original.runId := fun _ _ h => by cases h
  refine safe_freshId_bind fun evidenceId => safe_clock_bind fun verifiedAt => ?_
  refine .bind (R := fun o' w' => o' = VerificationEvidence.createFromRecovery evidenceId proposal
    run verifiedAt o.observationHash) (safe_ofExcept fun _ _ _ => rfl)
    (fun evidence w1 h1 _ he => ?_) fun _ _ _ _ _ => raised
  obtain ⟨k1, k2, -, -, -, k4, k5, -⟩ := VerificationEvidence.createFromRecovery_ok he.symm
  rw [← k5] at hback haud
  refine safe_op_bind (fun w' hw _ => ?_) (fun x s w2 _ _ hx hw2 _ => ?_) fun _ _ _ _ => raised
  · have hw := h1.trans hw
    exact Backed.of_known (hw.1.1.knowsProposal hp) (hw.1.1.knowsRun hr) hrun k1 (k2.trans hid) k4
      (hback.mono hw.1.2) (haud.evolves hw.1.1)
  obtain ⟨hxe, hget⟩ := Store.createVerificationEvidence_stored hx
  obtain rfl : evidence = x := hxe.symm
  refine safe_clock_bind fun completedAt => ?_
  refine safe_op_bind (fun w' _ _ => trivial) (fun record s3 w3 _ _ _ hw3 _ => ?_)
    fun _ _ _ _ => raised
  refine .bind (safe_plain (appendEvent_plain ..)) (fun _ w4 hw4 _ _ => ?_)
    fun _ _ _ _ _ => raised
  refine safe_clock_bind fun updatedAt => ?_
  refine safe_op_bind (fun w' _ _ => trivial) (fun run' s5 w5 hw5 _ ht _ _ => ?_)
    fun _ _ _ _ => raised
  obtain ⟨hs, -, hrun'⟩ := Store.transitionRun_stored ht
  refine safe_ret fun w6 hw6 _ e r h => ?_
  cases h
  refine ⟨Verified.evolves hw6.1.1 ⟨?_, run', k2 ▸ hrun', hs⟩, k1, k2.trans hid⟩
  exact (Op.evolves ht).evidence (hw5.1.1.evidence (hw4.1.1.evidence (hw3.1.1.evidence hget)))

theorem completeFailed_safe (s : Snapshot) (run : Run) :
    Safe (successDiscipline isLocal) i (completeFailed s run) Post w :=
  marked_safe _ (auditedFailure_plain ..) (auditedFailure_returns _ _ _ _)

/-- A read-back that found the target stopped, and was audited, closes the run. -/
theorem completeFromRecoveryObservation_safe {s : Snapshot} {proposal : ActionProposal}
    (hs : SnapshotKnown isLocal w.store s) (hp : s.proposal = some proposal)
    (hrun : proposal.runId = s.run.runId) (hc : Claimed w.store s.run.runId)
    (hst : s.run.state ≠ .successWithEvidence) {o : VerificationObservation}
    (hback : ReadBack w.log proposal (.fromRun s.run) o.observationHash)
    (haud : Audited w.store s.run.runId o.observationHash) :
    Safe (successDiscipline isLocal) i (completeFromRecoveryObservation s proposal o) Post w := by
  refine safe_catching (enterVerifying_safe hs.run hc hst) (fun run w1 h1 _ hm => ?_)
    (fun _ _ _ => completeFailed_safe ..) fun _ _ _ _ => Post.error
  obtain ⟨-, hid⟩ := hm.1 run rfl
  refine safe_catching (completeBody_safe (h1.1.1.knowsProposal (hs.proposal _ hp).1)
    (h1.1.1.knowsRun hs.run) hrun hid (hback.mono h1.1.2) (haud.evolves h1.1.1))
    (fun x w2 h2 _ hx => ?_) (fun _ _ _ => completeFailed_safe ..) fun _ _ _ _ => Post.error
  obtain ⟨evidence, r⟩ := x
  obtain ⟨hv, k1, k2⟩ := hx evidence r rfl
  exact outcome_safe fun _ => ⟨evidence, hv, k2, by rw [hp, Option.map_some, k1], rfl,
    fun c hc => by cases hc⟩

/-! ### The read-back loop -/

theorem appendObservationEvent_safe (run : Run) (proposal : ActionProposal)
    (o : VerificationObservation) :
    Safe (successDiscipline isLocal) i (appendObservationEvent run proposal o)
      (fun x w' => x = .ok none → Audited w'.store run.runId o.observationHash) w := by
  refine safe_catching (R := fun x w' => x = .ok () → Audited w'.store run.runId o.observationHash)
    ?_ (fun _ w1 _ _ h => ?_) (fun _ _ _ => safe_ret fun _ _ _ h => by cases h)
    fun _ _ _ _ h => by cases h
  · refine safe_freshId_bind fun eventId => safe_clock_bind fun timestamp => ?_
    refine safe_op_bind (fun _ _ _ => trivial) (fun e s w' _ _ he _ _ => ?_)
      fun _ _ _ _ hx => by cases hx
    exact safe_ret fun w'' hw'' _ _ => (Audited.of_append he (.inr rfl)).evolves hw''.1.1
  · exact safe_ret fun w2 h2 _ _ => (h rfl).evolves h2.1.1

/-- After marking the run, an outcome that reports no success. -/
theorem marked_operatorRequired_safe {run : Run} (h : run.state ≠ .successWithEvidence)
    {proposal : Option ActionProposal} {code message : String}
    {observed : Option Ec2InstanceState} :
    Safe (successDiscipline isLocal) i (markRecoveryRequired run >>= fun _ =>
      operatorRequired run proposal code message observed) Post w :=
  .bind (safe_plain (markRecoveryRequired_plain run)) (fun _ _ _ _ _ => operatorRequired_safe h)
    fun _ _ _ _ _ => Post.error

theorem readBackLoop_safe (cfg : RecoveryConfig) (target : SandboxTarget) {s : Snapshot}
    {proposal : ActionProposal} (hp : s.proposal = some proposal)
    (hrun : proposal.runId = s.run.runId) (hst : s.run.state ≠ .successWithEvidence)
    (left : Nat) : ∀ (attempt : Nat) (last : Option Ec2InstanceState) {w : World ι},
      SnapshotKnown isLocal w.store s → Claimed w.store s.run.runId →
      Safe (successDiscipline isLocal) i (readBackLoop cfg target s proposal left attempt last)
        Post w := by
  induction left with
  | zero => exact fun _ _ _ _ _ => marked_operatorRequired_safe hst
  | succ left ih =>
    intro attempt last w hs hc
    refine safe_clock_bind fun observedAt => ?_
    refine .bind (observe_safe ..) (fun answer w1 h1 _ hback => ?_) fun _ _ _ _ _ => Post.error
    cases answer with
    | failed failure =>
      exact marked_safe _ (auditedFailure_plain ..) (auditedFailure_returns _ _ _ _)
    | succeeded o =>
      refine .bind (appendObservationEvent_safe _ _ _) (fun answer w2 h12 _ haud => ?_)
        fun _ _ _ _ _ => Post.error
      have h2 := h1.trans h12
      cases answer with
      | some failure => exact marked_safe _ trivial ⟨_, rfl⟩
      | none =>
        dsimp only
        split
        · rename_i hstopped
          exact completeFromRecoveryObservation_safe (hs.evolves h2.1.1) hp hrun
            (hc.evolves h2.1.1) hst ((hback o rfl hstopped).mono h12.1.2) (haud rfl)
        · exact marked_operatorRequired_safe hst
        · split
          · refine .bind (safe_sleep (Q := fun _ _ => True) fun _ _ _ => trivial)
              (fun _ w3 h3 _ _ => ?_) fun _ _ _ _ _ => Post.error
            exact ih _ _ (hs.evolves (h2.trans h3).1.1) (hc.evolves (h2.trans h3).1.1)
          · exact ih _ _ (hs.evolves h2.1.1) (hc.evolves h2.1.1)
        · exact marked_operatorRequired_safe hst

/-! ### The collaborators -/

/-- The collaborators of a coordinator keep the discipline, and its verification reconciler
    completes with verified truth. -/
structure ConfigSafe (ι : Type) (isLocal : UUID → Bool) (cfg : RecoveryConfig) : Prop where
  reconciler : ∀ reconcile, cfg.verificationReconciler = some reconcile →
    ∀ (i : ι) (proposalId : UUID) (w : World ι), Safe (successDiscipline isLocal) i
      (reconcile proposalId) (BoundedVerificationCoordinator.Post proposalId) w
  reconstructor : ∀ reconstruct, cfg.approvalReconstructor = some reconstruct →
    ∀ (i : ι) (proposalId : UUID) (w : World ι), Safe (successDiscipline isLocal) i
      (reconstruct proposalId) (fun _ _ => True) w

theorem configSafe_setup (setup : RecoverySetup) : ConfigSafe ι isLocal setup.config where
  reconciler reconcile h i proposalId w := by
    obtain ⟨c, -, rfl⟩ := Option.map_eq_some_iff.mp h
    exact BoundedVerificationCoordinator.verify_safe _ _ proposalId w
  reconstructor reconstruct h i proposalId w := by
    obtain ⟨runtime, -, rfl⟩ := Option.map_eq_some_iff.mp h
    exact DurableApprovalFlow.request_safe runtime proposalId w

variable {cfg : RecoveryConfig}

/-- Verified evidence of a known proposal belongs to the proposal's run. -/
theorem Verified.runId_eq (hI : SuccessInv isLocal w) {e : VerificationEvidence}
    (he : Verified w.store e) {proposal : ActionProposal} (hp : w.store.KnowsProposal proposal)
    (hid : e.proposalId = proposal.proposalId) : e.runId = proposal.runId := by
  obtain ⟨p, run, hget, hrun, -⟩ := hI.backed _ _ he.1
  obtain ⟨q, hq, hpq⟩ := hp
  rw [hid, hq] at hget
  cases hget
  exact hrun.symm.trans hpq.fields.2.1

theorem continueVerification_safe (hcfg : ConfigSafe ι isLocal cfg) {s : Snapshot}
    {proposal : ActionProposal} (hp : s.proposal = some proposal)
    (hk : w.store.KnowsProposal proposal) (hrun : proposal.runId = s.run.runId) {run : Run}
    (hst : run.state ≠ .successWithEvidence) (unavailable reasonCode reason : String) :
    Safe (successDiscipline isLocal) i
      (continueVerification cfg s run proposal unavailable reasonCode reason) Post w := by
  unfold continueVerification
  split
  · exact operatorRequired_safe hst
  · rename_i reconcile hrec
    refine .bind (hcfg.reconciler _ hrec i _ w) (fun answer w1 h1 hI hpost => ?_)
      fun _ _ _ _ _ => Post.error
    cases answer with
    | failed failure => exact auditedFailure_safe
    | succeeded completion =>
      obtain ⟨hv, hid⟩ := hpost completion rfl
      refine outcome_safe fun _ => ⟨completion.evidence, hv, ?_, ?_, rfl, fun c hc => ?_⟩
      · exact (Verified.runId_eq hI hv (h1.1.1.knowsProposal hk) hid).trans hrun
      · rw [hp, Option.map_some, hid]
      · cases hc
        rfl

/-! ### The dispatch -/

/-- A snapshot that `recover` may act on. -/
structure SnapshotValid (isLocal : UUID → Bool) (store : Store) (s : Snapshot)
    (p : ActionProposal) : Prop where
  known : SnapshotKnown isLocal store s
  proposal : s.proposal = some p
  run : p.runId = s.run.runId

theorem SnapshotValid.evolves {store store' : Store} (h : store.Evolves store') {s : Snapshot}
    {proposal : ActionProposal} (hs : SnapshotValid isLocal store s proposal) :
    SnapshotValid isLocal store' s proposal := ⟨hs.known.evolves h, hs.proposal, hs.run⟩

theorem SnapshotValid.claimed {store : Store} {s : Snapshot} {proposal : ActionProposal}
    (hs : SnapshotValid isLocal store s proposal) {record : IdempotencyRecord}
    (hr : s.idempotency = some record) : Claimed store s.run.runId :=
  hs.run ▸ hs.known.idempotency _ _ hs.proposal hr

theorem SnapshotValid.cloudCheckpoint {store : Store} {s : Snapshot} {proposal : ActionProposal}
    (hs : SnapshotValid isLocal store s proposal) (c : Checkpoint) (hc : s.checkpoint = some c) :
    isLocal c.runId = false := by
  rw [hs.known.checkpoint c hc, ← hs.run]
  exact (hs.known.proposal _ hs.proposal).2

theorem resumeFromDurableAck_safe (hcfg : ConfigSafe ι isLocal cfg) {s : Snapshot}
    {proposal : ActionProposal} (hs : SnapshotValid isLocal w.store s proposal)
    (hc : Claimed w.store s.run.runId) (hst : s.run.state ≠ .successWithEvidence) :
    Safe (successDiscipline isLocal) i (resumeFromDurableAck cfg s proposal) Post w := by
  refine safe_catching (enterVerifying_safe hs.known.run hc hst) (fun run w1 h1 _ hm => ?_)
    (fun _ _ _ => auditedFailure_safe) fun _ _ _ _ => Post.error
  exact continueVerification_safe hcfg hs.proposal
    (h1.1.1.knowsProposal (hs.known.proposal _ hs.proposal).1) hs.run (hm.2 run rfl) _ _ _

theorem reconcileMissingAck_safe {s : Snapshot} {proposal : ActionProposal}
    (hs : SnapshotValid isLocal w.store s proposal) (hc : Claimed w.store s.run.runId)
    (hst : s.run.state ≠ .successWithEvidence) :
    Safe (successDiscipline isLocal) i (reconcileMissingAck cfg s proposal) Post w := by
  unfold reconcileMissingAck
  split
  · exact operatorRequired_safe hst
  · exact readBackLoop_safe _ _ hs.proposal hs.run hst _ _ _ hs.known hc

theorem recoverAwaitingApproval_safe (hcfg : ConfigSafe ι isLocal cfg) {s : Snapshot}
    (hst : s.run.state ≠ .successWithEvidence) (proposal : ActionProposal) :
    Safe (successDiscipline isLocal) i (recoverAwaitingApproval cfg s proposal) Post w := by
  unfold recoverAwaitingApproval
  split
  · exact auditedFailure_safe
  split
  · exact auditedFailure_safe
  split
  · exact operatorRequired_safe hst
  · rename_i reconstruct hrec
    refine .bind (hcfg.reconstructor _ hrec i _ w) (fun answer w1 _ _ _ => ?_)
      fun _ _ _ _ _ => Post.error
    cases answer with
    | failed failure => exact auditedFailure_safe
    | succeeded interrupt => exact outcome_safe_of_ne hst

theorem recoverApproved_safe {s : Snapshot} (hst : s.run.state ≠ .successWithEvidence)
    (proposal : ActionProposal) :
    Safe (successDiscipline isLocal) i (recoverApproved s proposal) Post w := by
  unfold recoverApproved
  split
  · exact auditedFailure_safe
  split
  · exact outcome_safe_of_ne hst
  · exact operatorRequired_safe hst

theorem recoverExecution_safe (hcfg : ConfigSafe ι isLocal cfg) {s : Snapshot}
    {proposal : ActionProposal} (hs : SnapshotValid isLocal w.store s proposal)
    (hst : s.run.state ≠ .successWithEvidence) :
    Safe (successDiscipline isLocal) i (recoverExecution cfg s proposal) Post w := by
  unfold recoverExecution
  split
  · exact auditedFailure_safe
  split
  · exact operatorRequired_safe hst
  rename_i record hrec
  split
  · exact returnVerified_safe hs.known fun p hp => by
      rw [hs.proposal] at hp
      cases hp
      exact hs.run
  split
  · exact operatorRequired_safe hst
  refine .bind (claimActiveRecovery_safe cfg proposal hs.cloudCheckpoint)
    (fun answer w1 h1 _ _ => ?_) fun _ _ _ _ _ => Post.error
  cases answer with
  | failed failure => exact auditedFailure_safe
  | succeeded checkpoint =>
    have hc := (hs.claimed hrec).evolves h1.1.1
    dsimp only
    split
    · exact resumeFromDurableAck_safe hcfg (hs.evolves h1.1.1) hc hst
    · exact reconcileMissingAck_safe (hs.evolves h1.1.1) hc hst

theorem recoverVerification_safe (hcfg : ConfigSafe ι isLocal cfg) {s : Snapshot}
    {proposal : ActionProposal} (hs : SnapshotValid isLocal w.store s proposal)
    (hst : s.run.state ≠ .successWithEvidence) :
    Safe (successDiscipline isLocal) i (recoverVerification cfg s proposal) Post w := by
  unfold recoverVerification
  split
  · exact operatorRequired_safe hst
  split
  · exact returnVerified_safe hs.known fun p hp => by
      rw [hs.proposal] at hp
      cases hp
      exact hs.run
  refine .bind (claimActiveRecovery_safe cfg proposal hs.cloudCheckpoint)
    (fun answer w1 h1 _ _ => ?_) fun _ _ _ _ _ => Post.error
  cases answer with
  | failed failure => exact auditedFailure_safe
  | succeeded checkpoint =>
    exact continueVerification_safe hcfg hs.proposal
      (h1.1.1.knowsProposal (hs.known.proposal _ hs.proposal).1) hs.run hst _ _ _

theorem recoverProposal_safe (hcfg : ConfigSafe ι isLocal cfg) {s : Snapshot}
    {proposal : ActionProposal} (hs : SnapshotValid isLocal w.store s proposal) :
    Safe (successDiscipline isLocal) i (recoverProposal cfg s proposal) Post w := by
  unfold recoverProposal
  cases hst : s.run.state with
  | remediationProposed => exact outcome_safe_of_ne (by simp [hst])
  | awaitingApproval => exact recoverAwaitingApproval_safe hcfg (by simp [hst]) _
  | approved => exact recoverApproved_safe (by simp [hst]) _
  | executing => exact recoverExecution_safe hcfg hs (by simp [hst])
  | recoveryRequired => exact recoverExecution_safe hcfg hs (by simp [hst])
  | verifying => exact recoverVerification_safe hcfg hs (by simp [hst])
  | successWithEvidence =>
    exact returnVerified_safe hs.known fun p hp => by
      rw [hs.proposal] at hp
      cases hp
      exact hs.run
  | _ => exact outcome_safe_of_ne (by simp [hst])

/-- **`recover` keeps the discipline**, and a success it reports is verified truth. -/
theorem recover_safe (hcfg : ConfigSafe ι isLocal cfg) (request : RecoveryRequest) (w : World ι) :
    Safe (successDiscipline isLocal) i (recover cfg request) Post w := by
  refine safe_catching (readSnapshot_safe request w) (fun found w1 _ _ hs => ?_)
    (fun _ _ _ => safe_fail _) fun _ _ _ _ => Post.error
  rcases found with _ | s
  · exact safe_fail _
  have hs := hs s rfl
  refine .bind (R := fun o _ => o = validateSnapshot request s) (safe_ofExcept fun _ _ _ => rfl)
    (fun refused w2 h2 _ hv => ?_) fun _ _ _ _ _ => Post.error
  rcases refused with _ | failure
  · dsimp only [recoverSnapshot]
    split
    · rename_i hopt
      refine outcome_safe_of_ne fun h => ?_
      dsimp only [Option.getD_none] at h
      rw [h] at hopt
      cases hopt
    split
    · exact safe_raise fun _ _ _ => Post.error
    · rename_i proposal hp
      exact recoverProposal_safe hcfg ⟨hs.evolves h2.1.1, hp, validateSnapshot_none hv.symm hp⟩
  · exact auditedFailure_safe

end RecoveryCoordinator

end CloudOpsAgent
