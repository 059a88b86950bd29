/-
  What a fault-free `recover` makes of a stop run whose target stays stopped.

  1. **`verify`** and **`completeFromRecoveryObservation`** without a fault: each closes the run, or
     finds evidence it cannot match and leaves the idempotency record as it was.

  2. **`recover`** — from a consistent picture, it closes the run exactly if the picture is
     `Recoverable`: the record is completed, or there is no evidence yet and recovery will look for
     it where the code looks (`VERIFYING` without an acknowledgement is a dead end).

  3. **One fault** — which faults inside the closing writes leave a recoverable picture.
-/
import CloudOpsAgent.Recovery.Closing

namespace CloudOpsAgent

open ClientProg ClientProg.Prog Environment

variable [Sha256] {ι : Type}

/-! ## The situation -/

/-- Every read-back shows the target stopped. -/
def Environment.Stopped (e : Environment) : Prop :=
  ∀ n, ∃ digest, e.inspections n = .succeeded ⟨.stopped, digest⟩

/-- The coordinator has a read-back service and a verification reconciler for the target. -/
def RecoverySetup.Covers (setup : RecoverySetup) (p : ActionProposal) : Prop :=
  (∃ target, setup.readback = some target ∧ target.Covers p.target) ∧
    ∃ settings target, setup.reconciler = some (settings, target) ∧ target.Covers p.target

/-- The checkpoint is the proposal's, and no lease on it is running from `t` on. -/
def Checkpoint.Free (c : Checkpoint) (p : ActionProposal) (t : Time) : Prop :=
  (∀ j, c.resumeMetadata.lookup "proposal_id" = some j → j = .null ∨ j = .str p.proposalId.str) ∧
    ∀ t', t ≤ t' → RecoveryCoordinator.leaseFailure c t' = none

namespace Picture

/-- What the flows maintain of an executed run: its acknowledgement is for the proposal, and either
    the action is unresolved and the run active, or it is completed with proof. -/
structure Consistent (p : ActionProposal) (x : Picture) : Prop where
  acknowledged : ∀ ack, x.record.executionAcknowledgement = some ack → ack.For p
  phase : x.record.status = .registered ∧ (x.run.state = .executing ∨ x.run.state = .verifying ∨
      x.run.state = .recoveryRequired) ∨
    x.Proved ∧ (x.run.state = .verifying ∨ x.run.state = .recoveryRequired ∨
      x.run.state = .successWithEvidence)

/-- Recovery can close the run. -/
def Recoverable (x : Picture) : Prop :=
  x.record.status = .completed ∨ x.evidence = none ∧
    (x.record.executionAcknowledgement.isSome ∨ x.run.state ≠ .verifying)

end Picture

variable {e : Environment} {p : ActionProposal} {m : List ι} {st : Solo ι} {x : Picture} {b n : Nat}
  {who : ι} {fault : Fault}

/-- How an attempt to close an unresolved action ended: `ok` says whether it could. -/
def Picture.Attempted (ok : Prop) (x x' : Picture) : Prop :=
  ok ∧ x'.Recovered ∨ ¬ok ∧ x'.record = x.record

/-! ## `verify` -/

namespace BoundedVerificationCoordinator

theorem wp_observe_bind {β : Type} {Q : Except PyExc β → Solo ι → Prop} (he : e.Stopped)
    (h : Stands e p m st x (b + 1)) {target : SandboxTarget} (hc : target.Covers p.target)
    {identity : InvestigationIdentity} {t : Time} {attempt : Nat}
    {f : ControlResult VerificationObservation → Flow β}
    (hf : ∀ o st', o.observedState = .stopped → Stands e p m st' x b →
      e.Wp who (f (.succeeded o)) Q st') :
    e.Wp who (VerifyInstanceStateService.observe target p identity t attempt >>= f) Q st := by
  obtain ⟨digest, hd⟩ := he st.tick
  unfold VerifyInstanceStateService.observe
  rw [if_pos hc, Prog.bind_assoc]
  refine wp_inspect_bind ?_
  simp only [hd]
  exact hf _ _ rfl h.inspected

theorem wp_lookup (h : Stands e p m st x (b + 3)) :
    e.Wp who (lookup p.proposalId) (fun o st' => o = .ok (.succeeded (p, x.run, some x.record)) ∧
      Stands e p m st' x b) st := by
  unfold lookup
  refine wp_read_bind h rfl h.getProposal fun st1 h1 => ?_
  refine wp_read_bind h1 rfl h1.getRun fun st2 h2 => ?_
  exact wp_read_bind h2 rfl h2.getIdempotency fun st3 h3 => wp_ret ⟨rfl, h3⟩

/-- A `VERIFYING` run with an unresolved action: `verify` closes it, unless the acknowledgement is
    missing or evidence is stored already. -/
theorem wp_verify (he : e.Stopped) (h : Stands e p m st x (b + 24))
    (hstate : x.run.state = .verifying) (hreg : x.record.status = .registered)
    (hfor : ∀ ack, x.record.executionAcknowledgement = some ack → ack.For p)
    {settings : VerificationSettings} {target : SandboxTarget} (hc : target.Covers p.target) :
    e.Wp who (verify settings target p.proposalId) (fun _ st' => ∃ x', Stands e p m st' x' b ∧
      x.Attempted (x.record.executionAcknowledgement.isSome ∧ x.evidence = none) x') st := by
  unfold verify
  refine wp_try (wp_lookup h) ?_ ?_
  · rintro a st1 ⟨ha, h1⟩
    cases ha
    dsimp only
    unfold verifyLoaded
    rw [if_neg (by rw [hstate]; decide)]
    dsimp only
    cases hack : x.record.executionAcknowledgement with
    | none => exact wp_ret ⟨x, h1.mono (by omega), .inr ⟨by simp, rfl⟩⟩
    | some ack =>
      have hid := h.run_id
      dsimp only
      rw [if_neg (by simp [hstate]), if_neg (by simp [hreg]), if_neg (by simp [hreg])]
      refine wp_try (wp_appendEvent h1 hid) ?_ ?_
      · rintro - st2 ⟨-, h2⟩
        obtain ⟨k, hk⟩ : ∃ k, settings.maxAttempts = k + 1 :=
          ⟨settings.maxAttempts - 1, by have := settings.attempts_ok; omega⟩
        rw [hk]
        unfold poll
        refine wp_clock_bind (wp_observe_bind he h2.next hc fun o st3 ho h3 => ?_)
        dsimp only
        refine wp_try (wp_appendEvent h3 hid) ?_ ?_
        · rintro - st4 ⟨-, h4⟩
          simp only [VerificationObservation.disposition, ho, Ec2InstanceState.disposition]
          cases hev : x.evidence with
          | none =>
            refine (wp_persistSuccess h4 hstate hreg hev hack (hfor ack hack) o).mono ?_
            rintro - st5 ⟨x', h5, hrec⟩
            exact ⟨x', h5, .inl ⟨⟨rfl, rfl⟩, hrec⟩⟩
          | some v =>
            refine (wp_persistSuccess_refused (b := b) (h4.mono (by omega)) hstate (by simp [hev])
              hack (hfor ack hack) o).mono ?_
            rintro - st5 ⟨x', h5, hrec⟩
            exact ⟨x', h5, .inr ⟨by simp, hrec⟩⟩
        · rintro y st4 ⟨hy, -⟩
          cases hy
      · rintro y st2 ⟨hy, -⟩
        cases hy
  · rintro y st1 ⟨hy, -⟩
    cases hy

end BoundedVerificationCoordinator

/-! ## `recover` -/

/-- What `recover` loads of a picture. -/
def Picture.snapshot (x : Picture) (p : ActionProposal) (a : Approval) : Snapshot :=
  ⟨x.run, some p, some a, some x.record, some x.checkpoint, x.evidence⟩

namespace RecoveryCoordinator

theorem wp_readSnapshot (h : Stands e p m st x (b + 6)) :
    e.Wp who (readSnapshot ⟨p.runId, some p.proposalId⟩) (fun o st' =>
      (∃ a : Approval, a.decision = .approved ∧ a.Binds p ∧ o = .ok (some (x.snapshot p a))) ∧
      Stands e p m st' x b) st := by
  unfold readSnapshot
  refine wp_read_bind h rfl h.getRun fun st1 h1 => ?_
  refine wp_bind (R := fun o st' => (∃ a : Approval, a.decision = .approved ∧ a.Binds p ∧
    o = .ok (x.snapshot p a)) ∧ Stands e p m st' x b) ?_ ?_ ?_
  · unfold readRecords requestedProposal
    refine wp_read_bind h1 rfl h1.getProposal fun st2 h2 => ?_
    refine wp_read_bind h2 rfl (h2.run_id ▸ h2.getCheckpoint) fun st3 h3 => ?_
    obtain ⟨a, ha, hdecision, hbinds⟩ := h3.approval
    refine wp_read_bind (v := some a) h3 rfl (congrArg (fun v => Except.ok (v, st3.world.store)) ha)
      fun st4 h4 => ?_
    refine wp_read_bind h4 rfl h4.getIdempotency fun st5 h5 => ?_
    refine wp_read_bind h5 rfl (h5.run_id ▸ h5.getVerificationEvidence) fun st6 h6 => ?_
    exact wp_ret ⟨⟨a, hdecision, hbinds, rfl⟩, h6⟩
  · rintro s st2 ⟨⟨a, hdecision, hbinds, ha⟩, h2⟩
    cases ha
    exact wp_ret ⟨⟨a, hdecision, hbinds, rfl⟩, h2⟩
  · rintro y st2 ⟨⟨a, -, -, hy⟩, -⟩
    cases hy

omit [Sha256] in
theorem positiveApprovalMatches_of_binds {run : Run} {a : Approval} (hr : run.runId = p.runId)
    (hdecision : a.decision = .approved) (hbinds : a.Binds p) :
    positiveApprovalMatches run p (some a) = true := by
  obtain ⟨h1, h2, h3, h4, h5⟩ := hbinds
  simp [positiveApprovalMatches, hdecision, h1, h2, h3, h4, h5, hr]

theorem validateSnapshot_ok (h : Stands e p m st x b) (hx : x.Consistent p) {t : Time}
    (hfree : x.checkpoint.Free p t) (a : Approval) :
    validateSnapshot ⟨p.runId, some p.proposalId⟩ (x.snapshot p a) = .ok none := by
  have hkey := Table.key_of_get h.checkpoint
  change x.checkpoint.runId = p.runId at hkey
  have hstate : x.run.state ≠ .awaitingApproval := by
    rcases hx.phase with ⟨-, hs | hs | hs⟩ | ⟨-, hs | hs | hs⟩ <;> rw [hs] <;> decide
  have hmeta : ∀ j, x.checkpoint.resumeMetadata.lookup "proposal_id" = some j →
      j = .null ∨ j = .str p.proposalId.str := hfree.1
  unfold validateSnapshot Picture.snapshot
  simp only [Option.isNone_some, Bool.false_eq_true, and_false, if_false, Option.any_some, h.run_id,
    bne_self_eq_false, Bool.or_self]
  unfold validateCheckpoint
  rw [if_neg (by simp [hkey, h.run_id])]
  cases hm : x.checkpoint.resumeMetadata.lookup "proposal_id" with
  | none => simp [hstate]
  | some j =>
    rcases hmeta j hm with rfl | rfl <;> simp [hstate, Json.hashable, Json.str?]

/-- A claim keeps the safe state of the checkpoint it renews. -/
theorem claimFields_valid (cfg : RecoveryConfig) (run : Run) (c : Checkpoint) (t : Time) (u : UUID) :
    (claimFields cfg run p c t u).violation = none := by
  have hc := (CheckpointFields.violation_eq_none _).mp c.valid
  exact (CheckpointFields.violation_eq_none _).mpr
    ⟨Nat.succ_ne_zero _, hc.2.1, by simp [claimFields], rfl, rfl, rfl, rfl, rfl, rfl⟩

/-- The lease is free: recovery claims it. -/
theorem wp_claimActiveRecovery (h : Stands e p m st x (b + 3)) (cfg : RecoveryConfig)
    (hfree : x.checkpoint.Free p (e.now st.tick)) :
    e.Wp who (claimActiveRecovery cfg x.run p (some x.checkpoint)) (fun o st' =>
      ∃ c, o = .ok (.succeeded c) ∧ Stands e p m st' { x with checkpoint := c } b) st := by
  obtain ⟨c, hc⟩ : ∃ c, Checkpoint.validate
      (claimFields cfg x.run p x.checkpoint (e.now st.tick) (e.ids (st.tick + 1))) = .ok c :=
    ⟨_, Checkpoint.validate_of_violation (claimFields_valid ..)⟩
  have hfields := Checkpoint.validate_ok hc
  unfold claimActiveRecovery
  refine wp_clock_bind ?_
  rw [hfree.2 _ le_rfl]
  refine wp_freshId_bind ?_
  -- the lease ends within a `datetime`
  have hrange : ¬Time.datetimeMax < e.now st.tick + seconds cfg.leaseSeconds := by
    have hlease : seconds cfg.leaseSeconds ≤ seconds 300 := Nat.mul_le_mul_right _ cfg.lease_ok.2
    have hnow := e.now_mono (show st.tick ≤ st.tick + (b + 3) by omega)
    exact Nat.not_lt.mpr ((Nat.add_le_add hnow hlease).trans h.range)
  simp only [if_neg hrange, Solo.next_tick, hc, ofExcept_ok, ret_bind]
  obtain ⟨s, hs, h'⟩ := h.next.next.saved who (c := c) (by rw [hfields]; rfl)
    (by rw [hfields]; rfl)
  refine wp_try (R := fun o st' => o = .ok c ∧ Stands e p m st' { x with checkpoint := c } b)
    (wp_op hs ⟨rfl, h'⟩) ?_ ?_
  · rintro a st' ⟨ha, h''⟩
    cases ha
    exact wp_ret ⟨c, rfl, h''⟩
  · rintro y st' ⟨hy, -⟩
    cases hy

/-- Completed work: recovery returns it, closing the run if that is all that is missing. -/
theorem wp_returnVerified (h : Stands e p m st x (b + 7)) (hx : x.Proved)
    (hstate : x.run.state = .verifying ∨ x.run.state = .recoveryRequired ∨
      x.run.state = .successWithEvidence) {a : Approval} :
    e.Wp who (returnVerified (x.snapshot p a))
      (fun _ st' => ∃ x', Stands e p m st' x' b ∧ x'.Recovered) st := by
  obtain ⟨hcompleted, v, hv, hresult⟩ := hx
  have hid := h.run_id
  have hsuccess : ∀ run : Run, run.state = .successWithEvidence →
      Picture.Recovered { x with run := run } := fun run hrun => ⟨hrun, by simp [hv], hcompleted⟩
  unfold returnVerified Picture.snapshot
  simp only [hv, hcompleted, hresult, ne_eq, not_true, or_self, if_false]
  refine wp_try (R := fun o st' => ∃ run, o = .ok run ∧ run.state = .successWithEvidence ∧
    Stands e p m st' { x with run := run } (b + 3)) ?_ ?_ ?_
  · unfold closeVerified
    refine wp_bind (R := fun o st' => ∃ run, o = .ok run ∧
      (run.state = .verifying ∨ run.state = .successWithEvidence) ∧
      Stands e p m st' { x with run := run } (b + 5)) ?_ ?_ ?_
    · unfold reenterVerifying
      split
      · rename_i hrr
        refine wp_clock_bind ?_
        obtain ⟨run, s, hs, hmoved, h'⟩ := h.next.transition who
          .recoveryRequired .verifying rfl hrr rfl (by decide) (by decide)
          (by decide) (t := e.now st.tick) h.updated (e.now_mono (Nat.le_add_right _ 2))
          none (fun h => by cases h)
        exact wp_op hs ⟨run, rfl, .inl hmoved.state, h'⟩
      · rename_i hrr
        exact wp_ret ⟨x.run, rfl, by simpa [hrr] using hstate, h.mono (by omega)⟩
    · rintro run st1 ⟨run', hrun', hs1, h1⟩
      cases hrun'
      unfold enterSuccess
      split
      · rename_i hver
        refine wp_clock_bind ?_
        obtain ⟨run', s, hs, hmoved, h'⟩ := h1.next.transition who .verifying
          .successWithEvidence rfl hver rfl (by decide) (by decide) (by decide)
          (t := e.now st1.tick) h1.updated (e.now_mono (Nat.le_add_right _ 2))
          (some p.proposalId) (fun _ => ⟨rfl, v, hv, hcompleted, hresult⟩)
        exact wp_op hs ⟨run', rfl, hmoved.state, h'⟩
      · rename_i hver
        exact wp_ret ⟨run, rfl, hs1.resolve_left hver, h1.mono (by omega)⟩
    · rintro y st1 ⟨run', hy, -⟩
      cases hy
  · rintro run st1 ⟨run', hrun', hs1, h1⟩
    cases hrun'
    rw [if_neg (by simp [hs1])]
    exact (wp_outcome h1 hid).mono fun _ _ h2 => ⟨_, h2, hsuccess run hs1⟩
  · rintro y st1 ⟨run', hy, -⟩
    cases hy

/-- Into `VERIFYING`, from wherever recovery found the active run. -/
theorem wp_enterVerifying (h : Stands e p m st x (b + 2))
    (hs : x.run.state = .executing ∨ x.run.state = .verifying ∨ x.run.state = .recoveryRequired) :
    e.Wp who (enterVerifying x.run) (fun o st' => ∃ run, o = .ok run ∧ run.state = .verifying ∧
      run.runId = p.runId ∧ Stands e p m st' { x with run := run } b) st := by
  by_cases hv : x.run.state = .verifying
  · unfold enterVerifying
    rw [if_neg (by simp [hv])]
    exact wp_ret ⟨x.run, rfl, hv, h.run_id, h.mono (by omega)⟩
  · have hs' : x.run.state = .executing ∨ x.run.state = .recoveryRequired := by
      rcases hs with hs | hs | hs
      · exact .inl hs
      · exact absurd hs hv
      · exact .inr hs
    refine wp_of_fwp .late 1 ?_
    obtain ⟨⟨-, h2⟩, run, hrun, hrun', h'⟩ := fwp_enterVerifying who .late 1 h hs'
    obtain ⟨hl, a, ha⟩ := h2 0 rfl
    refine ⟨by rw [hl]; rfl, fun o ho => ?_⟩
    rw [ha] at ho
    obtain rfl := hrun' a ha
    exact ⟨a, (Option.some.inj ho).symm, hrun, h'.run_id, h'⟩

/-- Continue with the read-only verification. -/
theorem wp_continueVerification (he : e.Stopped) {setup : RecoverySetup} (hcover : setup.Covers p)
    (h : Stands e p m st x (b + 27)) (hstate : x.run.state = .verifying)
    (hreg : x.record.status = .registered)
    (hfor : ∀ ack, x.record.executionAcknowledgement = some ack → ack.For p) {s : Snapshot}
    (hsrun : s.run.runId = p.runId) {run : Run} (hrun : run.runId = p.runId)
    {unavailable code reason : String} :
    e.Wp who (continueVerification setup.config s run p unavailable code reason) (fun _ st' =>
      ∃ x', Stands e p m st' x' b ∧
        x.Attempted (x.record.executionAcknowledgement.isSome ∧ x.evidence = none) x') st := by
  obtain ⟨-, settings, target, hrec, hc⟩ := hcover
  unfold continueVerification
  simp only [RecoverySetup.config, hrec, Option.map_some]
  refine wp_bind (BoundedVerificationCoordinator.wp_verify (b := b + 3) he h hstate hreg hfor hc)
    ?_ ?_
  · rintro a st1 ⟨x', h1, hx'⟩
    cases a with
    | failed f => exact (wp_auditedFailure h1 hrun).mono fun _ _ h2 => ⟨x', h2, hx'⟩
    | succeeded c => exact (wp_outcome h1 hsrun).mono fun _ _ h2 => ⟨x', h2, hx'⟩
  · rintro y st1 ⟨x', h1, hx'⟩
    exact ⟨x', h1.mono (by omega), hx'⟩

/-- A completion without a fault closes the run. -/
theorem wp_complete (h : Stands e p m st x (b + 18))
    (hs : x.run.state = .executing ∨ x.run.state = .recoveryRequired)
    (hreg : x.record.status = .registered) (hnone : x.evidence = none)
    (hack : x.record.executionAcknowledgement = none) {s : Snapshot} (hsrun : s.run = x.run)
    (observation : VerificationObservation) :
    e.Wp who (completeFromRecoveryObservation s p observation)
      (fun _ st' => ∃ x', Stands e p m st' x' b ∧ x'.Recovered) st := by
  refine wp_of_fwp .late 6 ?_
  obtain ⟨hl, x', h', -, hrec⟩ := fwp_complete who .late 6 h hs hreg hnone hack hsrun observation
  exact ⟨hl le_rfl, fun _ _ => ⟨x', h', hrec (by omega)⟩⟩

/-- Where evidence is stored already, a completion gives up. -/
theorem wp_complete_refused (h : Stands e p m st x (b + 11))
    (hs : x.run.state = .executing ∨ x.run.state = .recoveryRequired)
    (hstored : x.evidence.isSome) {s : Snapshot} (hsrun : s.run = x.run)
    (observation : VerificationObservation) :
    e.Wp who (completeFromRecoveryObservation s p observation)
      (fun _ st' => ∃ x', Stands e p m st' x' b ∧ x'.record = x.record) st := by
  obtain ⟨v, hv⟩ := Option.isSome_iff_exists.mp hstored
  have hid : s.run.runId = p.runId := hsrun ▸ h.run_id
  unfold completeFromRecoveryObservation
  rw [hsrun]
  refine wp_try (wp_enterVerifying (b := b + 9) h (hs.imp_right .inr)) ?_ ?_
  · rintro run st1 ⟨run', hrun', hver, -, h1⟩
    cases hrun'
    refine wp_try (R := fun o st' => o = .error (.storageConflict
      "conflicting verification evidence already exists") ∧
      Stands e p m st' { x with run := run } (b + 6)) ?_ ?_ ?_
    · unfold completeBody
      refine wp_freshId_bind (wp_clock_bind ?_)
      have hrid : run.runId = p.runId := h1.run_id
      simp only [VerificationEvidence.createFromRecovery, hrid, ne_eq, not_true, if_false,
        ofExcept_ok, ret_bind]
      refine wp_op_refused (h1.next.next.evidence_refused hv rfl rfl ?_) ⟨rfl, h1.next.next.next⟩
      exact h1.drawn.next
    · rintro a st2 ⟨ha, -⟩
      cases ha
    · rintro y st2 ⟨hy, h2⟩
      cases hy
      refine (wp_completeFailed h2 hid h1.run_id).mono ?_
      rintro o st3 ⟨run', -, h3⟩
      exact ⟨_, h3, rfl⟩
  · rintro y st1 ⟨run', hy, -⟩
    cases hy

/-- `_resume_from_durable_ack`. -/
theorem wp_resumeFromDurableAck (he : e.Stopped) {setup : RecoverySetup} (hcover : setup.Covers p)
    (h : Stands e p m st x (b + 29))
    (hs : x.run.state = .executing ∨ x.run.state = .verifying ∨ x.run.state = .recoveryRequired)
    (hreg : x.record.status = .registered)
    (hfor : ∀ ack, x.record.executionAcknowledgement = some ack → ack.For p) {s : Snapshot}
    (hsrun : s.run = x.run) :
    e.Wp who (resumeFromDurableAck setup.config s p) (fun _ st' => ∃ x', Stands e p m st' x' b ∧
      x.Attempted (x.record.executionAcknowledgement.isSome ∧ x.evidence = none) x') st := by
  unfold resumeFromDurableAck
  rw [hsrun]
  refine wp_try (wp_enterVerifying (b := b + 27) h hs) ?_ ?_
  · rintro run st1 ⟨run', hrun', hver, hid, h1⟩
    cases hrun'
    exact wp_continueVerification he hcover h1 hver hreg hfor (hsrun ▸ h.run_id) hid
  · rintro y st1 ⟨run', hy, -⟩
    cases hy

/-- The acknowledgement is lost: one read-back shows the target stopped, and recovery completes. -/
theorem wp_reconcileMissingAck (he : e.Stopped) {setup : RecoverySetup} (hcover : setup.Covers p)
    (h : Stands e p m st x (b + 23))
    (hs : x.run.state = .executing ∨ x.run.state = .recoveryRequired)
    (hreg : x.record.status = .registered) (hack : x.record.executionAcknowledgement = none)
    {s : Snapshot} (hsrun : s.run = x.run) :
    e.Wp who (reconcileMissingAck setup.config s p) (fun _ st' => ∃ x', Stands e p m st' x' b ∧
      x.Attempted (x.evidence = none) x') st := by
  obtain ⟨⟨target, htarget, hc⟩, -⟩ := hcover
  have hid : s.run.runId = p.runId := hsrun ▸ h.run_id
  unfold reconcileMissingAck
  simp only [RecoverySetup.config, htarget]
  obtain ⟨k, hk⟩ : ∃ k, setup.settings.maxAttempts = k + 1 :=
    ⟨setup.settings.maxAttempts - 1, by have := setup.settings.attempts_ok; omega⟩
  rw [hk]
  unfold readBackLoop
  refine wp_clock_bind (BoundedVerificationCoordinator.wp_observe_bind he h.next hc
    fun o st1 ho h1 => ?_)
  refine wp_bind (R := fun r st' => r = .ok none ∧ Stands e p m st' x (b + 18)) ?_ ?_ ?_
  · unfold appendObservationEvent
    refine wp_try (wp_appendEvent h1 hid) ?_ ?_
    · rintro - st2 ⟨-, h2⟩
      exact wp_ret ⟨rfl, h2⟩
    · rintro y st2 ⟨hy, -⟩
      cases hy
  · rintro r st2 ⟨hr, h2⟩
    cases hr
    simp only [ho]
    cases hev : x.evidence with
    | none =>
      refine (wp_complete h2 hs hreg hev hack hsrun o).mono ?_
      rintro - st3 ⟨x', h3, hrec⟩
      exact ⟨x', h3, .inl ⟨rfl, hrec⟩⟩
    | some v =>
      refine (wp_complete_refused (b := b) (h2.mono (by omega)) hs (by simp [hev]) hsrun o).mono ?_
      rintro - st3 ⟨x', h3, hrec⟩
      exact ⟨x', h3, .inr ⟨by simp, hrec⟩⟩
  · rintro y st2 ⟨hy, -⟩
    cases hy

/-- An unresolved action in `EXECUTING` or `RECOVERY_REQUIRED`. -/
theorem wp_recoverExecution (he : e.Stopped) {setup : RecoverySetup} (hcover : setup.Covers p)
    (h : Stands e p m st x (b + 32)) (hx : x.Consistent p)
    (hs : x.run.state = .executing ∨ x.run.state = .recoveryRequired)
    (hreg : x.record.status = .registered) (hfree : x.checkpoint.Free p (e.now st.tick))
    {a : Approval} (hdecision : a.decision = .approved) (hbinds : a.Binds p) :
    e.Wp who (recoverExecution setup.config (x.snapshot p a) p) (fun _ st' => ∃ x',
      Stands e p m st' x' b ∧ x.Attempted (x.evidence = none) x') st := by
  unfold recoverExecution
  rw [if_neg (by simp [Picture.snapshot, positiveApprovalMatches_of_binds h.run_id hdecision hbinds])]
  simp only [Picture.snapshot, hreg, ne_eq, not_true, if_false, reduceCtorEq]
  refine wp_bind (wp_claimActiveRecovery (b := b + 29) h setup.config hfree) ?_ ?_
  · rintro r st1 ⟨c, hr, h1⟩
    cases hr
    dsimp only
    split
    · rename_i hack
      refine (wp_resumeFromDurableAck he hcover h1 (hs.imp_right .inr) hreg hx.acknowledged rfl).mono ?_
      rintro - st2 ⟨x', h2, hx'⟩
      refine ⟨x', h2, ?_⟩
      simpa only [Picture.Attempted, hack, true_and] using hx'
    · rename_i hack
      refine (wp_reconcileMissingAck (b := b) he hcover (h1.mono (by omega)) hs hreg
        (by simpa using hack) rfl).mono ?_
      rintro - st2 ⟨x', h2, hx'⟩
      exact ⟨x', h2, hx'⟩
  · rintro y st1 ⟨c, hy, -⟩
    cases hy

/-- An unresolved action in `VERIFYING`. -/
theorem wp_recoverVerification (he : e.Stopped) {setup : RecoverySetup} (hcover : setup.Covers p)
    (h : Stands e p m st x (b + 32)) (hx : x.Consistent p) (hs : x.run.state = .verifying)
    (hreg : x.record.status = .registered) (hfree : x.checkpoint.Free p (e.now st.tick))
    {a : Approval} :
    e.Wp who (recoverVerification setup.config (x.snapshot p a) p) (fun _ st' => ∃ x',
      Stands e p m st' x' b ∧
      x.Attempted (x.record.executionAcknowledgement.isSome ∧ x.evidence = none) x') st := by
  unfold recoverVerification
  simp only [Picture.snapshot, hreg, if_false, reduceCtorEq]
  refine wp_bind (wp_claimActiveRecovery (b := b + 29) h setup.config hfree) ?_ ?_
  · rintro r st1 ⟨c, hr, h1⟩
    cases hr
    refine (wp_continueVerification (b := b) he hcover (h1.mono (by omega)) hs hreg hx.acknowledged
      h.run_id h.run_id).mono ?_
    rintro - st2 ⟨x', h2, hx'⟩
    exact ⟨x', h2, hx'⟩
  · rintro y st1 ⟨c, hy, -⟩
    cases hy

/-- **What recovery achieves**: from a consistent picture with a free checkpoint it closes the run,
    exactly if the picture is recoverable. -/
theorem wp_recover (who : ι) (he : e.Stopped) {setup : RecoverySetup} (hcover : setup.Covers p)
    (h : Stands e p m st x (b + 38)) (hx : x.Consistent p)
    (hfree : x.checkpoint.Free p (e.now st.tick)) :
    e.Wp who (recover setup.config ⟨p.runId, some p.proposalId⟩) (fun _ st' => ∃ x',
      Stands e p m st' x' b ∧ (x'.Recovered ↔ x.Recoverable)) st := by
  have hid := h.run_id
  have hunfold : ∀ st' (Q : Except PyExc (ControlResult RecoveryOutcome) → Solo ι → Prop)
      (a : Approval), e.Wp who (recoverProposal setup.config (x.snapshot p a) p) Q st' →
      e.Wp who (recoverSnapshot setup.config (x.snapshot p a)) Q st' := by
    intro st' Q a hw
    unfold recoverSnapshot
    have : proposalOptional (x.snapshot p a).run.state = false := by
      change proposalOptional x.run.state = false
      rcases hx.phase with ⟨-, hs | hs | hs⟩ | ⟨-, hs | hs | hs⟩ <;> rw [hs] <;> rfl
    rw [if_neg (by simp [this])]
    exact hw
  have hfinish : ∀ (ok : Prop) (x' : Picture), x.record.status = .registered → (ok ↔ x.Recoverable) →
      x.Attempted ok x' → (x'.Recovered ↔ x.Recoverable) := by
    rintro ok x' hreg hok (⟨h1, h2⟩ | ⟨h1, h2⟩)
    · exact ⟨fun _ => hok.mp h1, fun _ => h2⟩
    · refine ⟨fun hr => absurd hr.2.2 ?_, fun hr => absurd (hok.mpr hr) h1⟩
      rw [h2, hreg]
      decide
  unfold recover
  refine wp_try ((wp_readSnapshot (b := b + 32) h).and (wp_tick _ st)) ?_ ?_
  · rintro r st1 ⟨⟨⟨a, hdecision, hbinds, hr⟩, h1⟩, htick⟩
    cases hr
    have hfree1 : x.checkpoint.Free p (e.now st1.tick) :=
      ⟨hfree.1, fun t ht => hfree.2 t ((e.now_mono htick).trans ht)⟩
    dsimp only
    rw [validateSnapshot_ok h1 hx hfree a]
    refine hunfold st1 _ a ?_
    unfold recoverProposal
    rcases hx.phase with ⟨hreg, hs⟩ | ⟨hproved, hs⟩
    · by_cases hv : x.run.state = .verifying
      · simp only [Picture.snapshot, hv]
        refine (wp_recoverVerification he hcover h1 hx hv hreg hfree1).mono ?_
        rintro - st2 ⟨x', h2, hx'⟩
        exact ⟨x', h2, hfinish _ x' hreg (by simp [Picture.Recoverable, hreg, hv, and_comm]) hx'⟩
      · have hs' : x.run.state = .executing ∨ x.run.state = .recoveryRequired := by
          rcases hs with hs | hs | hs
          · exact .inl hs
          · exact absurd hs hv
          · exact .inr hs
        have hgo : e.Wp who (recoverExecution setup.config (x.snapshot p a) p) (fun _ st' => ∃ x',
            Stands e p m st' x' b ∧ (x'.Recovered ↔ x.Recoverable)) st1 := by
          refine (wp_recoverExecution he hcover h1 hx hs' hreg hfree1 hdecision hbinds).mono ?_
          rintro - st2 ⟨x', h2, hx'⟩
          exact ⟨x', h2, hfinish _ x' hreg (by simp [Picture.Recoverable, hreg, hv]) hx'⟩
        rcases hs' with hs' | hs' <;> simpa only [Picture.snapshot, hs'] using hgo
    · -- completed work: whatever the state, `returnVerified` closes the run
      have hdone : ∀ st' x', Stands e p m st' x' b → x'.Recovered →
          ∃ x', Stands e p m st' x' b ∧ (x'.Recovered ↔ x.Recoverable) :=
        fun st' x' h' hrec => ⟨x', h', fun _ => .inl hproved.1, fun _ => hrec⟩
      have hreturn : e.Wp who (returnVerified (x.snapshot p a)) (fun _ st' => ∃ x',
          Stands e p m st' x' b ∧ (x'.Recovered ↔ x.Recoverable)) st1 :=
        (wp_returnVerified (h1.mono (by omega)) hproved hs).mono
          fun _ st' ⟨x', h', hrec⟩ => hdone st' x' h' hrec
      have hexec : recoverExecution setup.config (x.snapshot p a) p = returnVerified (x.snapshot p a) := by
        unfold recoverExecution
        rw [if_neg (by
          simp [Picture.snapshot, positiveApprovalMatches_of_binds h.run_id hdecision hbinds])]
        simp only [Picture.snapshot, hproved.1, if_true]
      have hverif : recoverVerification setup.config (x.snapshot p a) p =
          returnVerified (x.snapshot p a) := by
        unfold recoverVerification
        simp only [Picture.snapshot, hproved.1, if_true]
      rcases hs with hs | hs | hs
      · rw [← hverif] at hreturn
        simpa only [Picture.snapshot, hs] using hreturn
      · rw [← hexec] at hreturn
        simpa only [Picture.snapshot, hs] using hreturn
      · simpa only [Picture.snapshot, hs] using hreturn
  · rintro y st1 ⟨⟨⟨a, -, -, hy⟩, -⟩, -⟩
    cases hy

end RecoveryCoordinator

/-! ## One fault, then recovery -/

/-- The repository holds a closed run: success, evidence, a completed record. -/
def Store.Closed (s : Store) (p : ActionProposal) : Prop :=
  (∃ run, s.runs.get p.runId = some run ∧ run.state = .successWithEvidence) ∧
    (s.verificationEvidence.get (p.runId, p.proposalId)).isSome ∧
    ∃ r, s.idempotency.get (deriveIdempotencyKey p) = some r ∧ r.status = .completed

theorem Shows.closed_iff (h : Shows p m st.world x) : st.world.store.Closed p ↔ x.Recovered := by
  unfold Store.Closed Picture.Recovered
  rw [h.run, h.evidence, h.record]
  simp

/-- A call made at a repository `s` gets fresh identifiers, a later clock on which a lease still ends
    within a `datetime`, and room for its audit events, for `b` requests. -/
structure Environment.Ready (e : Environment) (p : ActionProposal) (s : Store) (b : Nat) :
    Prop where
  fresh : ∀ n, n < b → Unused s p.runId (e.ids n)
  distinct : ∀ k n, k < n → n < b → e.ids k ≠ e.ids n
  room : s.countAuditEvents p.runId + b ≤ MAX_AUDIT_EVENTS_PER_RUN
  updated : ∀ run, s.runs.get p.runId = some run → run.updatedAt ≤ e.now 0
  registered : ∀ r, s.idempotency.get (deriveIdempotencyKey p) = some r → r.registeredAt ≤ e.now 0
  range : e.now b + seconds 300 ≤ Time.datetimeMax

theorem Shows.stands {w : World ι} (h : Shows p m w x) (he : e.Ready p w.store b) :
    Stands e p m ⟨w, 0⟩ x b where
  toShows := h
  fresh n _ hn := he.fresh n (by simpa using hn)
  distinct k n _ hk hn := he.distinct k n hk (by simpa using hn)
  room := he.room
  updated := he.updated _ h.run
  registered := he.registered _ h.record
  range := by simpa using he.range

theorem Stands.ready {w : World ι} (h : Stands e p m ⟨w, 0⟩ x b) : e.Ready p w.store b where
  fresh n hn := h.fresh n (Nat.zero_le n) (by simpa using hn)
  distinct k n hk hn := h.distinct k n (Nat.zero_le k) hk (by simpa using hn)
  room := h.room
  updated run hrun := by
    rw [h.run] at hrun
    cases hrun
    exact h.updated
  registered r hr := by
    rw [h.record] at hr
    cases hr
    exact h.registered
  range := by simpa using h.range

/-- A call of one of the two functions that close a run. -/
inductive ClosingCall [Sha256] where
  | persistSuccess (run : Run) (acknowledgement : ExecutionAcknowledgement)
      (observation : VerificationObservation)
  | completeFromRecoveryObservation (s : Snapshot) (observation : VerificationObservation)

namespace ClosingCall

def flow (p : ActionProposal) : ClosingCall → Flow Unit
  | persistSuccess run acknowledgement observation => do
    let _ ← BoundedVerificationCoordinator.persistSuccess run p acknowledgement observation
    return
  | completeFromRecoveryObservation s observation => do
    let _ ← RecoveryCoordinator.completeFromRecoveryObservation s p observation
    return

/-- It is called on the records the repository shows, of an executed action without proof: with
    the stored acknowledgement by the verification, without any by the recovery. -/
def Fits (x : Picture) : ClosingCall → Prop
  | persistSuccess run acknowledgement _ => run = x.run ∧ x.run.state = .verifying ∧
      x.record.executionAcknowledgement = some acknowledgement
  | completeFromRecoveryObservation s _ => s.run = x.run ∧
      (x.run.state = .executing ∨ x.run.state = .recoveryRequired) ∧
      x.record.executionAcknowledgement = none

/-- The faults recovery gets over.  It does not when the evidence was stored but the record was not
    completed; nor when recovery itself had moved the run to `VERIFYING`, no more, and crashed or
    took the run to be `RECOVERY_REQUIRED` still. -/
def Harmless (fault : Fault) (n : Nat) (x : Picture) : ClosingCall → Prop
  | persistSuccess .. => fault.effective n ≠ 1
  | completeFromRecoveryObservation .. => fault.effective n ≠ 2 ∧ ¬(fault.effective n = 1 ∧
      (fault.mode.crashes ∨ n = 0 ∧ x.run.state = .recoveryRequired))

/-- What is left of `persistSuccess`. -/
theorem recoverable_closing {k : Nat} {x x' : Picture} (hc : Closing k x x')
    (hreg : x.record.status = .registered)
    (hnone : x.evidence = none) (hack : x.record.executionAcknowledgement.isSome) :
    x'.Recoverable ↔ k ≠ 1 := by
  unfold Picture.Recoverable
  rw [hc.acknowledgement]
  rcases (by omega : k = 0 ∨ k = 1 ∨ 2 ≤ k) with rfl | rfl | hk
  · simp [hc.absent rfl, hnone, hack]
  · have hs := hc.stored le_rfl
    rw [Option.isSome_iff_ne_none] at hs
    simp [hc.unresolved (by omega), hreg, hs]
  · simp only [(hc.proved hk).1, true_or, true_iff]
    omega

theorem consistent_closing {k : Nat} {x x' : Picture} (hc : Closing k x x')
    (hstate : x.run.state = .verifying) (hreg : x.record.status = .registered)
    (hfor : ∀ ack, x.record.executionAcknowledgement = some ack → ack.For p) : x'.Consistent p where
  acknowledged ack h := hfor ack (hc.acknowledgement ▸ h)
  phase := by
    by_cases hk : k < 2
    · have hs := hc.active (by omega)
      rw [hstate] at hs
      exact .inl ⟨hc.unresolved hk ▸ hreg, .inr hs⟩
    · refine .inr ⟨hc.proved (by omega), ?_⟩
      by_cases hk' : k < 4
      · have hs := hc.active hk'
        rw [hstate] at hs
        exact hs.imp_right .inl
      · exact .inr (.inr (hc.success (by omega)))

/-- What is left of `completeFromRecoveryObservation`. -/
theorem recoverable_completing {x x' : Picture} (hc : RecoveryCoordinator.Completing fault n x x')
    (hs : x.run.state = .executing ∨ x.run.state = .recoveryRequired)
    (hreg : x.record.status = .registered) (hnone : x.evidence = none)
    (hack : x.record.executionAcknowledgement = none) :
    x'.Consistent p ∧ (x'.Recoverable ↔ fault.effective n ≠ 2 ∧ ¬(fault.effective n = 1 ∧
      (fault.mode.crashes ∨ n = 0 ∧ x.run.state = .recoveryRequired))) := by
  have hlost : ∀ y : Picture, y.record = x.record →
      ∀ ack, y.record.executionAcknowledgement = some ack → ack.For p := by
    intro y hy ack hack'
    rw [hy, hack] at hack'
    cases hack'
  by_cases h0 : fault.effective n = 0
  · -- nothing was written
    obtain ⟨hev, hrecord, hstate⟩ := hc.untouched h0
    have hstate' : x'.run.state = .executing ∨ x'.run.state = .recoveryRequired := by
      obtain hstate | hstate := hstate
      · rw [hstate]
        exact hs
      · exact .inr hstate
    have hne : x'.run.state ≠ .verifying := by rcases hstate' with h | h <;> rw [h] <;> decide
    refine ⟨⟨hlost x' hrecord, .inl ⟨hrecord ▸ hreg, hstate'.imp_right .inr⟩⟩, ?_⟩
    simp [Picture.Recoverable, hev, hnone, hne, h0]
  · obtain ⟨y, hy, hyev, hyrec, hclosing⟩ := hc.closing (by omega)
    have hfor : ∀ ack, y.record.executionAcknowledgement = some ack → ack.For p := hlost y hyrec
    refine ⟨consistent_closing hclosing hy (hyrec ▸ hreg) hfor, ?_⟩
    by_cases h1 : fault.effective n = 1
    · -- only the transition
      rw [h1] at hclosing
      have hrecord := hclosing.unresolved (by omega)
      have hev := hclosing.absent rfl
      unfold Picture.Recoverable
      rw [hev, hyev, hrecord, hyrec, hreg, hack, hnone, hc.entered h1]
      by_cases hd : fault.mode.crashes = true ∨ n = 0 ∧ x.run.state = .recoveryRequired
      · simp [hd, h1]
      · simp [hd, h1]
    · by_cases h2 : fault.effective n = 2
      · rw [h2] at hclosing
        have hsome := hclosing.stored (by omega)
        have hrecord := hclosing.unresolved (by omega)
        unfold Picture.Recoverable
        rw [hrecord, hyrec, hreg]
        rw [Option.isSome_iff_ne_none] at hsome
        simp [h2, hsome]
      · have hproved := hclosing.proved (by omega)
        simp [Picture.Recoverable, hproved.1, h1, h2]

/-- **What one fault leaves**: a consistent picture, recoverable exactly if the fault is harmless. -/
theorem fwp_flow (who : ι) (fault : Fault) (n : ℕ) {call : ClosingCall}
    (h : Stands e p m st x (b + 18)) (hfits : call.Fits x) (hx : x.Consistent p) (hreg : x.record.status = .registered) (hnone : x.evidence = none) :
    e.FWp who fault (call.flow p) (some n) (fun o => ∃ x', Stands e p m o.final x' b ∧
      x'.Consistent p ∧ x'.checkpoint = x.checkpoint ∧
      (x'.Recoverable ↔ call.Harmless fault n x)) st := by
  cases call with
  | persistSuccess run ack observation =>
    obtain ⟨rfl, hstate, hack⟩ := hfits
    refine fwp_bind (R := fun o => ∃ x', Stands e p m o.final x' b ∧ x'.Consistent p ∧
      x'.checkpoint = x.checkpoint ∧ (x'.Recoverable ↔ fault.effective n ≠ 1)) ?_
      (fun _ _ _ h => h) (fun _ _ _ h => h) fun _ _ h => h
    obtain ⟨-, x', h', hc⟩ := BoundedVerificationCoordinator.fwp_persistSuccess who
      fault n (b := b) (h.mono (by omega)) hstate hreg hnone hack
      (hx.acknowledged ack hack) observation
    exact ⟨x', h', consistent_closing hc hstate hreg hx.acknowledged, hc.checkpoint,
      recoverable_closing hc hreg hnone (by simp [hack])⟩
  | completeFromRecoveryObservation s observation =>
    obtain ⟨hsrun, hs, hack⟩ := hfits
    refine fwp_bind (R := fun o => ∃ x', Stands e p m o.final x' b ∧ x'.Consistent p ∧
      x'.checkpoint = x.checkpoint ∧ (x'.Recoverable ↔
        (ClosingCall.completeFromRecoveryObservation s observation).Harmless fault n x)) ?_
      (fun _ _ _ h => h) (fun _ _ _ h => h) fun _ _ h => h
    obtain ⟨-, x', h', hc, -⟩ := RecoveryCoordinator.fwp_complete who fault
      (n := n) (b := b) h hs hreg hnone hack hsrun observation
    obtain ⟨hconsistent, hrec⟩ := recoverable_completing hc hs hreg hnone hack
    exact ⟨x', h', hconsistent, hc.checkpoint, hrec⟩

/-- A fault-free `recover` closes what one fault left, exactly if the fault is harmless. -/
theorem closed_iff {w : World ι} {call : ClosingCall} (h : Stands e p m ⟨w, 0⟩ x 18)
    (hfits : call.Fits x) (hx : x.Consistent p) (hreg : x.record.status = .registered)
    (hnone : x.evidence = none) {w' : World ι}
    (hw' : w' = (e.faulty who fault (call.flow p) (some n) ⟨w, 0⟩).final.world) {e' : Environment}
    (he' : e'.Ready p w'.store 38) (hstopped : e'.Stopped) {setup : RecoverySetup}
    (hcover : setup.Covers p) (hfree : x.checkpoint.Free p (e'.now 0)) {who' : ι} :
    ((RecoveryCoordinator.recover setup.config ⟨p.runId, some p.proposalId⟩).run
      (e'.respond who') ⟨w', 0⟩).2.world.store.Closed p ↔ call.Harmless fault n x := by
  obtain ⟨x', h', hx', hcheck, hrec⟩ := fwp_flow who fault n (b := 0) h hfits hx hreg hnone
  subst hw'
  have h2 := RecoveryCoordinator.wp_recover who' (b := 0) hstopped hcover
    (h'.toShows.stands he') hx' (hcheck ▸ hfree)
  obtain ⟨x'', h'', hiff⟩ := h2
  rw [h''.toShows.closed_iff, hiff, hrec]

end ClosingCall

end CloudOpsAgent
