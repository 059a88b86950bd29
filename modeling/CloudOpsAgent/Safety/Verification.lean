/-
  `verify` under the discipline of success.

  Its four success exits — a fresh completion, the reconciliation of stored evidence, the replay of
  a run that has succeeded, and these after losing a race — all end in `Verified`: the evidence it
  returns is the stored evidence of its run, and the run has succeeded.  The evidence a fresh
  completion stores is backed by the read-back this very call made and audited.
-/
import CloudOpsAgent.Safety.Success

namespace CloudOpsAgent

open ClientProg ClientProg.Prog Flow

variable [Sha256] {ι : Type} {isLocal : UUID → Bool} {i : ι} {w : World ι}

/-- The evidence is the stored evidence of a run that has succeeded. -/
def Verified (s : Store) (e : VerificationEvidence) : Prop :=
  s.verificationEvidence.get (e.runId, e.proposalId) = some e ∧
    ∃ run, s.runs.get e.runId = some run ∧ run.state = .successWithEvidence

theorem Verified.evolves {s s' : Store} (h : s.Evolves s') {e : VerificationEvidence}
    (he : Verified s e) : Verified s' e := by
  obtain ⟨he, run, hr, hs⟩ := he
  obtain ⟨run', hr', hev⟩ := h.runs _ run hr
  exact ⟨h.evidence he, run', hr', (hev.terminal (by rw [hs]; decide)).trans hs⟩

/-- A stored evidence of a run that was just moved into success, or was read in it. -/
theorem Verified.of_get {s : Store} {run : Run} (hr : s.KnowsRun run)
    (hs : run.state = .successWithEvidence) (proposalId : UUID) {e : VerificationEvidence}
    (he : s.verificationEvidence.get (run.runId, proposalId) = some e) : Verified s e := by
  obtain ⟨run', hr', hs'⟩ := hr.terminal (by rw [hs]; decide)
  have hkey := Table.key_of_get he
  simp only [Prod.mk.injEq] at hkey
  refine ⟨by rw [hkey.1, hkey.2]; exact he, run', by rw [hkey.1]; exact hr', hs'.trans hs⟩

omit [Sha256] in
/-- `VerificationEvidence.create` copies the identity of run and proposal. -/
theorem VerificationEvidence.create_ok {evidenceId : UUID} {p : ActionProposal} {run : Run}
    {t : Time} {ack : ExecutionAcknowledgement} {hash : Sha256Digest} {e : VerificationEvidence}
    (h : VerificationEvidence.create evidenceId p run t ack hash = .ok e) :
    e.proposalId = p.proposalId ∧ e.runId = run.runId ∧ p.runId = run.runId ∧
      e.traceId = run.traceId ∧ e.correlationId = run.correlationId ∧ e.target = p.target ∧
      e.observationHash = hash ∧ e.proof = .executionAcknowledgement ack.acknowledgementHash := by
  unfold VerificationEvidence.create at h
  split at h
  · cases h
  · rename_i hne
    cases h
    simp only [not_or, not_not] at hne
    exact ⟨rfl, rfl, hne.1, rfl, rfl, rfl, rfl, rfl⟩

omit [Sha256] in
theorem VerificationEvidence.createFromRecovery_ok {evidenceId : UUID} {p : ActionProposal}
    {run : Run} {t : Time} {hash : Sha256Digest} {e : VerificationEvidence}
    (h : VerificationEvidence.createFromRecovery evidenceId p run t hash = .ok e) :
    e.proposalId = p.proposalId ∧ e.runId = run.runId ∧ p.runId = run.runId ∧
      e.traceId = run.traceId ∧ e.correlationId = run.correlationId ∧ e.target = p.target ∧
      e.observationHash = hash ∧ e.proof = .recoveryReadBack hash := by
  unfold VerificationEvidence.createFromRecovery at h
  split at h
  · cases h
  · rename_i hne
    cases h
    exact ⟨rfl, rfl, not_not.mp hne, rfl, rfl, rfl, rfl, rfl⟩

/-- Evidence of known records is backed by a read-back of them and its audit event. -/
theorem Backed.of_known {log : List (Event ι)} {s : Store} {p : ActionProposal} {run : Run}
    (hp : s.KnowsProposal p) (hr : s.KnowsRun run) (hrun : p.runId = run.runId)
    {e : VerificationEvidence} (h1 : e.proposalId = p.proposalId) (h2 : e.runId = run.runId)
    (h3 : e.target = p.target) (hback : ReadBack log p (.fromRun run) e.observationHash)
    (haud : Audited s run.runId e.observationHash) : Backed log s e := by
  obtain ⟨q, hq, hpq⟩ := hp
  obtain ⟨run', hr', hev⟩ := hr
  obtain ⟨-, k1, -, k2, -⟩ := hpq.fields
  refine ⟨q, run', h1 ▸ hq, k1.trans (hrun.trans h2.symm), h3.trans k2.symm, h2 ▸ hr', ?_, h2 ▸ haud⟩
  rw [InvestigationIdentity.fromRun_evolves hev (Table.key_of_get hr')]
  exact hback.sameContent hpq

/-- Evidence that was accepted is the stored evidence. -/
theorem Store.createVerificationEvidence_stored {s s' : Store} {e x : VerificationEvidence}
    (h : (Op.createVerificationEvidence e).run s = .ok (x, s')) :
    x = e ∧ s'.verificationEvidence.get (e.runId, e.proposalId) = some e := by
  obtain ⟨hx, ⟨hget, rfl⟩ | ⟨-, -, rfl⟩⟩ := Store.createVerificationEvidence_ok h
  · exact ⟨hx, hget⟩
  · exact ⟨hx, Table.get_put_self _ _⟩

/-- What an audit event just appended leaves behind. -/
theorem Audited.of_append {s s' : Store} {e x : AuditEvent}
    (h : (Op.appendAuditEvent e).run s = .ok (x, s'))
    (ht : e.type = .verificationObserved ∨ e.type = .recoveryObserved) :
    Audited s' e.runId e.redactedPayloadHash := by
  obtain ⟨-, -, -, rfl⟩ := Store.appendAuditEvent_ok h
  exact ⟨e, Table.get_put_self _ _, ht, rfl⟩

/-- The observation a read-back answers is in the history. -/
theorem observe_safe (target : SandboxTarget) (p : ActionProposal)
    (identity : InvestigationIdentity) (t : Time) (attempt : Nat) :
    Safe (successDiscipline isLocal) i
      (VerifyInstanceStateService.observe target p identity t attempt)
      (fun o w => ∀ x, o = .ok (.succeeded x) → x.observedState = .stopped →
        ReadBack w.log p identity x.observationHash) w := by
  unfold VerifyInstanceStateService.observe
  split
  · refine safe_inspect_bind fun answer w1 _ _ hlog => ?_
    cases answer with
    | failed failure => exact safe_ret fun _ _ _ x hx => by cases hx
    | succeeded inspection =>
      refine safe_ret fun w2 h2 _ x hx hs => ?_
      cases hx
      exact ⟨i, inspection, t, attempt + 1, h2.1.2.subset hlog, hs, rfl⟩
  · exact safe_ret fun _ _ _ x hx => by cases hx

namespace BoundedVerificationCoordinator

theorem markedFailure_returns {α : Type} (run : Run) (f : FailureDetail) :
    (markRecoveryRequired run >>= fun _ => (pure (.failed f) : Flow (ControlResult α))).Returns
      Failed := returns_bind _ fun _ => ⟨f, rfl⟩

theorem failVerification_returns (run : Run) (key : String) (failure : FailureDetail) :
    (failVerification run key failure).Returns Failed :=
  returns_catching (markedFailure_returns _ _) fun _ => ⟨failure, rfl⟩

theorem markedFailure_plain {α : Type} (run : Run) (f : FailureDetail) :
    (markRecoveryRequired run >>= fun _ => (pure (.failed f) : Flow (ControlResult α))).Issues
      Req.plain := (markRecoveryRequired_plain run).bind fun _ => trivial

/-- The post-condition of `verify`. -/
def Post (proposalId : UUID) (o : Except PyExc (ControlResult VerificationCompletion))
    (w : World ι) : Prop :=
  ∀ c, o = .ok (.succeeded c) → Verified w.store c.evidence ∧ c.evidence.proposalId = proposalId

theorem Post.error {proposalId : UUID} {e : PyExc} {w : World ι} : Post proposalId (.error e) w :=
  fun c hc => by cases hc

/-- A flow of plain requests that can only fail meets the post-condition. -/
theorem safe_failed {p : Flow (ControlResult VerificationCompletion)} (hp : p.Issues Req.plain)
    (hr : p.Returns Failed) (proposalId : UUID) :
    Safe (successDiscipline isLocal) i p (Post proposalId) w :=
  safe_plain_returns hp hr (fun a _ ⟨f, hf⟩ c hc => by subst hf; cases hc) fun _ _ => Post.error

theorem safe_fail (f : FailureDetail) (proposalId : UUID) :
    Safe (successDiscipline isLocal) i (.ret (.failed f)) (Post proposalId) w :=
  safe_ret fun _ _ _ c hc => by cases hc

/-- The fresh completion: its evidence is backed, so it may be stored. -/
theorem persistSuccess_safe {run : Run} {proposal : ActionProposal}
    (hp : w.store.KnowsProposal proposal) (hr : w.store.KnowsRun run)
    (ack : ExecutionAcknowledgement) {o : VerificationObservation}
    (hback : ReadBack w.log proposal (.fromRun run) o.observationHash)
    (haud : Audited w.store run.runId o.observationHash) :
    Safe (successDiscipline isLocal) i (persistSuccess run proposal ack o)
      (Post proposal.proposalId) w := by
  refine safe_clock_bind fun verifiedAt => safe_freshId_bind fun evidenceId => ?_
  refine .bind (R := fun o w' => o = VerificationEvidence.create evidenceId proposal run verifiedAt
    ack _) (safe_ofExcept fun _ _ _ => rfl) (fun evidence w1 h1 _ he => ?_)
    fun _ _ _ _ _ => Post.error
  obtain ⟨k1, k2, k3, -, -, k4, k5, -⟩ := VerificationEvidence.create_ok he.symm
  rw [← k5] at hback haud
  refine safe_catching (R := fun o w' => ∀ e, o = .ok e → Verified w'.store e ∧
      e.proposalId = proposal.proposalId) ?_ (fun e w2 h2 _ hv => ?_)
    (fun _ _ _ => safe_failed (markedFailure_plain ..) (markedFailure_returns _ _) _)
    fun _ _ _ _ => Post.error
  · have raised {e : PyExc} {w : World ι} : ∀ x, (.error e : Except PyExc VerificationEvidence) =
        .ok x → Verified w.store x ∧ x.proposalId = proposal.proposalId := fun x hx => by cases hx
    refine safe_op_bind (fun w' hw _ => ?_) (fun x s w2 _ _ hx hw2 _ => ?_) fun _ _ _ _ => raised
    · have hw := h1.trans hw
      exact Backed.of_known (hw.1.1.knowsProposal hp) (hw.1.1.knowsRun hr) k3 k1 k2 k4
        (hback.mono hw.1.2) (haud.evolves hw.1.1)
    obtain ⟨hxe, hget⟩ := Store.createVerificationEvidence_stored hx
    obtain rfl : evidence = x := hxe.symm
    refine safe_clock_bind fun completedAt => ?_
    refine safe_op_bind (fun w' _ _ => trivial) (fun record s3 w3 _ _ _ hw3 _ => ?_)
      fun _ _ _ _ => raised
    refine .bind (safe_plain (appendEvent_plain ..)) (fun _ w4 hw4 _ _ => ?_)
      fun _ _ _ _ _ => raised
    refine safe_clock_bind fun updatedAt => ?_
    refine safe_op_bind (fun w' _ _ => trivial) (fun run' s5 w5 hw5 _ ht _ _ => ?_)
      fun _ _ _ _ => raised
    obtain ⟨hs, hid, hrun⟩ := Store.transitionRun_stored ht
    refine safe_ret fun w6 hw6 _ y hy => ?_
    cases hy
    have hkept := ((Op.evolves ht).trans hw6.1.1)
    refine ⟨?_, k1⟩
    refine Verified.evolves hw6.1.1 ⟨?_, run', k2 ▸ hrun, hs⟩
    exact (Op.evolves ht).evidence (hw5.1.1.evidence (hw4.1.1.evidence (hw3.1.1.evidence hget)))
  · refine safe_ret fun w3 h3 _ c hc => ?_
    cases hc
    obtain ⟨hv, hid⟩ := hv e rfl
    exact ⟨hv.evolves h3.1.1, hid⟩

theorem finalizeExistingEvidence_safe (run : Run) (proposalId : UUID) :
    Safe (successDiscipline isLocal) i (finalizeExistingEvidence run proposalId)
      (Post proposalId) w := by
  refine safe_catching (R := fun o w' => ∀ e, o = .ok (some e) → Verified w'.store e ∧
      e.proposalId = proposalId) ?_ (fun found w2 h2 _ hv => ?_)
    (fun _ _ _ => safe_failed (markedFailure_plain ..) (markedFailure_returns _ _) _)
    fun _ _ _ _ => Post.error
  · have raised {e : PyExc} {w : World ι} :
        ∀ x, (.error e : Except PyExc (Option VerificationEvidence)) = .ok (some x) →
          Verified w.store x ∧ x.proposalId = proposalId := fun x hx => by cases hx
    refine safe_read_bind (o := .getVerificationEvidence run.runId proposalId)
      (·.verificationEvidence.get (run.runId, proposalId)) (fun _ => rfl) rfl (fun w1 _ _ => ?_)
      fun _ _ _ _ => raised
    cases he : w1.store.verificationEvidence.get (run.runId, proposalId) with
    | none => exact safe_ret fun _ _ _ x hx => by cases hx
    | some e =>
      refine .bind (safe_plain (appendEvent_plain ..)) (fun _ w2 hw2 _ _ => ?_)
        fun _ _ _ _ _ => raised
      refine safe_clock_bind fun updatedAt => ?_
      refine safe_op_bind (fun w' _ _ => trivial) (fun run' s w3 hw3 _ ht _ _ => ?_)
        fun _ _ _ _ => raised
      obtain ⟨hs, hid, hrun⟩ := Store.transitionRun_stored ht
      refine safe_ret fun w4 hw4 _ x hx => ?_
      cases hx
      have hkey := Table.key_of_get he
      simp only [Prod.mk.injEq] at hkey
      refine ⟨Verified.evolves hw4.1.1 (Verified.of_get
        (Store.knowsRun_of_get hrun) hs proposalId ?_), hkey.2⟩
      rw [hid]
      exact (Op.evolves ht).evidence (hw3.1.1.evidence (hw2.1.1.evidence he))
  · rcases found with _ | e
    · exact safe_fail _ _
    · refine safe_ret fun w3 h3 _ c hc => ?_
      cases hc
      obtain ⟨hv, hid⟩ := hv e rfl
      exact ⟨hv.evolves h3.1.1, hid⟩

theorem reconcileSuccess_safe {run : Run} (hr : w.store.KnowsRun run)
    (hs : run.state = .successWithEvidence) (proposalId : UUID) :
    Safe (successDiscipline isLocal) i (reconcileSuccess run proposalId) (Post proposalId) w := by
  refine safe_catching (R := fun o w' => ∀ x, o = .ok x → ∀ e, x = some e →
      Verified w'.store e ∧ e.proposalId = proposalId) ?_ (fun found w2 h2 _ hv => ?_)
    (fun _ _ _ => safe_fail _ _) fun _ _ _ _ => Post.error
  · refine safe_op (fun _ _ _ => trivial) (fun v s w1 w2 h1 _ hv h2 _ x hx e he => ?_)
      fun _ _ _ _ x hx => by cases hx
    cases hx
    cases hv
    have hkey := Table.key_of_get he
    simp only [Prod.mk.injEq] at hkey
    exact ⟨Verified.evolves h2.1.1 (Verified.of_get (h1.1.1.knowsRun hr) hs _ he), hkey.2⟩
  · rcases found with _ | e
    · exact safe_fail _ _
    · refine safe_ret fun w3 h3 _ c hc => ?_
      cases hc
      obtain ⟨hv, hid⟩ := hv _ rfl e rfl
      exact ⟨hv.evolves h3.1.1, hid⟩

theorem poll_safe (settings : VerificationSettings) (target : SandboxTarget)
    {proposal : ActionProposal} {run : Run} (record : IdempotencyRecord)
    (ack : ExecutionAcknowledgement) (left : Nat) : ∀ (attempt : Nat) {w : World ι},
      w.store.KnowsProposal proposal → w.store.KnowsRun run →
      Safe (successDiscipline isLocal) i
        (poll settings target proposal proposal.proposalId run record ack left attempt)
        (Post proposal.proposalId) w := by
  induction left with
  | zero =>
    exact fun _ _ _ _ => safe_failed (failVerification_plain ..) (failVerification_returns _ _ _) _
  | succ left ih =>
    intro attempt w hp hr
    refine safe_clock_bind fun observedAt => ?_
    refine .bind (observe_safe ..) (fun answer w1 h1 _ hback => ?_) fun _ _ _ _ _ => Post.error
    cases answer with
    | failed failure =>
      exact safe_failed (failVerification_plain ..) (failVerification_returns _ _ _) _
    | succeeded o =>
      refine safe_catching (R := fun x w' => x = .ok () →
          Audited w'.store run.runId o.observationHash) ?_ (fun _ w2 h12 _ haud => ?_)
        (fun _ _ _ => safe_failed (markedFailure_plain ..) (markedFailure_returns _ _) _)
        fun _ _ _ _ => Post.error
      · refine safe_freshId_bind fun eventId => safe_clock_bind fun timestamp => ?_
        refine safe_op_bind (fun _ _ _ => trivial) (fun e s w' _ _ he _ _ => ?_)
          fun _ _ _ _ hx => by cases hx
        exact safe_ret fun w'' hw'' _ _ => (Audited.of_append he (.inl rfl)).evolves hw''.1.1
      · have h2 := h1.trans h12
        cases hd : o.disposition with
        | verified =>
          have hs : o.observedState = .stopped := Ec2InstanceState.disposition_verified.mp hd
          exact persistSuccess_safe (h2.1.1.knowsProposal hp) (h2.1.1.knowsRun hr) ack
            ((hback o rfl hs).mono h12.1.2) (haud rfl)
        | mismatch =>
          exact safe_failed (failVerification_plain ..) (failVerification_returns _ _ _) _
        | stillTransitioning =>
          dsimp only
          split
          · refine .bind (safe_sleep (Q := fun _ _ => True) fun _ _ _ => trivial)
              (fun _ w3 h3 _ _ => ?_) fun _ _ _ _ _ => Post.error
            exact ih _ ((h2.trans h3).1.1.knowsProposal hp) ((h2.trans h3).1.1.knowsRun hr)
          · exact ih _ (h2.1.1.knowsProposal hp) (h2.1.1.knowsRun hr)

/-- What `verify` has looked up belongs together. -/
theorem lookup_safe (proposalId : UUID) (w : World ι) :
    Safe (successDiscipline isLocal) i (lookup proposalId) (fun o w' => ∀ p run record,
      o = .ok (.succeeded (p, run, record)) → w'.store.KnowsProposal p ∧ w'.store.KnowsRun run ∧
        p.proposalId = proposalId) w := by
  have raised {e : PyExc} {w : World ι} : ∀ p run record,
      (.error e : Except PyExc (ControlResult (ActionProposal × Run × Option IdempotencyRecord))) =
        .ok (.succeeded (p, run, record)) → w.store.KnowsProposal p ∧ w.store.KnowsRun run ∧
        p.proposalId = proposalId := fun _ _ _ h => by cases h
  refine safe_read_bind (o := .getProposal proposalId) (·.proposals.get proposalId) (fun _ => rfl)
    rfl (fun w1 _ _ => ?_) fun _ _ _ _ => raised
  cases hp : w1.store.proposals.get proposalId with
  | none => exact safe_ret fun _ _ _ _ _ _ h => by cases h
  | some p =>
    refine safe_read_bind (o := .getRun p.runId) (·.runs.get p.runId) (fun _ => rfl) rfl
      (fun w2 h2 _ => ?_) fun _ _ _ _ => raised
    cases hr : w2.store.runs.get p.runId with
    | none => exact safe_ret fun _ _ _ _ _ _ h => by cases h
    | some run =>
      refine safe_read_bind (o := .getIdempotency (deriveIdempotencyKey p))
        (·.idempotency.get (deriveIdempotencyKey p)) (fun _ => rfl) rfl (fun w3 h3 _ => ?_)
        fun _ _ _ _ => raised
      refine safe_ret fun w4 h4 _ p' run' record h => ?_
      cases h
      have h34 := (h3.trans h4).1.1
      exact ⟨(h2.1.1.trans h34).knowsProposal (Store.knowsProposal_of_get hp),
        h34.knowsRun (Store.knowsRun_of_get hr), Table.key_of_get hp⟩

/-- **`verify` keeps the discipline**, and a completion it returns is verified truth. -/
theorem verify_safe (settings : VerificationSettings) (target : SandboxTarget) (proposalId : UUID)
    (w : World ι) : Safe (successDiscipline isLocal) i (verify settings target proposalId)
      (Post proposalId) w := by
  refine safe_catching (lookup_safe proposalId w) (fun found w1 _ _ hfound => ?_)
    (fun _ _ _ => safe_fail _ _) fun _ _ _ _ => Post.error
  rcases found with ⟨proposal, run, record⟩ | failure
  · obtain ⟨hp, hr, rfl⟩ := hfound _ _ _ rfl
    dsimp only [verifyLoaded]
    split
    · rename_i hs
      exact reconcileSuccess_safe hr hs _
    rcases record with _ | record
    · exact safe_fail _ _
    dsimp only
    split
    · exact safe_fail _ _
    split
    · exact safe_fail _ _
    split
    · exact finalizeExistingEvidence_safe run _
    split
    · exact safe_fail _ _
    · exact safe_catching (safe_plain (appendEvent_plain ..))
        (fun _ w2 h2 _ _ => poll_safe _ _ _ _ _ _ (h2.1.1.knowsProposal hp) (h2.1.1.knowsRun hr))
        (fun _ _ _ => safe_fail _ _) fun _ _ _ _ => Post.error
  · exact safe_fail _ _

end BoundedVerificationCoordinator

end CloudOpsAgent
